import Concordance.Proofs.Query.Meaning
import Concordance.Proofs.Query.Recall
import Concordance.Proofs.Query.Table

/-!
Matchers between bounds.  Read over any table, with each symbol as true as its terminal has a match,
the lower bound of a valid grammar implies that its matcher finds something, and what the matcher
finds implies the upper bound.  In a table a terminal keeps the symbol that it has got, and no other
terminal gets it.
-/

namespace Concordance

namespace Grammar

variable {document : Document} {grammar : Grammar}

/-- The grammar has a matcher, and the matcher finds something. -/
def HasMatch (document : Document) (grammar : Grammar) : Prop :=
  ∃ matcher found, Matcher.ofGrammar grammar = .ok matcher ∧
    (matcher.find document).outcome = .ok found ∧ found ≠ []

theorem hasMatch_iff (valid : grammar.WellFormed) (present : grammar.PresentIn document) :
    grammar.HasMatch document ↔ grammar.results document ≠ [] := by
  constructor
  · rintro ⟨matcher, found, built, finds, nonempty⟩
    obtain ⟨-, rfl⟩ := ofGrammar_eq_ok_iff.mp built
    rw [find_matcher valid present] at finds
    cases finds
    exact nonempty
  · exact fun nonempty => ⟨_, _, ofGrammar_eq_ok valid, find_matcher valid present, nonempty⟩

/-- Each terminal of a valid grammar is a valid grammar itself, with its layer in the document. -/
theorem hasMatch_terminal_iff (valid : grammar.WellFormed) (present : grammar.PresentIn document)
    {t : Terminal} (member : t ∈ grammar.terminals) :
    (terminal t).HasMatch document ↔ t.scanner.results document ≠ [] := by
  have own : (terminal t).WellFormed := valid_terminals grammar valid t member
  have ownPresent : (terminal t).PresentIn document := by
    rw [PresentIn, terminals, List.forall_mem_singleton]
    exact present t member
  rw [hasMatch_iff own ownPresent, results_terminal]

/-- Whatever table the bounds of a valid grammar start from, and wherever the document has its
layers, the matcher stands between them.  The table keeps what it had and gets the terminals of the
grammar, equal terminals under one symbol and different ones under different symbols. -/
theorem bounds_sandwich {table final : SymbolTable} {bounds : Bounds}
    (valid : grammar.validate = .ok ()) (present : grammar.PresentIn document)
    (bounded : grammar.bounds table = (bounds, final)) :
    ∃ matcher found, Matcher.ofGrammar grammar = .ok matcher ∧
      (matcher.find document).outcome = .ok found ∧
      (∀ assignment : Nat → Bool,
        (∀ (id : Nat) t, final[id]? = some t →
          (assignment id = true ↔ (terminal t).HasMatch document)) →
        (bounds.lower.eval assignment = true → found ≠ []) ∧
        (found ≠ [] → bounds.upper.eval assignment = true)) ∧
      (∀ (id : Nat) t, table[id]? = some t → final[id]? = some t) ∧
      (∀ t, t ∈ final ↔ t ∈ table ∨ t ∈ grammar.terminals) ∧
      (table.Nodup → final.Nodup) ∧
      ∀ (known : SymbolTable) (t : Terminal),
        (∀ (id : Nat) other, known[id]? = some other → (known.intern t).2[id]? = some other) ∧
        (known.intern t).2[(known.intern t).1]? = some t ∧
        ∀ (later : SymbolTable) (other : Terminal), (known.intern t).2 <+: later →
          ((later.intern other).1 = (known.intern t).1 ↔ other = t) := by
  rw [validate_eq_ok_iff] at valid
  obtain rfl : (grammar.bounds table).1 = bounds := by rw [bounded]
  obtain rfl : (grammar.bounds table).2 = final := by rw [bounded]
  refine ⟨_, _, ofGrammar_eq_ok valid, find_matcher valid present, ?_, ?_, fun t => mem_bounds_iff,
    ?_, ?_⟩
  · intro assignment reads
    have enclosed : Bounds.Enclose assignment (grammar.results document ≠ [])
        (grammar.bounds table).1 := by
      apply enclose_bounds_of_reads grammar table valid (List.prefix_refl _)
      intro t member id read
      exact (reads id t read).trans (hasMatch_terminal_iff valid present member)
    exact ⟨enclosed.lower, enclosed.upper⟩
  · exact fun id t => SymbolTable.getElem?_of_isPrefix (isPrefix_bounds grammar table)
  · intro nodup
    rw [table_eq_internAll]
    exact SymbolTable.nodup_internAll nodup
  · intro known t
    refine ⟨fun id other => SymbolTable.getElem?_of_isPrefix SymbolTable.isPrefix_intern,
      SymbolTable.getElem?_intern, fun later other => SymbolTable.intern_eq_iff⟩

/-! A hen that stands on both sides of a negation, read over a table with a wolf. -/

def henAwayFromFox : Grammar :=
  combine .intersect [exact "hen" "text" ["hen"],
    combine .not [gap (some 2) [exact "fox" "text" ["fox"], exact "hen" "text" ["hen"]]]]

def wolfTable : SymbolTable :=
  [⟨"wolf", "text", .exact ["wolf"], false, false⟩]

theorem bounds_sandwich_henAwayFromFox :
    henAwayFromFox.validate = .ok () ∧ henAwayFromFox.PresentIn .greyHen ∧
      ((henAwayFromFox.bounds wolfTable).1.lower.eval fun id => id == 1) = true ∧
      (∃ matcher found, Matcher.ofGrammar henAwayFromFox = .ok matcher ∧
        (matcher.find .greyHen).outcome = .ok found ∧ found ≠ []) ∧
      (henAwayFromFox.bounds wolfTable).2.Nodup := by
  have present : henAwayFromFox.PresentIn .greyHen := by decide
  have lower : ((henAwayFromFox.bounds wolfTable).1.lower.eval fun id => id == 1) = true := rfl
  have wolfMissing : ¬(exact "wolf" "text" ["wolf"]).HasMatch .greyHen := by
    rw [@hasMatch_iff .greyHen (exact "wolf" "text" ["wolf"]) rfl (by decide)]
    decide +kernel
  have henFound : (exact "hen" "text" ["hen"]).HasMatch .greyHen := by
    rw [@hasMatch_iff .greyHen (exact "hen" "text" ["hen"]) rfl (by decide)]
    decide +kernel
  have foxMissing : ¬(exact "fox" "text" ["fox"]).HasMatch .greyHen := by
    rw [@hasMatch_iff .greyHen (exact "fox" "text" ["fox"]) rfl (by decide)]
    decide +kernel
  obtain ⟨matcher, found, built, finds, between, -, -, distinct, -⟩ :=
    @bounds_sandwich .greyHen henAwayFromFox wolfTable _ _ rfl present rfl
  refine ⟨rfl, present, lower, ⟨matcher, found, built, finds, (between _ ?_).1 lower⟩,
    distinct (by decide)⟩
  intro id t read
  match id with
  | 0 =>
      cases read
      exact iff_of_false nofun wolfMissing
  | 1 =>
      cases read
      exact iff_of_true rfl henFound
  | 2 =>
      cases read
      exact iff_of_false nofun foxMissing
  | id + 3 => cases read

end Grammar

end Concordance
