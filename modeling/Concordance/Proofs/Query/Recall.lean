import Concordance.Proofs.Query.Compile

/-!
Queries against matchers.  A compiled query never loses a document that its grammars admit, and the
query that excludes a grammar about whole documents is exact.
-/

namespace Concordance

open Text

/-! What is found of literal terms. -/

namespace Grammar

variable {document : Document} {t : Terminal} {terms : List String}

/-- An exact terminal has a match where one of its terms stands in the text of its layer. -/
theorem results_exact_ne_nil_iff (valid : t.error? .root = none)
    (exact : t.matcher = .exact terms) :
    (terminal t).results document ≠ [] ↔
      ∃ layer, document.layers.get? t.key = some layer ∧
        ∃ term ∈ terms, ∃ i j, i ≤ layer.text.toList.toArray.size ∧
          j ∈ (Scanner.termRegex t.caseSensitive t.wholeWord term).ends
            layer.text.toList.toArray i := by
  have solid := (Terminal.terms_of_valid valid exact).2
  rw [results_terminal, Scanner.results_ne_nil_iff, Terminal.scanner_key]
  simp only [Terminal.scanner, exact, Scanner.occurrences_ofTerms_ne_nil_iff solid]

/-- A document has all layers of the terminals of a grammar. -/
def PresentIn (document : Document) (grammar : Grammar) : Prop :=
  ∀ t ∈ grammar.terminals, document.contains t.key = true

instance (document : Document) (grammar : Grammar) : Decidable (grammar.PresentIn document) :=
  inferInstanceAs (Decidable (∀ t ∈ grammar.terminals, document.contains t.key = true))

theorem find_matcher {grammar : Grammar} (valid : grammar.WellFormed)
    (present : grammar.PresentIn document) :
    (grammar.matcher.find document).outcome = .ok (grammar.results document) := by
  rw [Matcher.find_outcome, keys_matcher grammar valid]
  exact Document.require_eq_ok _ (List.forall_mem_map.mpr present)

theorem isMatch_matcher {grammar : Grammar} (valid : grammar.WellFormed)
    (present : grammar.PresentIn document) :
    (grammar.matcher.isMatch document).outcome = .ok !(grammar.results document).isEmpty := by
  rw [Matcher.isMatch_outcome, keys_matcher grammar valid]
  exact Document.require_eq_ok _ (List.forall_mem_map.mpr present)

theorem results_of_isMatch {grammar : Grammar} {matcher : Matcher} {value : Bool}
    (built : Matcher.ofGrammar grammar = .ok matcher)
    (decided : (matcher.isMatch document).outcome = .ok value) :
    grammar.WellFormed ∧ (value = true ↔ grammar.results document ≠ []) := by
  obtain ⟨valid, rfl⟩ := ofGrammar_eq_ok_iff.mp built
  rw [Matcher.isMatch_outcome, Document.require_eq_ok_iff] at decided
  obtain ⟨-, rfl⟩ := decided
  exact ⟨valid, by simp [results]⟩

end Grammar

/-! Recall. -/

/-- A query holds for every document that the matcher of the inclusive grammar accepts and the
matcher of the exclusive grammar does not, where these grammars are given. -/
theorem CompilerOptions.compile_holds {options : CompilerOptions}
    {inclusive exclusive : Option Grammar} {document : Document}
    (required : options.threshold = .requiredTerminals)
    (accepted : ∀ grammar ∈ inclusive, ∃ matcher, Matcher.ofGrammar grammar = .ok matcher ∧
      (matcher.isMatch document).outcome = .ok true)
    (rejected : ∀ grammar ∈ exclusive, ∃ matcher, Matcher.ofGrammar grammar = .ok matcher ∧
      (matcher.isMatch document).outcome = .ok false) :
    ∃ query, (options.compile inclusive exclusive).outcome = .ok query ∧
      (query.holds document).outcome = .ok true := by
  have wanted : ∀ grammar ∈ inclusive, grammar.WellFormed ∧ grammar.results document ≠ [] := by
    intro grammar member
    obtain ⟨matcher, built, found⟩ := accepted grammar member
    obtain ⟨valid, decided⟩ := Grammar.results_of_isMatch built found
    exact ⟨valid, decided.mp rfl⟩
  have unwanted : ∀ grammar ∈ exclusive, grammar.WellFormed ∧ grammar.results document = [] := by
    intro grammar member
    obtain ⟨matcher, built, missing⟩ := rejected grammar member
    obtain ⟨valid, decided⟩ := Grammar.results_of_isMatch built missing
    exact ⟨valid, Decidable.of_not_not fun found => Bool.false_ne_true (decided.mpr found)⟩
  have inclusiveValid := fun grammar member => (wanted grammar member).1
  have exclusiveValid := fun grammar member => (unwanted grammar member).1
  refine ⟨_, compile_outcome inclusiveValid exclusiveValid, ?_⟩
  rw [Query.holds_outcome (compiles_query required inclusiveValid exclusiveValid)]
  exact congrArg Except.ok (truth_query_of_results required inclusiveValid exclusiveValid
    (fun grammar member => (wanted grammar member).2)
    (fun grammar member => (unwanted grammar member).2))

/-! A document that is kept: it has one of two colours, and so does not lack them. -/

def Terminal.colour : Terminal :=
  ⟨"colour", "text", .exact ["crimson", "red"], true, true⟩

def Document.redFox : Document :=
  Document.empty.insertPath "text" "a red fox"

private theorem colour_found : (Grammar.terminal .colour).results .redFox ≠ [] :=
  (Grammar.results_exact_ne_nil_iff rfl rfl).mpr
    ⟨.ofText "a red fox", rfl, "red", by decide, 2, 5, by decide, by decide⟩

private theorem colour_present : ∀ t ∈ [Terminal.colour], Document.redFox.contains t.key = true :=
  List.forall_mem_singleton.mpr rfl

theorem CompilerOptions.compile_holds_redFox :
    ∃ query, (({} : CompilerOptions).compile (some (.terminal .colour))
        (some (.combine .not [.terminal .colour]))).outcome = .ok query ∧
      (query.holds .redFox).outcome = .ok true := by
  have valid : (Grammar.terminal .colour).WellFormed := rfl
  have negatedValid : (Grammar.combine .not [.terminal .colour]).WellFormed := ⟨rfl, rfl, trivial⟩
  have missing : (Grammar.combine .not [.terminal .colour]).results .redFox = [] :=
    Decidable.of_not_not fun found => colour_found (Grammar.results_not_ne_nil_iff.mp found)
  apply compile_holds rfl
  · rintro - ⟨⟩
    refine ⟨_, Grammar.ofGrammar_eq_ok valid, ?_⟩
    rw [Grammar.isMatch_matcher valid colour_present, List.isEmpty_eq_false_iff.mpr colour_found]
    rfl
  · rintro - ⟨⟩
    refine ⟨_, Grammar.ofGrammar_eq_ok negatedValid, ?_⟩
    rw [Grammar.isMatch_matcher negatedValid colour_present, missing]
    rfl

/-! Grammars about whole documents. -/

/-- Whether a node leaves the positions of tokens out of account: a sequence of one terminal, an
alignment of one child, or no positional node. -/
def Operation.Unordered (operation : Operation) (children : List Grammar) : Prop :=
  match operation with
  | .concat | .gap => ∃ t, children = [.terminal t]
  | .layerMatch => ∃ child, children = [child]
  | .not | .union | .intersect => True

namespace Grammar

mutual

/-- No node asks how tokens follow each other. -/
def DocumentLevel : Grammar → Prop
  | terminal _ => True
  | composite _ operation children _ _ =>
    operation.Unordered children ∧ AllDocumentLevel children

def AllDocumentLevel : List Grammar → Prop
  | [] => True
  | child :: rest => child.DocumentLevel ∧ AllDocumentLevel rest

end

mutual

theorem upper_eq_lower : ∀ (grammar : Grammar) (table : SymbolTable), grammar.DocumentLevel →
    (grammar.bounds table).1.upper = (grammar.bounds table).1.lower
  | terminal t, table, level => rfl
  | composite name operation children slop matchFirst, table, level => by
      have same := map_upper_eq_map_lower children table level.2
      have unordered := level.1
      rw [bounds]
      cases operation with
      | intersect => exact congrArg Expr.and same
      | union => exact congrArg Expr.or same
      | not => exact congrArg (Expr.not ∘ Expr.and) same.symm
      | concat =>
          obtain ⟨t, rfl⟩ := unordered
          exact congrArg Expr.and same
      | gap =>
          obtain ⟨t, rfl⟩ := unordered
          exact congrArg Expr.and same
      | layerMatch =>
          obtain ⟨child, rfl⟩ := unordered
          cases child with
          | terminal t => exact congrArg Expr.and same
          | composite _ _ _ _ _ => exact congrArg Expr.and same

theorem map_upper_eq_map_lower : ∀ (children : List Grammar) (table : SymbolTable),
    AllDocumentLevel children →
      (boundsOfAll children table).1.map Bounds.upper =
        (boundsOfAll children table).1.map Bounds.lower
  | [], _, _ => rfl
  | child :: rest, table, level => by
      rw [boundsOfAll, List.map_cons, List.map_cons, upper_eq_lower child table level.1,
        map_upper_eq_map_lower rest (child.bounds table).2 level.2]

end

end Grammar

theorem Grammar.eval_lower {grammar : Grammar} {document : Document} (valid : grammar.WellFormed)
    (level : grammar.DocumentLevel) :
    (grammar.bounds []).1.lower.eval ((grammar.bounds []).2.assignment document) =
      !(grammar.results document).isEmpty := by
  have enclosed := @enclose_bounds document _ grammar [] valid (List.prefix_refl _)
  have upper := enclosed.upper
  rw [upper_eq_lower grammar [] level] at upper
  rw [Bool.eq_iff_iff, Bool.not_eq_true', List.isEmpty_eq_false_iff]
  exact ⟨enclosed.lower, upper⟩

/-- The query that excludes a grammar about whole documents holds exactly for the documents in which
its matcher finds nothing. -/
theorem CompilerOptions.compile_exclusive_exact {options : CompilerOptions} {grammar : Grammar}
    {document : Document} (required : options.threshold = .requiredTerminals)
    (valid : grammar.validate = .ok ()) (level : grammar.DocumentLevel)
    (present : grammar.PresentIn document) :
    ∃ query matcher found, (options.compile none (some grammar)).outcome = .ok query ∧
      Matcher.ofGrammar grammar = .ok matcher ∧ (matcher.find document).outcome = .ok found ∧
      (query.holds document).outcome = .ok found.isEmpty := by
  rw [Grammar.validate_eq_ok_iff] at valid
  have inclusiveValid : ∀ node ∈ (none : Option Grammar), node.WellFormed := nofun
  have exclusiveValid : ∀ node ∈ some grammar, node.WellFormed := by simpa using valid
  refine ⟨_, _, _, compile_outcome inclusiveValid exclusiveValid, Grammar.ofGrammar_eq_ok valid,
    Grammar.find_matcher valid present, ?_⟩
  rw [Query.holds_outcome (compiles_query required inclusiveValid exclusiveValid), truth_query,
    Option.elim_some, any_exclusiveClauses valid required, Grammar.eval_lower valid level,
    Bool.not_not]
  rfl

def Grammar.colourOrNone : Grammar :=
  combine .layerMatch
    [combine .union [gap (some 2) [terminal .colour], combine .not [terminal .colour]]]

theorem CompilerOptions.compile_exclusive_exact_redFox :
    ∃ query matcher found,
      (({} : CompilerOptions).compile none (some .colourOrNone)).outcome = .ok query ∧
      Matcher.ofGrammar .colourOrNone = .ok matcher ∧
      (matcher.find .redFox).outcome = .ok found ∧
      (query.holds .redFox).outcome = .ok found.isEmpty := by
  apply compile_exclusive_exact rfl rfl
  · exact ⟨⟨_, rfl⟩, ⟨trivial, ⟨⟨_, rfl⟩, trivial, trivial⟩, ⟨trivial, trivial, trivial⟩, trivial⟩,
      trivial⟩
  · intro t member
    change t ∈ [Terminal.colour, Terminal.colour] at member
    exact colour_present t (by simpa using member)

end Concordance
