import Concordance.Proofs.Query.Evaluate

/-!
The meaning of clauses, said without evaluation.  A query can be evaluated on every document, and
its value is what the clauses mean.
-/

namespace Concordance

/-- A scanner has its layer in a document, and a match there. -/
def Scanner.Finds (document : Document) (scanner : Scanner) : Prop :=
  document.contains scanner.key = true ∧
    ∃ found, (scanner.find document).outcome = .ok found ∧ found ≠ []

theorem Scanner.finds_iff {document : Document} {scanner : Scanner} :
    scanner.Finds document ↔ scanner.results document ≠ [] := by
  rw [Finds, find_outcome]
  constructor
  · rintro ⟨present, found, outcome, some⟩
    rw [if_pos present] at outcome
    cases outcome
    exact some
  · intro some
    have present : document.contains scanner.key = true :=
      Bool.of_not_eq_false (mt results_eq_nil_of_missing some)
    exact ⟨present, _, if_pos present, some⟩

private theorem le_countP_iff {α : Type} {p : α → Bool} {list : List α} {count : Nat} :
    count ≤ list.countP p ↔
      ∃ picked : List α, picked.Sublist list ∧ picked.length = count ∧
        ∀ a ∈ picked, p a = true := by
  rw [List.countP_eq_length_filter]
  constructor
  · intro enough
    refine ⟨(list.filter p).take count, ?_, List.length_take_of_le enough, ?_⟩
    · exact (List.take_sublist _ _).trans List.filter_sublist
    · intro a member
      exact (List.mem_filter.mp (List.mem_of_mem_take member)).2
  · rintro ⟨picked, sublist, rfl, all⟩
    rw [← List.filter_eq_self.mpr all]
    exact (sublist.filter p).length_le

namespace Clause

/-- What a clause says of a document.  Enough clauses hold if as many can be picked from the list,
all of which hold. -/
def Holds (document : Document) : Clause → Prop
  | term path text caseSensitive wholeWord =>
    (Scanner.ofTerms [text] path caseSensitive wholeWord).Finds document
  | regexp path pattern caseSensitive =>
    ∃ scanner, Scanner.ofPattern pattern path caseSensitive = .ok scanner ∧ scanner.Finds document
  | bool should must mustNot minimumShouldMatch =>
    (∀ clause ∈ must, clause.Holds document) ∧ (∀ clause ∈ mustNot, ¬clause.Holds document) ∧
      ∃ picked : List Clause, ∃ _ : picked.Sublist should,
        picked.length = effectiveMinimum should must minimumShouldMatch ∧
          ∀ clause ∈ picked, clause.Holds document
  | matchAll => True
  | matchNone => False
decreasing_by
  · decreasing_tactic
  · decreasing_tactic
  · next sublist member =>
    have smaller := List.sizeOf_lt_of_mem (sublist.subset member)
    rw [bool.sizeOf_spec]
    omega

variable {document : Document}

mutual

theorem truth_iff_holds : ∀ clause : Clause, clause.Compiles →
    (clause.truth document = true ↔ clause.Holds document)
  | term path text caseSensitive wholeWord, _ => by
      rw [truth_term, Holds, Scanner.finds_iff]
      simp
  | regexp path pattern caseSensitive, compiles => by
      rw [Holds, Scanner.ofPattern_eq_ok compiles]
      simp [truth, prepared, PreparedClause.truth, Scanner.finds_iff]
  | bool should must mustNot minimumShouldMatch, compiles => by
      have shouldSame := forall_truth_iff_holds should compiles.1
      have mustSame := forall_truth_iff_holds must compiles.2.1
      have mustNotSame := forall_truth_iff_holds mustNot compiles.2.2
      rw [truth_bool, Holds, Bool.and_eq_true, Bool.and_eq_true, and_assoc, List.all_eq_true,
        Bool.not_eq_true', List.any_eq_false, decide_eq_true_eq, le_countP_iff]
      refine and_congr ?_ (and_congr ?_ ?_)
      · exact forall₂_congr mustSame
      · exact forall₂_congr fun clause member => not_congr (mustNotSame clause member)
      · apply exists_congr
        intro picked
        rw [exists_prop]
        refine and_congr_right fun sublist => and_congr_right fun _ => ?_
        exact forall₂_congr fun clause member => shouldSame clause (sublist.subset member)
  | matchAll, _ => by
      rw [Holds]
      exact iff_true_intro rfl
  | matchNone, _ => by
      rw [Holds]
      exact iff_false_intro nofun

theorem forall_truth_iff_holds : ∀ clauses : List Clause, AllCompile clauses →
    ∀ clause ∈ clauses, (clause.truth document = true ↔ clause.Holds document)
  | [], _ => nofun
  | clause :: rest, compiles =>
      List.forall_mem_cons.mpr
        ⟨truth_iff_holds clause compiles.1, forall_truth_iff_holds rest compiles.2⟩

end

end Clause

/-- A query whose terminal clauses can be built has a value on every document, whatever layers are
missing, and it is true exactly if the document has what the query asks for. -/
theorem Query.holds_iff {query : Query} (builds : query.toClause.Compiles) (document : Document) :
    ∃ value, (query.holds document).outcome = .ok value ∧
      (value = true ↔
        (∀ clause ∈ query.must, clause.Holds document) ∧
        (∀ clause ∈ query.mustNot, ¬clause.Holds document) ∧
        ∃ picked : List Clause, picked.Sublist query.should ∧
          picked.length = query.effectiveMinimumShouldMatch ∧
          ∀ clause ∈ picked, clause.Holds document) := by
  refine ⟨query.truth document, holds_outcome builds document, ?_⟩
  rw [truth, Clause.truth_iff_holds _ builds, toClause, Clause.Holds]
  simp only [exists_prop]
  rfl

/-! All three of three clauses are asked for, one of them nested and about a missing layer. -/

def Document.greyHen : Document :=
  Document.empty.insertPath "text" "a grey hen"

def Query.henWithoutLemma : Query where
  should := [.term "text" "grey" true true, .regexp "text" "h.n" false,
    .bool [] [] [.term "text_mlp.lemmas" "hen" true true] none]
  must := [.matchAll]
  mustNot := [.regexp "tags" "^bird$" true]
  minimumShouldMatch := some 3

theorem Query.holds_iff_greyHen :
    ∃ value, (henWithoutLemma.holds .greyHen).outcome = .ok value ∧
      (value = true ↔
        (∀ clause ∈ henWithoutLemma.must, clause.Holds .greyHen) ∧
        (∀ clause ∈ henWithoutLemma.mustNot, ¬clause.Holds .greyHen) ∧
        ∃ picked : List Clause, picked.Sublist henWithoutLemma.should ∧
          picked.length = henWithoutLemma.effectiveMinimumShouldMatch ∧
          ∀ clause ∈ picked, clause.Holds .greyHen) := by
  apply holds_iff
  refine ⟨⟨trivial, ?_, ⟨trivial, trivial, trivial, trivial⟩, trivial⟩, ⟨trivial, trivial⟩, ?_,
    trivial⟩
  · show (Pattern.compile? false "h.n").isSome = true
    decide +kernel
  · show (Pattern.compile? true "^bird$").isSome = true
    decide +kernel

end Concordance
