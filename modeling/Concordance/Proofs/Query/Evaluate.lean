import Concordance.Proofs.Matcher.Build
import Concordance.Query.Evaluate

/-!
The meaning of queries.  Evaluation never fails, whatever layers a document lacks, and looks at no
more clauses than it has to; its value is the truth of the clauses, counted.
-/

namespace Concordance

open Text Pattern

namespace PreparedClause

variable (document : Document)

mutual

/-- Whether a clause is true of a document. -/
def truth : PreparedClause → Bool
  | scan scanner => !(scanner.results document).isEmpty
  | bool should must mustNot minimum =>
    (truths must).all id && !(truths mustNot).any id &&
      decide (minimum ≤ (truths should).count true)
  | const value => value

def truths : List PreparedClause → List Bool
  | [] => []
  | clause :: rest => truth clause :: truths rest

end

theorem truths_eq_map (clauses : List PreparedClause) :
    truths document clauses = clauses.map (truth document) := by
  induction clauses with
  | nil => rfl
  | cons clause rest ih => rw [truths, ih, List.map_cons]

theorem scan_outcome (scanner : Scanner) :
    ((scan scanner).holds document).outcome = .ok ((scan scanner).truth document) := by
  rw [holds, truth]
  cases present : document.contains scanner.key with
  | true =>
      rw [if_pos rfl, Traced.outcome_bind, Scanner.find_outcome, present]
      rfl
  | false =>
      rw [Scanner.results_eq_nil_of_missing present]
      rfl

mutual

/-- Evaluation gives the truth of a clause. -/
theorem holds_outcome : ∀ clause : PreparedClause,
    (clause.holds document).outcome = .ok (clause.truth document)
  | scan scanner => scan_outcome document scanner
  | bool should must mustNot minimum => by
      rw [holds, truth, Traced.outcome_bind, holdsAll_outcome must, ok_bind]
      cases (truths document must).all id with
      | false => rfl
      | true =>
          rw [if_pos rfl, Traced.outcome_bind, holdsAny_outcome mustNot, ok_bind]
          cases (truths document mustNot).any id with
          | true => rfl
          | false => exact holdsAtLeast_outcome should minimum
  | const value => rfl

theorem holdsAll_outcome : ∀ clauses : List PreparedClause,
    (holdsAll document clauses).outcome = .ok ((truths document clauses).all id)
  | [] => rfl
  | clause :: rest => by
      rw [holdsAll, truths, List.all_cons, Traced.outcome_bind, holds_outcome clause, ok_bind]
      cases truth document clause with
      | false => rfl
      | true => exact holdsAll_outcome rest

theorem holdsAny_outcome : ∀ clauses : List PreparedClause,
    (holdsAny document clauses).outcome = .ok ((truths document clauses).any id)
  | [] => rfl
  | clause :: rest => by
      rw [holdsAny, truths, List.any_cons, Traced.outcome_bind, holds_outcome clause, ok_bind]
      cases truth document clause with
      | true => rfl
      | false => exact holdsAny_outcome rest

theorem holdsAtLeast_outcome : ∀ (clauses : List PreparedClause) (minimum : Nat),
    (holdsAtLeast document minimum clauses).outcome =
      .ok (decide (minimum ≤ (truths document clauses).count true))
  | [], minimum => by
      rw [holdsAtLeast, truths, List.count_nil, Traced.outcome_pure, Except.ok.injEq,
        Bool.eq_iff_iff]
      simp
  | clause :: rest, minimum => by
      rw [holdsAtLeast, truths, List.count_cons]
      split
      · next enough =>
        subst enough
        rfl
      · next positive =>
        rw [Traced.outcome_bind, holds_outcome clause, ok_bind]
        cases truth document clause with
        | true =>
            rw [if_pos rfl, holdsAtLeast_outcome rest (minimum - 1), if_pos BEq.rfl]
            simp only [Except.ok.injEq, decide_eq_decide]
            omega
        | false => exact holdsAtLeast_outcome rest minimum

end

end PreparedClause

/-! Preparation. -/

namespace Clause

mutual

/-- A clause with its scanners built, as far as its patterns compile. -/
def prepared : Clause → PreparedClause
  | term path text caseSensitive wholeWord =>
    .scan (.ofTerms [text] path caseSensitive wholeWord)
  | regexp path pattern caseSensitive => .scan (.ofCompiled pattern path caseSensitive)
  | bool should must mustNot minimumShouldMatch =>
    .bool (preparedAll should) (preparedAll must) (preparedAll mustNot)
      (effectiveMinimum should must minimumShouldMatch)
  | matchAll => .const true
  | matchNone => .const false

def preparedAll : List Clause → List PreparedClause
  | [] => []
  | clause :: rest => prepared clause :: preparedAll rest

end

theorem preparedAll_eq_map (clauses : List Clause) :
    preparedAll clauses = clauses.map prepared := by
  induction clauses with
  | nil => rfl
  | cons clause rest ih => rw [preparedAll, ih, List.map_cons]

mutual

/-- All patterns compile. -/
def Compiles : Clause → Prop
  | regexp _ pattern caseSensitive => (compile? caseSensitive pattern).isSome = true
  | bool should must mustNot _ => AllCompile should ∧ AllCompile must ∧ AllCompile mustNot
  | _ => True

def AllCompile : List Clause → Prop
  | [] => True
  | clause :: rest => Compiles clause ∧ AllCompile rest

end

theorem allCompile_iff {clauses : List Clause} :
    AllCompile clauses ↔ ∀ clause ∈ clauses, clause.Compiles := by
  induction clauses with
  | nil => simp [AllCompile]
  | cons clause rest ih => rw [AllCompile, ih, List.forall_mem_cons]

mutual

theorem prepare_eq_ok : ∀ clause : Clause, clause.Compiles → clause.prepare = .ok clause.prepared
  | term path text caseSensitive wholeWord, compiles => rfl
  | regexp path pattern caseSensitive, compiles => by
      rw [prepare, prepared, Scanner.ofPattern_eq_ok compiles]
      rfl
  | bool should must mustNot minimumShouldMatch, compiles => by
      rw [prepare, prepared, prepareAll_eq_ok should compiles.1, ok_bind,
        prepareAll_eq_ok must compiles.2.1, ok_bind, prepareAll_eq_ok mustNot compiles.2.2, ok_bind]
      rfl
  | matchAll, compiles => rfl
  | matchNone, compiles => rfl

theorem prepareAll_eq_ok : ∀ clauses : List Clause, AllCompile clauses →
    prepareAll clauses = .ok (preparedAll clauses)
  | [], compiles => rfl
  | clause :: rest, compiles => by
      rw [prepareAll, prepare_eq_ok clause compiles.1, ok_bind, prepareAll_eq_ok rest compiles.2,
        ok_bind]
      rfl

end

mutual

theorem compiles_of_prepare : ∀ (clause : Clause) {prepared : PreparedClause},
    clause.prepare = .ok prepared → clause.Compiles
  | term _ _ _ _, _, _ => trivial
  | regexp path pattern caseSensitive, _, built => by
      rw [prepare, Scanner.ofPattern] at built
      rw [Compiles]
      cases compiled : compile? caseSensitive pattern with
      | none =>
          rw [compiled] at built
          cases built
      | some regex => rfl
  | bool should must mustNot minimumShouldMatch, _, built => by
      rw [prepare] at built
      obtain ⟨_, shouldBuilt, built⟩ := bind_eq_ok_iff.mp built
      obtain ⟨_, mustBuilt, built⟩ := bind_eq_ok_iff.mp built
      obtain ⟨_, mustNotBuilt, -⟩ := bind_eq_ok_iff.mp built
      exact ⟨allCompile_of_prepareAll should shouldBuilt, allCompile_of_prepareAll must mustBuilt,
        allCompile_of_prepareAll mustNot mustNotBuilt⟩
  | matchAll, _, _ => trivial
  | matchNone, _, _ => trivial

theorem allCompile_of_prepareAll : ∀ (clauses : List Clause) {prepared : List PreparedClause},
    prepareAll clauses = .ok prepared → AllCompile clauses
  | [], _, _ => trivial
  | clause :: rest, _, built => by
      rw [prepareAll] at built
      obtain ⟨_, firstBuilt, built⟩ := bind_eq_ok_iff.mp built
      obtain ⟨_, restBuilt, -⟩ := bind_eq_ok_iff.mp built
      exact ⟨compiles_of_prepare clause firstBuilt, allCompile_of_prepareAll rest restBuilt⟩

end

/-- Whether a clause is true of a document, a pattern that does not compile having no match. -/
def truth (document : Document) (clause : Clause) : Bool :=
  clause.prepared.truth document

variable {document : Document}

/-- Built and then evaluated on a document, the clause has this value. -/
def Evaluates (document : Document) (clause : Clause) (value : Bool) : Prop :=
  ∃ prepared, clause.prepare = .ok prepared ∧ (prepared.holds document).outcome = .ok value

theorem evaluates_iff {clause : Clause} {value : Bool} :
    clause.Evaluates document value ↔ clause.Compiles ∧ clause.truth document = value := by
  constructor
  · rintro ⟨prepared, built, outcome⟩
    have compiles := compiles_of_prepare clause built
    obtain rfl := Except.ok.inj ((prepare_eq_ok clause compiles).symm.trans built)
    rw [PreparedClause.holds_outcome] at outcome
    exact ⟨compiles, Except.ok.inj outcome⟩
  · rintro ⟨compiles, rfl⟩
    exact ⟨_, prepare_eq_ok clause compiles, PreparedClause.holds_outcome document _⟩

theorem exists_evaluates_iff {clause : Clause} :
    (∃ value, clause.Evaluates document value) ↔ clause.Compiles := by
  simp [evaluates_iff]

theorem truth_bool (should must mustNot : List Clause) (minimumShouldMatch : Option Nat) :
    (bool should must mustNot minimumShouldMatch).truth document =
      (must.all (truth document) && !mustNot.any (truth document) &&
        decide (effectiveMinimum should must minimumShouldMatch ≤
          should.countP (truth document))) := by
  have compose : PreparedClause.truth document ∘ prepared = truth document := rfl
  rw [truth, prepared, PreparedClause.truth]
  simp only [PreparedClause.truths_eq_map, preparedAll_eq_map, List.map_map, compose, List.all_map,
    List.any_map, Function.id_comp, List.count, List.countP_map]
  congr 4
  funext clause
  simp

theorem truth_must (clauses : List Clause) :
    (bool [] clauses [] none).truth document = clauses.all (truth document) := by
  simp [truth_bool, effectiveMinimum]

theorem truth_should (clauses : List Clause) :
    (bool clauses [] [] (some 1)).truth document = clauses.any (truth document) := by
  rw [truth_bool, Bool.eq_iff_iff]
  simp [effectiveMinimum, Nat.one_le_iff_ne_zero]

theorem truth_mustNot (clause : Clause) :
    (bool [] [] [clause] none).truth document = !clause.truth document := by
  simp [truth_bool, effectiveMinimum]

theorem truth_term (path text : String) (caseSensitive wholeWord : Bool) :
    (term path text caseSensitive wholeWord).truth document =
      !((Scanner.ofTerms [text] path caseSensitive wholeWord).results document).isEmpty := rfl

end Clause

namespace Query

/-- Whether a query is true of a document. -/
def truth (document : Document) (query : Query) : Bool :=
  query.toClause.truth document

/-- A query whose patterns compile can always be evaluated. -/
theorem holds_outcome {query : Query} (compiles : query.toClause.Compiles) (document : Document) :
    (query.holds document).outcome = .ok (query.truth document) := by
  rw [holds, prepare, Clause.prepare_eq_ok _ compiles, Traced.outcome_bind, Traced.outcome_liftM,
    ok_bind, PreparedClause.holds_outcome]
  rfl

end Query

end Concordance
