import Concordance.Proofs.Expr.Thresholds
import Concordance.Proofs.Query.Compile

/-!
The limit of the expansion.  Under a larger limit a threshold is at least as high, and it is zero
only where it was: so the clauses of the query stay the same, and the query holds for fewer
documents, if for others at all.
-/

namespace Concordance

namespace Query

/-- Both queries have the same clauses, and the second one asks for at least as many of them. -/
structure Tightens (loose tight : Query) : Prop where
  should : loose.should = tight.should
  must : loose.must = tight.must
  mustNot : loose.mustNot = tight.mustNot
  minimum : Option.Rel (· ≤ ·) loose.minimumShouldMatch tight.minimumShouldMatch

theorem Tightens.refl (query : Query) : query.Tightens query where
  should := rfl
  must := rfl
  mustNot := rfl
  minimum := by
    cases query.minimumShouldMatch with
    | none => exact .none
    | some minimum => exact .some (Nat.le_refl minimum)

theorem Tightens.truth {loose tight : Query} (tightens : loose.Tightens tight)
    {document : Document} (holds : tight.truth document = true) :
    loose.truth document = true := by
  obtain ⟨should, must, mustNot, looseMinimum⟩ := loose
  obtain ⟨_, _, _, tightMinimum⟩ := tight
  obtain ⟨rfl, rfl, rfl, related⟩ := tightens
  rw [Query.truth, toClause, Clause.truth_bool, Bool.and_eq_true, decide_eq_true_iff] at *
  obtain ⟨required, enough⟩ := holds
  refine ⟨required, Nat.le_trans ?_ enough⟩
  dsimp only at related ⊢
  cases related with
  | none => exact Nat.le_refl _
  | some le => exact le

end Query

namespace CompilerOptions

open Concordance.Expr

variable {small large : Nat} {expr : Expr}

theorem minimumOf_requiredTerminals (limit : Nat) (expr : Expr) :
    minimumOf ⟨.requiredTerminals, limit⟩ expr =
      (expr.minPositiveSupport? limit).getD expr.positiveLowerBound := rfl

theorem minimumOf_mono (normal : Normal expr) (le : small ≤ large) :
    minimumOf ⟨.requiredTerminals, small⟩ expr ≤ minimumOf ⟨.requiredTerminals, large⟩ expr ∧
      (minimumOf ⟨.requiredTerminals, small⟩ expr = 0 →
        minimumOf ⟨.requiredTerminals, large⟩ expr = 0) := by
  rw [minimumOf_requiredTerminals, minimumOf_requiredTerminals]
  cases supported : expr.minPositiveSupport? small with
  | some minimum =>
      obtain ⟨within, least⟩ := minPositiveSupport?_eq_some_iff.mp supported
      rw [minPositiveSupport?_eq_some_iff.mpr ⟨Nat.le_trans within le, least⟩]
      exact ⟨Nat.le_refl _, id⟩
  | none =>
      cases exact : expr.minPositiveSupport? large with
      | some minimum =>
          exact ⟨positiveLowerBound_le_minPositiveSupport? exact, normal.minimum_eq_zero exact⟩
      | none => exact ⟨Nat.le_refl _, id⟩

theorem tightens_queryOf (settled : Settled expr) (le : small ≤ large) (table : SymbolTable) :
    (queryOf ⟨.requiredTerminals, small⟩ expr table).Tightens
      (queryOf ⟨.requiredTerminals, large⟩ expr table) := by
  rw [queryOf, queryOf]
  rcases settled with ⟨value, rfl⟩ | normal
  · exact .refl _
  · obtain ⟨mono, zero⟩ := minimumOf_mono normal le
    rw [normal.const?_eq_none]
    dsimp only
    split
    · next none =>
      rw [if_pos (zero none)]
      exact .refl _
    · next some =>
      rw [if_neg (by omega)]
      exact ⟨rfl, rfl, rfl, .some mono⟩

theorem query_requiredTerminals (limit : Nat) (grammar : Grammar) :
    query ⟨.requiredTerminals, limit⟩ (some grammar) none =
      { queryOf ⟨.requiredTerminals, limit⟩ (grammar.bounds []).1.upper.simplify
          (grammar.bounds []).2 with mustNot := [] } := by
  rw [query, Option.elim_some, Option.elim_none, inclusiveQuery, inclusiveExpr]

theorem tightens_query (grammar : Grammar) (le : small ≤ large) :
    (query ⟨.requiredTerminals, small⟩ (some grammar) none).Tightens
      (query ⟨.requiredTerminals, large⟩ (some grammar) none) := by
  obtain ⟨should, must, -, minimum⟩ :=
    tightens_queryOf (settled_simplify (grammar.bounds []).1.upper) le (grammar.bounds []).2
  rw [query_requiredTerminals, query_requiredTerminals]
  exact ⟨should, must, rfl, minimum⟩

/-- A larger limit only tightens the query of an inclusive grammar: it has the same clauses and asks
for as many of them or more, so it holds for no document that was not matched before. -/
theorem compile_tightens {grammar : Grammar} (valid : grammar.validate = .ok ())
    (le : small ≤ large) :
    ∃ loose tight,
      (compile ⟨.requiredTerminals, small⟩ (some grammar) none).outcome = .ok loose ∧
      (compile ⟨.requiredTerminals, large⟩ (some grammar) none).outcome = .ok tight ∧
      loose.Tightens tight ∧
      ∀ document : Document, ∃ looseHolds tightHolds,
        (loose.holds document).outcome = .ok looseHolds ∧
        (tight.holds document).outcome = .ok tightHolds ∧
        (tightHolds = true → looseHolds = true) := by
  rw [Grammar.validate_eq_ok_iff] at valid
  have inclusiveValid : ∀ node ∈ some grammar, node.WellFormed := by simpa using valid
  have exclusiveValid : ∀ node ∈ (none : Option Grammar), node.WellFormed := nofun
  refine ⟨_, _, compile_outcome inclusiveValid exclusiveValid,
    compile_outcome inclusiveValid exclusiveValid, tightens_query grammar le, ?_⟩
  intro document
  exact ⟨_, _, Query.holds_outcome (compiles_query rfl inclusiveValid exclusiveValid) document,
    Query.holds_outcome (compiles_query rfl inclusiveValid exclusiveValid) document,
    (tightens_query grammar le).truth⟩

end CompilerOptions

/-! One word of each of two pairs: four terms are too many for a limit of three, so that one terminal
is asked for where two are needed. -/

def Grammar.anyOf (words : List String) : Grammar :=
  combine .union (words.map fun word => terminal ⟨word, "text", .exact [word], true, true⟩)

def Grammar.twoPairs : Grammar :=
  combine .intersect [anyOf ["red", "grey"], anyOf ["fox", "hen"]]

def Query.ofTwoPairs (minimum : Nat) : Query :=
  ⟨["red", "grey", "fox", "hen"].map fun word => .term "text" word true true, [], [], some minimum⟩

namespace CompilerOptions

open Concordance.Expr

private theorem normal_pair (low : Nat) :
    Normal (junction false [symbol low, symbol (low + 1)]) := by
  refine .junction ?_ ⟨Nat.le_refl 2, ?_, ?_, ?_, ?_⟩
  · exact List.forall_mem_cons.mpr ⟨.symbol _, List.forall_mem_singleton.mpr (.symbol _)⟩
  · exact List.pairwise_pair.mpr (Nat.compare_eq_lt.mpr (Nat.lt_succ_self low))
  · simp [childrenOf?]
  · simp
  · simp [isAbsorbed, childrenOf?]

private theorem normal_upper_twoPairs : Normal (Grammar.twoPairs.bounds []).1.upper := by
  show Normal (junction true
    [junction false [symbol 0, symbol 1], junction false [symbol 2, symbol 3]])
  refine .junction ?_ ⟨Nat.le_refl 2, ?_, ?_, ?_, ?_⟩
  · exact List.forall_mem_cons.mpr ⟨normal_pair 0, List.forall_mem_singleton.mpr (normal_pair 2)⟩
  · exact List.pairwise_pair.mpr rfl
  · simp [childrenOf?, junction]
  · simp [junction]
  · simp only [List.forall_mem_cons]
    decide

private theorem compile_twoPairs {limit minimum : Nat}
    (counted : queryOf ⟨.requiredTerminals, limit⟩ (Grammar.twoPairs.bounds []).1.upper
      (Grammar.twoPairs.bounds []).2 = .ofTwoPairs minimum) :
    (compile ⟨.requiredTerminals, limit⟩ (some .twoPairs) none).outcome =
      .ok (.ofTwoPairs minimum) := by
  have valid : Grammar.twoPairs.WellFormed := Grammar.validate_eq_ok_iff.mp rfl
  have given : ∀ node ∈ some Grammar.twoPairs, node.WellFormed := by simpa using valid
  have absent : ∀ node ∈ (none : Option Grammar), node.WellFormed := nofun
  rw [compile_outcome given absent, query_requiredTerminals,
    simplify_eq_self (.inr normal_upper_twoPairs), counted]
  rfl

theorem compile_tightens_twoPairs :
    Grammar.twoPairs.validate = .ok () ∧
      (compile ⟨.requiredTerminals, 3⟩ (some .twoPairs) none).outcome = .ok (.ofTwoPairs 1) ∧
      (compile ⟨.requiredTerminals, 4⟩ (some .twoPairs) none).outcome = .ok (.ofTwoPairs 2) ∧
      (Query.ofTwoPairs 1).Tightens (.ofTwoPairs 2) ∧
      ∀ document : Document, ∃ looseHolds tightHolds,
        ((Query.ofTwoPairs 1).holds document).outcome = .ok looseHolds ∧
        ((Query.ofTwoPairs 2).holds document).outcome = .ok tightHolds ∧
        (tightHolds = true → looseHolds = true) := by
  have valid : Grammar.twoPairs.validate = .ok () := rfl
  have looseCompiled := @compile_twoPairs 3 1 rfl
  have tightCompiled := @compile_twoPairs 4 2 rfl
  obtain ⟨loose, tight, looseSame, tightSame, tightens, holds⟩ :=
    @compile_tightens 3 4 _ valid (by decide)
  obtain rfl := Except.ok.inj (looseSame.symm.trans looseCompiled)
  obtain rfl := Except.ok.inj (tightSame.symm.trans tightCompiled)
  exact ⟨valid, looseCompiled, tightCompiled, tightens, holds⟩

end CompilerOptions

end Concordance
