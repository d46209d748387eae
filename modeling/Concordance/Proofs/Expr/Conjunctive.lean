import Concordance.Proofs.Expr.Polarity
import Concordance.Proofs.Expr.Thresholds

/-!
Conjunctions of literals.  Such an expression has one term at the most, so that any limit but zero
is large enough for it; and a normal form of this kind needs all of its positive symbols.
-/

namespace Concordance.Expr

/-- Conjunctions of symbols and of negated symbols, nested in any way. -/
inductive Conjunctive : Expr → Prop
  | symbol (id : Nat) : Conjunctive (symbol id)
  | negated (id : Nat) : Conjunctive (not (symbol id))
  | and {children : List Expr} (each : ∀ child ∈ children, Conjunctive child) :
      Conjunctive (and children)

variable {expr : Expr} {limit : Nat}

/-! Simplification. -/

theorem Conjunctive.of_opened {child : Expr} (conjunctive : Conjunctive child)
    (opened : expr ∈ (child.childrenOf? true).getD [child]) : Conjunctive expr := by
  cases conjunctive with
  | symbol id =>
      obtain rfl := List.mem_singleton.mp opened
      exact .symbol id
  | negated id =>
      obtain rfl := List.mem_singleton.mp opened
      exact .negated id
  | and each => exact each expr opened

/-- A constant, or a conjunction of literals. -/
def ConstOrConjunctive (expr : Expr) : Prop :=
  (∃ value, expr = const value) ∨ Conjunctive expr

theorem constOrConjunctive_simplifyJunction {children : List Expr}
    (each : ∀ child ∈ children, ConstOrConjunctive child) :
    ConstOrConjunctive (simplifyJunction true children) := by
  rcases simplifyJunction_cases true children with constant | ⟨kept, opened, shape⟩
  · exact .inl constant
  · have conjunctive : ∀ expr ∈ kept, Conjunctive expr := by
      intro expr member
      obtain ⟨child, childMember, notConst, inside⟩ := opened expr member
      rcases each child childMember with ⟨value, rfl⟩ | conjunctive
      · cases notConst
      · exact conjunctive.of_opened inside
    rcases shape with single | several
    · exact .inr (conjunctive _ (single ▸ List.mem_singleton_self _))
    · rw [several]
      exact .inr (.and conjunctive)

theorem simplifyJunction_negated (isAnd : Bool) (id : Nat) :
    simplifyJunction isAnd [not (symbol id)] = not (symbol id) := by
  cases isAnd <;>
    simp [simplifyJunction, flatten?, const?, childrenOf?, dropRepeated, hasComplements, isIn,
      isAbsorbed]

/-! Where such an expression is true. -/

namespace Conjunctive

theorem eval_of_mem_positiveSymbols {assignment : Nat → Bool} (conjunctive : Conjunctive expr)
    (holds : expr.eval assignment = true) :
    ∀ id ∈ expr.positiveSymbols, assignment id = true := by
  induction conjunctive with
  | symbol id => exact List.forall_mem_singleton.mpr holds
  | negated id => exact nofun
  | and each ih =>
      intro id member
      rw [eval_and_eq_true_iff, List.forall_mem_map] at holds
      obtain ⟨child, childMember, below⟩ := (mem_collect_junction_iff true).mp member
      exact ih child childMember (holds child childMember) id below

/-- A child of a conjunction in normal form is a literal. -/
theorem literal_of_childrenOf?_eq_none (conjunctive : Conjunctive expr)
    (closed : expr.childrenOf? true = none) :
    (∃ id, expr = .symbol id) ∨ ∃ id, expr = .not (.symbol id) := by
  cases conjunctive with
  | symbol id => exact .inl ⟨id, rfl⟩
  | negated id => exact .inr ⟨id, rfl⟩
  | and each => cases closed

theorem not_mem_positiveSymbols {children : List Expr} {id : Nat}
    (each : ∀ child ∈ children, Conjunctive child) (reduced : Reduced true children)
    (negated : Expr.not (.symbol id) ∈ children) : id ∉ (Expr.and children).positiveSymbols := by
  intro positive
  obtain ⟨child, member, below⟩ := (mem_collect_junction_iff true).mp positive
  have closed := reduced.alternating child member
  rcases (each child member).literal_of_childrenOf?_eq_none closed with ⟨id', rfl⟩ | ⟨id', rfl⟩
  · obtain rfl := List.mem_singleton.mp below
    exact reduced.uncomplemented _ member negated
  · cases below

/-- A normal form is true where its positive symbols are and no others. -/
theorem eval_positiveSymbols (conjunctive : Conjunctive expr) (normal : Normal expr) :
    expr.eval (fun id => decide (id ∈ expr.positiveSymbols)) = true := by
  cases normal with
  | symbol id => exact decide_eq_true (List.mem_singleton_self id)
  | negated id => rfl
  | @junction isAnd children normal reduced =>
      cases isAnd with
      | false => cases conjunctive
      | true =>
          cases conjunctive with
          | and each =>
              refine (eval_and_eq_true_iff children).mpr (List.forall_mem_map.mpr ?_)
              intro child member
              have closed := reduced.alternating child member
              rcases (each child member).literal_of_childrenOf?_eq_none closed with
                ⟨id, rfl⟩ | ⟨id, rfl⟩
              · exact decide_eq_true
                  ((mem_collect_junction_iff true).mpr ⟨_, member, List.mem_singleton_self id⟩)
              · have apart := not_mem_positiveSymbols each reduced member
                exact congrArg Bool.not (decide_eq_false apart)

end Conjunctive

/-! Expansion. -/

/-- One term at most, and no more on the way. -/
structure Expansion.Single (expansion : Expansion) : Prop where
  terms : expansion.terms.length ≤ 1
  peak : expansion.peak ≤ 1

theorem Expansion.Single.join {left right : Expansion} (leftSingle : left.Single)
    (rightSingle : right.Single) : (left.join right).Single := by
  have product : left.terms.length * right.terms.length ≤ 1 :=
    Nat.mul_le_mul leftSingle.terms rightSingle.terms
  exact ⟨Nat.le_trans (length_joinTerms_le _ _) product,
    Nat.max_le.mpr ⟨Nat.max_le.mpr ⟨leftSingle.peak, rightSingle.peak⟩, product⟩⟩

theorem single_expandConjunction {children : List Expr} {found : Expansion} (single : found.Single)
    (each : ∀ child ∈ children, (child.expand true).Single) :
    (expandConjunction true children found).Single := by
  induction children generalizing found with
  | nil => exact single
  | cons child rest ih =>
      rw [List.forall_mem_cons] at each
      exact ih (single.join each.1) each.2

namespace Conjunctive

theorem single_expand (conjunctive : Conjunctive expr) : (expr.expand true).Single := by
  induction conjunctive with
  | symbol id => exact ⟨Nat.le_refl 1, Nat.zero_le 1⟩
  | negated id => exact ⟨Nat.le_refl 1, Nat.zero_le 1⟩
  | and each ih => exact single_expandConjunction ⟨Nat.le_refl 1, Nat.zero_le 1⟩ ih

/-- The least support of a normal form is found within any limit but zero: it is the number of the
positive symbols. -/
theorem minPositiveSupport?_eq (conjunctive : Conjunctive expr) (normal : Normal expr)
    (positive : 1 ≤ limit) :
    expr.minPositiveSupport? limit = some expr.positiveSymbols.length := by
  have within : expr.peak ≤ limit := Nat.le_trans conjunctive.single_expand.peak positive
  cases least : expr.leastSupport? with
  | none =>
      have never := leastSupport?_eq_none_iff.mp least
      have holds := conjunctive.eval_positiveSymbols normal
      rw [never] at holds
      cases holds
  | some minimum =>
      have supported : expr.minPositiveSupport? limit = some minimum :=
        minPositiveSupport?_eq_some_iff.mpr ⟨within, least⟩
      rw [supported, Option.some.injEq]
      apply Nat.le_antisymm (minPositiveSupport?_le_length supported)
      obtain ⟨chosen, rfl, holds⟩ := exists_chosen_of_leastSupport? least
      have inside : expr.positiveSymbols.toFinset ⊆ chosen := by
        intro id member
        exact of_decide_eq_true
          (conjunctive.eval_of_mem_positiveSymbols holds id (List.mem_toFinset.mp member))
      calc expr.positiveSymbols.length
        _ = expr.positiveSymbols.toFinset.card :=
            (List.toFinset_card_of_nodup (nodup_collect _ _ expr)).symm
        _ ≤ chosen.card := Finset.card_le_card inside

end Conjunctive

end Concordance.Expr
