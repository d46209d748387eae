import Concordance.Proofs.Expr.Expansion
import Concordance.Proofs.Expr.Normal

/-!
The two thresholds of an expression.  The bound that needs no expansion never exceeds the least
support, and for a normal form the two are zero together: a normal form of which the bound asks no
symbol is true where no symbol is.
-/

namespace Concordance.Expr

variable {expr : Expr} {limit minimum : Nat}

theorem le_largestBound {child : Expr} {children : List Expr} (member : child ∈ children) :
    child.positiveLowerBound ≤ largestBound children := by
  induction children with
  | nil => cases member
  | cons first rest ih =>
      rcases List.mem_cons.mp member with rfl | member
      · exact Nat.le_max_left _ _
      · exact Nat.le_trans (ih member) (Nat.le_max_right _ _)

theorem exists_smallestBound? {children : List Expr} (some : children ≠ []) :
    ∃ child ∈ children, smallestBound? children = Option.some child.positiveLowerBound := by
  induction children with
  | nil => exact absurd rfl some
  | cons first rest ih =>
      rw [smallestBound?]
      cases least : smallestBound? rest with
      | none => exact ⟨first, List.mem_cons_self, rfl⟩
      | some bound =>
          have given : rest ≠ [] := by
            rintro rfl
            cases least
          obtain ⟨child, member, same⟩ := ih given
          obtain rfl : child.positiveLowerBound = bound :=
            Option.some.inj (same.symm.trans least)
          rcases Nat.le_total first.positiveLowerBound child.positiveLowerBound with le | le
          · exact ⟨first, List.mem_cons_self, congrArg Option.some (Nat.min_eq_left le)⟩
          · exact ⟨child, List.mem_cons_of_mem first member,
              congrArg Option.some (Nat.min_eq_right le)⟩

theorem positiveLowerBound_le_minPositiveSupport?
    (supported : expr.minPositiveSupport? limit = some minimum) :
    expr.positiveLowerBound ≤ minimum := by
  obtain ⟨-, least⟩ := minPositiveSupport?_eq_some_iff.mp supported
  obtain ⟨chosen, rfl, holds⟩ := exists_chosen_of_leastSupport? least
  have inside : (expr.positiveSymbols.toFinset.filter fun id => decide (id ∈ chosen) = true) ⊆
      chosen := by
    intro id member
    exact of_decide_eq_true (Finset.mem_filter.mp member).2
  calc expr.positiveLowerBound
    _ ≤ expr.positiveSymbols.countP fun id => decide (id ∈ chosen) :=
        positiveLowerBound_le expr holds
    _ = (expr.positiveSymbols.toFinset.filter fun id => decide (id ∈ chosen) = true).card :=
        (card_filter_positiveSymbols expr _).symm
    _ ≤ chosen.card := Finset.card_le_card inside

theorem minPositiveSupport?_le_length (supported : expr.minPositiveSupport? limit = some minimum) :
    minimum ≤ expr.positiveSymbols.length := by
  obtain ⟨-, least⟩ := minPositiveSupport?_eq_some_iff.mp supported
  obtain ⟨chosen, -, holds⟩ := exists_chosen_of_leastSupport? least
  exact Nat.le_trans (minPositiveSupport?_le supported holds) List.countP_le_length

namespace Normal

theorem eval_of_positiveLowerBound_eq_zero (normal : Normal expr)
    (zero : expr.positiveLowerBound = 0) : expr.eval (fun _ => false) = true := by
  induction normal with
  | symbol id => cases zero
  | negated id => rfl
  | @junction isAnd children normal reduced ih =>
      cases isAnd with
      | true =>
          refine (eval_and_eq_true_iff children).mpr (List.forall_mem_map.mpr ?_)
          intro child member
          exact ih child member (Nat.le_zero.mp (zero ▸ le_largestBound member))
      | false =>
          -- Without children the bound would be zero and the disjunction false.
          have some : children ≠ [] :=
            List.ne_nil_of_length_pos (Nat.lt_of_lt_of_le Nat.two_pos reduced.several)
          obtain ⟨child, member, least⟩ := exists_smallestBound? some
          have childZero : child.positiveLowerBound = 0 :=
            (congrArg (·.getD 0) least).symm.trans zero
          exact (eval_dual_iff true children).mpr ⟨child, member, ih child member childZero⟩

theorem minimum_eq_zero (normal : Normal expr)
    (supported : expr.minPositiveSupport? limit = some minimum)
    (zero : expr.positiveLowerBound = 0) : minimum = 0 := by
  have holds := normal.eval_of_positiveLowerBound_eq_zero zero
  simpa using minPositiveSupport?_le supported holds

end Normal

end Concordance.Expr
