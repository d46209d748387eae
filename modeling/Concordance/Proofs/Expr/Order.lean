import Concordance.Proofs.Expr.Equality

/-!
The order of expressions is total and transitive.  Kinds are compared first and contents after, so
transitivity is by the kinds of the outer two expressions, then by induction on the contents.
-/

namespace Concordance.Expr

/-- Stands strictly before, in the order of expressions. -/
def Precedes (left right : Expr) : Prop :=
  left.compare right = .lt

/-! Expressions of different kinds are ordered by their kinds. -/

theorem compare_of_rank_ne {left right : Expr} (differ : left.rank ≠ right.rank) :
    left.compare right = Ord.compare left.rank right.rank := by
  cases left <;> cases right <;> simp_all [compare, rank]

theorem precedes_of_rank_lt {left right : Expr} (below : left.rank < right.rank) :
    left.Precedes right := by
  rw [Precedes, compare_of_rank_ne (Nat.ne_of_lt below)]
  exact Nat.compare_eq_lt.mpr below

theorem Precedes.rank_le {left right : Expr} (before : left.Precedes right) :
    left.rank ≤ right.rank := by
  apply Nat.le_of_not_lt
  intro above
  rw [Precedes, compare_of_rank_ne (Nat.ne_of_gt above), Nat.compare_eq_lt] at before
  exact Nat.lt_asymm above before

/-! Comparing in the other direction. -/

mutual

theorem compare_swap : ∀ left right : Expr, (left.compare right).swap = right.compare left
  | const left, right => by
      cases right with
      | const right => cases left <;> cases right <;> rfl
      | _ => rfl
  | symbol left, right => by
      cases right with
      | symbol right => exact Nat.compare_swap left right
      | _ => rfl
  | not left, right => by
      cases right with
      | not right => exact compare_swap left right
      | _ => rfl
  | and left, right => by
      cases right with
      | and right => exact compareAll_swap left right
      | _ => rfl
  | or left, right => by
      cases right with
      | or right => exact compareAll_swap left right
      | _ => rfl

theorem compareAll_swap :
    ∀ left right : List Expr, (compareAll left right).swap = compareAll right left
  | [], [] => rfl
  | [], _ :: _ => rfl
  | _ :: _, [] => rfl
  | left :: lefts, right :: rights => by
      rw [compareAll, compareAll, Ordering.swap_then, compare_swap left right,
        compareAll_swap lefts rights]

end

/-! Going through an expression in between. -/

theorem compareAll_cons_eq_lt_iff {left right : Expr} {lefts rights : List Expr} :
    compareAll (left :: lefts) (right :: rights) = .lt ↔
      left.Precedes right ∨ left = right ∧ compareAll lefts rights = .lt := by
  rw [compareAll, Ordering.then_eq_lt]
  constructor
  · rintro (before | ⟨equal, before⟩)
    · exact .inl before
    · exact .inr ⟨eq_of_compare equal, before⟩
  · rintro (before | ⟨rfl, before⟩)
    · exact .inl before
    · exact .inr ⟨compare_self left, before⟩

mutual

theorem precedes_trans :
    ∀ first second third : Expr, first.Precedes second → second.Precedes third →
      first.Precedes third
  | first, second, third, before, after => by
      by_cases below : first.rank < third.rank
      · exact precedes_of_rank_lt below
      · have secondAbove := before.rank_le
        have thirdAbove := after.rank_le
        have sameSecond : second.rank = first.rank := by omega
        have sameThird : third.rank = first.rank := by omega
        -- All three are of one kind, so their contents decide.
        cases first with
        | const first =>
            cases second with
            | const second =>
                cases third with
                | const third => cases first <;> cases second <;> cases third <;> trivial
                | _ => simp [rank] at sameThird
            | _ => simp [rank] at sameSecond
        | symbol first =>
            cases second with
            | symbol second =>
                cases third with
                | symbol third =>
                    exact Nat.compare_eq_lt.mpr
                      (Nat.lt_trans (Nat.compare_eq_lt.mp before) (Nat.compare_eq_lt.mp after))
                | _ => simp [rank] at sameThird
            | _ => simp [rank] at sameSecond
        | not first =>
            cases second with
            | not second =>
                cases third with
                | not third => exact precedes_trans first second third before after
                | _ => simp [rank] at sameThird
            | _ => simp [rank] at sameSecond
        | and first =>
            cases second with
            | and second =>
                cases third with
                | and third => exact compareAll_trans first second third before after
                | _ => simp [rank] at sameThird
            | _ => simp [rank] at sameSecond
        | or first =>
            cases second with
            | or second =>
                cases third with
                | or third => exact compareAll_trans first second third before after
                | _ => simp [rank] at sameThird
            | _ => simp [rank] at sameSecond

theorem compareAll_trans :
    ∀ first second third : List Expr, compareAll first second = .lt →
      compareAll second third = .lt → compareAll first third = .lt
  | _, [], [], _, after => by cases after
  | _, _ :: _, [], _, after => by cases after
  | [], _, _ :: _, _, _ => rfl
  | _ :: _, [], _ :: _, before, _ => by cases before
  | first :: firsts, second :: seconds, third :: thirds, before, after => by
      rw [compareAll_cons_eq_lt_iff] at *
      rcases before with before | ⟨rfl, before⟩
      · rcases after with after | ⟨rfl, -⟩
        · exact .inl (precedes_trans first second third before after)
        · exact .inl before
      · rcases after with after | ⟨rfl, after⟩
        · exact .inl after
        · exact .inr ⟨rfl, compareAll_trans firsts seconds thirds before after⟩

end

/-! The order that sorting uses. -/

theorem le_iff {left right : Expr} :
    left.le right = true ↔ left.Precedes right ∨ left = right := by
  rw [le, Ordering.isLE_iff_eq_lt_or_eq_eq]
  exact or_congr_right ⟨eq_of_compare, fun equal => equal ▸ compare_self left⟩

theorem le_total (left right : Expr) : (left.le right || right.le left) = true := by
  rw [le, le, ← compare_swap left right]
  cases left.compare right <;> rfl

theorem le_trans {first second third : Expr} (before : first.le second = true)
    (after : second.le third = true) : first.le third = true := by
  rw [le_iff] at *
  rcases before with before | rfl
  · rcases after with after | rfl
    · exact .inl (precedes_trans first second third before after)
    · exact .inl before
  · exact after

end Concordance.Expr
