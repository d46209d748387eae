import Concordance.Expr.Basic

/-!
The order of expressions tells them apart: only equal expressions compare as equal.
-/

namespace Concordance.Expr

mutual

theorem compare_self : ∀ expr : Expr, expr.compare expr = .eq
  | const value => by cases value <;> rfl
  | symbol id => by simp [compare]
  | not inner => by
      rw [compare]
      exact inner.compare_self
  | and children => by
      rw [compare]
      exact compareAll_self children
  | or children => by
      rw [compare]
      exact compareAll_self children

theorem compareAll_self : ∀ children : List Expr, compareAll children children = .eq
  | [] => rfl
  | child :: rest => by
      rw [compareAll, child.compare_self, compareAll_self rest]
      rfl

end

mutual

theorem eq_of_compare : ∀ {left right : Expr}, left.compare right = .eq → left = right
  | const left, right, equal => by
      cases right <;> simp_all [compare, rank]
  | symbol left, right, equal => by
      cases right <;> simp_all [compare, rank]
  | not left, right, equal => by
      cases right with
      | not right =>
          rw [compare] at equal
          rw [eq_of_compare equal]
      | _ => simp [compare, rank] at equal
  | and left, right, equal => by
      cases right with
      | and right =>
          rw [compare] at equal
          rw [eq_of_compareAll equal]
      | _ => simp [compare, rank] at equal
  | or left, right, equal => by
      cases right with
      | or right =>
          rw [compare] at equal
          rw [eq_of_compareAll equal]
      | _ => simp [compare, rank] at equal

theorem eq_of_compareAll :
    ∀ {left right : List Expr}, compareAll left right = .eq → left = right
  | [], [], _ => rfl
  | [], _ :: _, equal => by simp [compareAll] at equal
  | _ :: _, [], equal => by simp [compareAll] at equal
  | left :: lefts, right :: rights, equal => by
      rw [compareAll, Ordering.then_eq_eq] at equal
      rw [eq_of_compare equal.1, eq_of_compareAll equal.2]

end

instance : LawfulBEq Expr where
  rfl {expr} := by
    change (expr.compare expr == .eq) = true
    rw [compare_self]
    rfl
  eq_of_beq {left right} equal := by
    change (left.compare right == .eq) = true at equal
    exact eq_of_compare (eq_of_beq equal)

end Concordance.Expr
