import Concordance.Expr.Simplify
import Concordance.Proofs.Expr.Equality

/-!
Simplification keeps the value of an expression.  A junction is looked at through its neutral value,
true for a conjunction and false for a disjunction: it has that value exactly where all its children
have it, so one argument serves both kinds.
-/

namespace Concordance.Expr

variable {assignment : Nat → Bool}

theorem evalAll_eq_all (children : List Expr) :
    evalAll assignment children = children.all (eval assignment) := by
  induction children with
  | nil => rfl
  | cons child rest ih => rw [evalAll, List.all_cons, ih]

theorem evalAny_eq_any (children : List Expr) :
    evalAny assignment children = children.any (eval assignment) := by
  induction children with
  | nil => rfl
  | cons child rest ih => rw [evalAny, List.any_cons, ih]

theorem eval_and_eq_true_iff (children : List Expr) :
    (and children).eval assignment = true ↔
      ∀ value ∈ children.map (eval assignment), value = true := by
  rw [eval, evalAll_eq_all]
  simp

theorem eval_or_eq_false_iff (children : List Expr) :
    (or children).eval assignment = false ↔
      ∀ value ∈ children.map (eval assignment), value = false := by
  rw [eval, evalAny_eq_any]
  simp

theorem eval_junction_iff (isAnd : Bool) (children : List Expr) :
    (junction isAnd children).eval assignment = isAnd ↔
      ∀ value ∈ children.map (eval assignment), value = isAnd := by
  cases isAnd with
  | true => exact eval_and_eq_true_iff children
  | false => exact eval_or_eq_false_iff children

private theorem bool_eq_of_iff {left right : Bool} (value : Bool)
    (agree : left = value ↔ right = value) : left = right := by
  cases left <;> cases right <;> cases value <;> simp_all

theorem eval_junction_congr (isAnd : Bool) {left right : List Expr}
    (same : left.map (eval assignment) = right.map (eval assignment)) :
    (junction isAnd left).eval assignment = (junction isAnd right).eval assignment := by
  apply bool_eq_of_iff isAnd
  rw [eval_junction_iff, eval_junction_iff, same]

/-! Negation normal form. -/

theorem eval_symbolWith (polarity : Bool) (id : Nat) :
    (symbolWith polarity id).eval assignment = (assignment id == polarity) := by
  cases polarity <;> simp [symbolWith, eval]

private theorem beq_eq_self_iff (value polarity : Bool) :
    (value == polarity) = polarity ↔ value = true := by
  cases value <;> cases polarity <;> simp

private theorem beq_eq_not_iff (value polarity : Bool) :
    (value == polarity) = (!polarity) ↔ value = false := by
  cases value <;> cases polarity <;> simp

mutual

theorem eval_nnfWith :
    ∀ (polarity : Bool) (expr : Expr),
      (expr.nnfWith polarity).eval assignment = (expr.eval assignment == polarity)
  | polarity, const value => by rw [nnfWith, eval, eval]
  | polarity, symbol id => by rw [nnfWith, eval_symbolWith, eval]
  | polarity, not inner => by
      rw [nnfWith, eval_nnfWith (!polarity) inner, eval]
      cases inner.eval assignment <;> cases polarity <;> rfl
  | polarity, and children => by
      apply bool_eq_of_iff polarity
      rw [nnfWith, eval_junction_iff, eval_nnfAll polarity children, beq_eq_self_iff,
        eval_and_eq_true_iff]
      simp only [List.forall_mem_map, beq_eq_self_iff]
  | polarity, or children => by
      apply bool_eq_of_iff !polarity
      rw [nnfWith, eval_junction_iff, eval_nnfAll polarity children, beq_eq_not_iff,
        eval_or_eq_false_iff]
      simp only [List.forall_mem_map, beq_eq_not_iff]

theorem eval_nnfAll :
    ∀ (polarity : Bool) (children : List Expr),
      (nnfAll polarity children).map (eval assignment) =
        children.map fun child => child.eval assignment == polarity
  | _, [] => rfl
  | polarity, child :: rest => by
      rw [nnfAll, List.map_cons, List.map_cons, eval_nnfWith polarity child,
        eval_nnfAll polarity rest]

end

theorem eval_toNnf (expr : Expr) : expr.toNnf.eval assignment = expr.eval assignment := by
  rw [toNnf, eval_nnfWith]
  exact beq_true _

/-! Flattening. -/

theorem eval_const?_eq_some {expr : Expr} {value : Bool} (constant : expr.const? = some value) :
    expr.eval assignment = value := by
  cases expr <;> simp_all [const?, eval]

theorem eq_junction_of_childrenOf? {isAnd : Bool} {expr : Expr} {children : List Expr}
    (junctive : expr.childrenOf? isAnd = some children) : expr = junction isAnd children := by
  cases expr <;> cases isAnd <;> simp_all [childrenOf?, junction]

/-- What stands for a child among the opened children has the neutral value where the child has. -/
private theorem eval_opened (isAnd : Bool) (child : Expr) :
    (∀ value ∈ ((child.childrenOf? isAnd).getD [child]).map (eval assignment), value = isAnd) ↔
      child.eval assignment = isAnd := by
  cases opened : child.childrenOf? isAnd with
  | none => simp
  | some inner =>
      rw [eq_junction_of_childrenOf? opened, eval_junction_iff]
      rfl

theorem flatten?_of_const {isAnd value : Bool} {child : Expr} (rest : List Expr)
    (constant : child.const? = some value) :
    flatten? isAnd (child :: rest) = if value = isAnd then flatten? isAnd rest else none := by
  rw [flatten?, constant]

theorem flatten?_of_not_const {isAnd : Bool} {child : Expr} (rest : List Expr)
    (constant : child.const? = none) :
    flatten? isAnd (child :: rest) =
      (flatten? isAnd rest).map ((child.childrenOf? isAnd).getD [child] ++ ·) := by
  rw [flatten?, constant]
  cases flatten? isAnd rest <;> rfl

theorem eval_of_flatten?_eq_none {isAnd : Bool} {children : List Expr}
    (settled : flatten? isAnd children = none) :
    (junction isAnd children).eval assignment = !isAnd := by
  rw [Bool.eq_not, ne_eq, eval_junction_iff]
  intro neutral
  induction children with
  | nil => cases settled
  | cons child rest ih =>
      rw [List.map_cons, List.forall_mem_cons] at neutral
      obtain ⟨neutralChild, neutralRest⟩ := neutral
      cases constant : child.const? with
      | none =>
          rw [flatten?_of_not_const rest constant, Option.map_eq_none_iff] at settled
          exact ih settled neutralRest
      | some value =>
          rw [eval_const?_eq_some constant] at neutralChild
          rw [flatten?_of_const rest constant, if_pos neutralChild] at settled
          exact ih settled neutralRest

theorem eval_flatten? {isAnd : Bool} {children flat : List Expr}
    (flattened : flatten? isAnd children = some flat) :
    (∀ value ∈ flat.map (eval assignment), value = isAnd) ↔
      ∀ value ∈ children.map (eval assignment), value = isAnd := by
  induction children generalizing flat with
  | nil =>
      cases flattened
      rfl
  | cons child rest ih =>
      rw [List.map_cons, List.forall_mem_cons]
      cases constant : child.const? with
      | none =>
          rw [flatten?_of_not_const rest constant, Option.map_eq_some_iff] at flattened
          obtain ⟨others, restFlattened, rfl⟩ := flattened
          rw [List.map_append, List.forall_mem_append, eval_opened, ih restFlattened]
      | some value =>
          rw [flatten?_of_const rest constant] at flattened
          by_cases neutral : value = isAnd
          · rw [if_pos neutral] at flattened
            rw [ih flattened, eval_const?_eq_some constant, and_iff_right neutral]
          · rw [if_neg neutral] at flattened
            cases flattened

/-! Repeated and absorbed children. -/

theorem mem_dropRepeated {expr : Expr} {children : List Expr} :
    expr ∈ dropRepeated children ↔ expr ∈ children := by
  fun_induction dropRepeated children with
  | case1 first second rest repeated ih =>
      rw [ih, eq_of_beq repeated]
      simp
  | case2 first second rest _ ih =>
      rw [List.mem_cons, ih]
      exact List.mem_cons.symm
  | case3 => rfl

theorem isIn_iff {expr : Expr} {list : List Expr} : expr.isIn list = true ↔ expr ∈ list := by
  simp [isIn]

theorem eval_of_hasComplements {isAnd : Bool} {children : List Expr}
    (complements : hasComplements children = true) :
    (junction isAnd children).eval assignment = !isAnd := by
  rw [Bool.eq_not, ne_eq, eval_junction_iff]
  intro neutral
  rw [List.forall_mem_map] at neutral
  obtain ⟨child, member, paired⟩ := List.any_eq_true.mp complements
  cases child with
  | not inner =>
      have negated := neutral _ member
      rw [eval, neutral inner (isIn_iff.mp paired)] at negated
      simp at negated
  | _ => cases paired

mutual

def depth : Expr → Nat
  | const _ => 0
  | symbol _ => 0
  | not inner => inner.depth + 1
  | and children => depthAll children + 1
  | or children => depthAll children + 1

def depthAll : List Expr → Nat
  | [] => 0
  | child :: rest => max child.depth (depthAll rest)

end

theorem depth_junction (isAnd : Bool) (children : List Expr) :
    (junction isAnd children).depth = depthAll children + 1 := by
  cases isAnd <;> rfl

theorem depth_le_depthAll {child : Expr} {children : List Expr} (member : child ∈ children) :
    child.depth ≤ depthAll children := by
  induction member with
  | head rest => exact Nat.le_max_left _ _
  | tail first member ih => exact Nat.le_trans ih (Nat.le_max_right _ _)

theorem depthAll_le_of_subset {left right : List Expr} (subset : left ⊆ right) :
    depthAll left ≤ depthAll right := by
  induction left with
  | nil => exact Nat.zero_le _
  | cons child rest ih =>
      rw [List.cons_subset] at subset
      exact Nat.max_le.mpr ⟨depth_le_depthAll subset.1, ih subset.2⟩

def width : Expr → Nat
  | and children => children.length
  | or children => children.length
  | _ => 0

theorem width_junction (isAnd : Bool) (children : List Expr) :
    (junction isAnd children).width = children.length := by
  cases isAnd <;> rfl

theorem exists_of_isAbsorbed {isAnd : Bool} {siblings : List Expr} {child : Expr}
    (absorbed : isAbsorbed isAnd siblings child = true) :
    ∃ inner, child = junction (!isAnd) inner ∧
      ∃ sibling ∈ siblings, sibling ∈ inner ∨
        ∃ other, sibling = junction (!isAnd) other ∧ other.length < inner.length ∧
          other ⊆ inner := by
  unfold isAbsorbed at absorbed
  split at absorbed
  · cases absorbed
  · next inner opened =>
    obtain ⟨sibling, member, covers⟩ := List.any_eq_true.mp absorbed
    refine ⟨inner, eq_junction_of_childrenOf? opened, sibling, member, ?_⟩
    rw [Bool.or_eq_true, isIn_iff] at covers
    refine covers.imp_right fun covered => ?_
    split at covered
    · next other siblingOpened =>
      rw [Bool.and_eq_true, decide_eq_true_eq, List.all_eq_true] at covered
      exact ⟨other, eq_junction_of_childrenOf? siblingOpened, covered.1,
        fun expr exprMember => isIn_iff.mp (covered.2 expr exprMember)⟩
    · cases covered

/-- One child decides a junction of the other kind. -/
theorem eval_dual_iff (isAnd : Bool) (children : List Expr) :
    (junction (!isAnd) children).eval assignment = isAnd ↔
      ∃ child ∈ children, child.eval assignment = isAnd := by
  have neutral := @eval_junction_iff assignment (!isAnd) children
  rw [List.forall_mem_map, Bool.eq_not, ne_eq] at neutral
  rw [← Decidable.not_iff_not, neutral]
  simp only [Bool.eq_not, ne_eq, not_exists, not_and]

theorem eval_junction_of_forall (isAnd : Bool) {value : Bool} {children : List Expr}
    (some : children ≠ []) (same : ∀ child ∈ children, child.eval assignment = value) :
    (junction isAnd children).eval assignment = value := by
  by_cases neutral : value = isAnd
  · subst neutral
    exact (eval_junction_iff value children).mpr (List.forall_mem_map.mpr same)
  · obtain ⟨child, member⟩ := List.exists_mem_of_ne_nil children some
    obtain rfl : isAnd = !value := Bool.eq_not.mpr (Ne.symm neutral)
    exact (eval_dual_iff value children).mpr ⟨child, member, same child member⟩

/-- Children that absorb others speak for them.  What absorbs a child is nested less deep, or else
is as deep and has fewer children, so absorption ends at children that nothing absorbs. -/
theorem eval_of_unabsorbed {isAnd : Bool} {siblings : List Expr}
    (neutral : ∀ child ∈ siblings, isAbsorbed isAnd siblings child = false →
      child.eval assignment = isAnd)
    (child : Expr) (member : child ∈ siblings) : child.eval assignment = isAnd := by
  cases absorbed : isAbsorbed isAnd siblings child with
  | false => exact neutral child member absorbed
  | true =>
      obtain ⟨inner, childEq, sibling, siblingMember, covers⟩ := exists_of_isAbsorbed absorbed
      have childDepth : child.depth = depthAll inner + 1 := by rw [childEq, depth_junction]
      have childWidth : child.width = inner.length := by rw [childEq, width_junction]
      rw [childEq, eval_dual_iff]
      rcases covers with contained | ⟨other, siblingEq, shorter, subset⟩
      · have shallower := depth_le_depthAll contained
        exact ⟨sibling, contained, eval_of_unabsorbed neutral sibling siblingMember⟩
      · have noDeeper := depthAll_le_of_subset subset
        have siblingDepth : sibling.depth = depthAll other + 1 := by
          rw [siblingEq, depth_junction]
        have siblingWidth : sibling.width = other.length := by rw [siblingEq, width_junction]
        have decided := eval_of_unabsorbed neutral sibling siblingMember
        rw [siblingEq, eval_dual_iff] at decided
        obtain ⟨expr, exprMember, exprNeutral⟩ := decided
        exact ⟨expr, subset exprMember, exprNeutral⟩
termination_by (child.depth, child.width)
decreasing_by
  · exact Prod.Lex.left _ _ (by omega)
  · rw [Prod.lex_def]
    dsimp only
    omega

/-! Passes. -/

theorem eval_simplifyJunction (isAnd : Bool) (children : List Expr) :
    (simplifyJunction isAnd children).eval assignment =
      (junction isAnd children).eval assignment := by
  unfold simplifyJunction
  split
  · next settled =>
    rw [eval_of_flatten?_eq_none settled, eval]
  · next flat flattened =>
    dsimp only
    generalize sortedEq : dropRepeated (flat.mergeSort le) = sorted
    have sortedMem : ∀ expr, expr ∈ sorted ↔ expr ∈ flat := by
      intro expr
      rw [← sortedEq, mem_dropRepeated, List.mem_mergeSort]
    have sortedEval : (junction isAnd sorted).eval assignment =
        (junction isAnd children).eval assignment := by
      apply bool_eq_of_iff isAnd
      rw [eval_junction_iff, eval_junction_iff, ← eval_flatten? flattened]
      simp only [List.forall_mem_map, sortedMem]
    have keptEval : (junction isAnd (sorted.filter fun child =>
        !isAbsorbed isAnd sorted child)).eval assignment =
          (junction isAnd children).eval assignment := by
      rw [← sortedEval]
      apply bool_eq_of_iff isAnd
      rw [eval_junction_iff, eval_junction_iff]
      simp only [List.forall_mem_map, List.mem_filter, Bool.not_eq_true', and_imp]
      exact ⟨eval_of_unabsorbed, fun neutral child member _ => neutral child member⟩
    split
    · next complements =>
      rw [← sortedEval, eval_of_hasComplements complements, eval]
    · rw [← keptEval]
      split
      · next none =>
        rw [none, eval]
        exact ((eval_junction_iff isAnd []).mpr (by simp)).symm
      · next child single =>
        rw [single]
        apply bool_eq_of_iff isAnd
        rw [eval_junction_iff]
        simp
      · rfl

theorem eval_simplifyNegation (expr : Expr) :
    (simplifyNegation expr).eval assignment = !expr.eval assignment := by
  cases expr <;> simp [simplifyNegation, eval]

mutual

theorem eval_simplifyOnce :
    ∀ expr : Expr, expr.simplifyOnce.eval assignment = expr.eval assignment
  | const value => by rw [simplifyOnce]
  | symbol id => by rw [simplifyOnce]
  | not inner => by
      rw [simplifyOnce, eval_simplifyNegation, eval_simplifyOnce inner, eval]
  | and children => by
      rw [simplifyOnce, eval_simplifyJunction]
      exact eval_junction_congr true (eval_simplifyAll children)
  | or children => by
      rw [simplifyOnce, eval_simplifyJunction]
      exact eval_junction_congr false (eval_simplifyAll children)

theorem eval_simplifyAll :
    ∀ children : List Expr,
      (simplifyAll children).map (eval assignment) = children.map (eval assignment)
  | [] => rfl
  | child :: rest => by
      rw [simplifyAll, List.map_cons, List.map_cons, eval_simplifyOnce child,
        eval_simplifyAll rest]

end

theorem eval_simplifyWithin (passes : Nat) (expr : Expr) :
    (simplifyWithin passes expr).eval assignment = expr.eval assignment := by
  induction passes generalizing expr with
  | zero => rfl
  | succ passes ih =>
      rw [simplifyWithin]
      split
      · rfl
      · rw [ih, eval_simplifyOnce]

/-- Simplification keeps the value of an expression, whatever is nested in it. -/
theorem eval_simplify (expr : Expr) (assignment : Nat → Bool) :
    expr.simplify.eval assignment = expr.eval assignment := by
  rw [simplify, eval_simplifyWithin, eval_toNnf]

end Concordance.Expr
