import Concordance.Proofs.Expr.Order
import Concordance.Proofs.Expr.Simplify

/-!
Normal forms.  One pass over a negation normal form already gives an expression that a further pass
leaves as it is: the children of a junction are opened, put in order and thinned out only once they
are in normal form themselves, and a thinned out list has nothing more to be opened or dropped.
-/

namespace Concordance.Expr

def Increasing (children : List Expr) : Prop :=
  children.Pairwise Precedes

/-- What the children of a junction in normal form are to one another. -/
structure Reduced (isAnd : Bool) (children : List Expr) : Prop where
  several : 2 ≤ children.length
  increasing : Increasing children
  alternating : ∀ child ∈ children, child.childrenOf? isAnd = none
  uncomplemented : ∀ inner ∈ children, not inner ∉ children
  unabsorbed : ∀ child ∈ children, isAbsorbed isAnd children child = false

/-- Normal forms without constants: negations stand around symbols only, and every junction is
reduced. -/
inductive Normal : Expr → Prop
  | symbol (id : Nat) : Normal (symbol id)
  | negated (id : Nat) : Normal (not (symbol id))
  | junction {isAnd : Bool} {children : List Expr} (normal : ∀ child ∈ children, Normal child)
      (reduced : Reduced isAnd children) : Normal (junction isAnd children)

/-- A constant, or a normal form without any. -/
def Settled (expr : Expr) : Prop :=
  (∃ value, expr = const value) ∨ Normal expr

namespace Normal

variable {expr : Expr}

theorem const?_eq_none (normal : Normal expr) : expr.const? = none := by
  induction normal with
  | symbol id => rfl
  | negated id => rfl
  | @junction isAnd children => cases isAnd <;> rfl

theorem of_childrenOf? {isAnd : Bool} {children : List Expr} (normal : Normal expr)
    (opened : expr.childrenOf? isAnd = some children) :
    (∀ child ∈ children, Normal child) ∧ Reduced isAnd children := by
  cases normal with
  | symbol id => cases opened
  | negated id => cases opened
  | @junction kind inner innerNormal reduced =>
      cases kind <;> cases isAnd <;> cases opened <;> exact ⟨innerNormal, reduced⟩

end Normal

/-! Sorted children. -/

theorem increasing_dropRepeated {children : List Expr}
    (sorted : children.Pairwise fun first second => first.le second = true) :
    Increasing (dropRepeated children) := by
  fun_induction dropRepeated children with
  | case1 first second rest repeated ih => exact ih (List.pairwise_cons.mp sorted).2
  | case2 first second rest differ ih =>
      obtain ⟨least, restSorted⟩ := List.pairwise_cons.mp sorted
      have below : first.Precedes second :=
        (le_iff.mp (least second List.mem_cons_self)).resolve_right (by simpa using differ)
      refine List.pairwise_cons.mpr ⟨?_, ih restSorted⟩
      intro later member
      rcases List.mem_cons.mp (mem_dropRepeated.mp member) with rfl | member
      · exact below
      · rcases le_iff.mp ((List.pairwise_cons.mp restSorted).1 later member) with after | rfl
        · exact precedes_trans first second later below after
        · exact below
  | case3 list short =>
      cases list with
      | nil => exact .nil
      | cons first rest =>
          cases rest with
          | nil => exact List.pairwise_singleton _ first
          | cons second others => exact absurd rfl (short first second others)

theorem dropRepeated_eq_self {children : List Expr} (increasing : Increasing children) :
    dropRepeated children = children := by
  fun_induction dropRepeated children with
  | case1 first second rest repeated ih =>
      have below := (List.pairwise_cons.mp increasing).1 second List.mem_cons_self
      rw [eq_of_beq repeated, Precedes, compare_self] at below
      cases below
  | case2 first second rest differ ih => rw [ih (List.pairwise_cons.mp increasing).2]
  | case3 => rfl

theorem mergeSort_eq_self {children : List Expr} (increasing : Increasing children) :
    children.mergeSort le = children :=
  List.mergeSort_of_pairwise (increasing.imp fun before => le_iff.mpr (.inl before))

/-! Opening. -/

theorem mem_of_flatten? {isAnd : Bool} {children flat : List Expr} {expr : Expr}
    (flattened : flatten? isAnd children = some flat) (member : expr ∈ flat) :
    ∃ child ∈ children, child.const? = none ∧
      expr ∈ (child.childrenOf? isAnd).getD [child] := by
  induction children generalizing flat with
  | nil =>
      cases flattened
      cases member
  | cons first rest ih =>
      have passed {flat : List Expr} (flattened : flatten? isAnd rest = some flat)
          (member : expr ∈ flat) :
          ∃ child ∈ first :: rest, child.const? = none ∧
            expr ∈ (child.childrenOf? isAnd).getD [child] := by
        obtain ⟨child, inside, opened⟩ := ih flattened member
        exact ⟨child, List.mem_cons_of_mem first inside, opened⟩
      cases constant : first.const? with
      | some value =>
          rw [flatten?_of_const rest constant] at flattened
          split at flattened
          · exact passed flattened member
          · cases flattened
      | none =>
          rw [flatten?_of_not_const rest constant, Option.map_eq_some_iff] at flattened
          obtain ⟨others, restFlattened, rfl⟩ := flattened
          rcases List.mem_append.mp member with opened | member
          · exact ⟨first, List.mem_cons_self, constant, opened⟩
          · exact passed restFlattened member

theorem flatten?_eq_self {isAnd : Bool} {children : List Expr}
    (normal : ∀ child ∈ children, Normal child)
    (alternating : ∀ child ∈ children, child.childrenOf? isAnd = none) :
    flatten? isAnd children = some children := by
  induction children with
  | nil => rfl
  | cons first rest ih =>
      rw [List.forall_mem_cons] at normal alternating
      rw [flatten?_of_not_const rest normal.1.const?_eq_none, ih normal.2 alternating.2,
        alternating.1]
      rfl

/-- What opening settled children gives is in normal form and has nothing more to open. -/
theorem normal_of_mem_flatten? {isAnd : Bool} {children flat : List Expr} {expr : Expr}
    (settled : ∀ child ∈ children, Settled child)
    (flattened : flatten? isAnd children = some flat) (member : expr ∈ flat) :
    Normal expr ∧ expr.childrenOf? isAnd = none := by
  obtain ⟨child, inside, constant, opened⟩ := mem_of_flatten? flattened member
  rcases settled child inside with ⟨value, rfl⟩ | normal
  · cases constant
  · cases inner : child.childrenOf? isAnd with
    | none =>
        rw [inner, Option.getD_none, List.mem_singleton] at opened
        exact opened ▸ ⟨normal, inner⟩
    | some grandchildren =>
        rw [inner, Option.getD_some] at opened
        obtain ⟨innerNormal, reduced⟩ := normal.of_childrenOf? inner
        exact ⟨innerNormal expr opened, reduced.alternating expr opened⟩

/-! Thinning out. -/

theorem hasComplements_eq_false_iff {children : List Expr} :
    hasComplements children = false ↔ ∀ inner ∈ children, not inner ∉ children := by
  rw [hasComplements, List.any_eq_false]
  constructor
  · intro none inner member negated
    exact none _ negated (isIn_iff.mpr member)
  · intro none child member
    cases child with
    | not inner => exact fun paired => none inner (isIn_iff.mp paired) member
    | _ => exact Bool.false_ne_true

/-- A child that nothing absorbs is not absorbed by fewer siblings. -/
theorem isAbsorbed_eq_false_of_subset {isAnd : Bool} {siblings fewer : List Expr} {child : Expr}
    (subset : fewer ⊆ siblings) (unabsorbed : isAbsorbed isAnd siblings child = false) :
    isAbsorbed isAnd fewer child = false := by
  rw [isAbsorbed] at *
  split
  · rfl
  · next inner opened =>
    rw [opened] at unabsorbed
    exact List.any_eq_false.mpr fun sibling member =>
      List.any_eq_false.mp unabsorbed sibling (subset member)

theorem settled_simplifyJunction {isAnd : Bool} {children : List Expr}
    (settled : ∀ child ∈ children, Settled child) :
    Settled (simplifyJunction isAnd children) := by
  unfold simplifyJunction
  split
  · exact .inl ⟨_, rfl⟩
  · next flat flattened =>
    dsimp only
    generalize sortedEq : dropRepeated (flat.mergeSort le) = sorted
    have increasing : Increasing sorted :=
      sortedEq ▸ increasing_dropRepeated (List.pairwise_mergeSort @le_trans le_total flat)
    have normal : ∀ expr ∈ sorted, Normal expr ∧ expr.childrenOf? isAnd = none := by
      intro expr member
      rw [← sortedEq, mem_dropRepeated, List.mem_mergeSort] at member
      exact normal_of_mem_flatten? settled flattened member
    split
    · exact .inl ⟨_, rfl⟩
    · next plain =>
      rw [Bool.not_eq_true, hasComplements_eq_false_iff] at plain
      generalize keptEq : (sorted.filter fun child => !isAbsorbed isAnd sorted child) = kept
      have subset : kept ⊆ sorted := keptEq ▸ List.filter_sublist.subset
      split
      · exact .inl ⟨_, rfl⟩
      · next child =>
        exact .inr (normal child (subset List.mem_cons_self)).1
      · next several single =>
        refine .inr (.junction (fun child member => (normal child (subset member)).1) ?_)
        constructor
        · match kept, several, single with
          | [], several, _ => exact absurd rfl several
          | [child], _, single => exact absurd rfl (single child)
          | _ :: _ :: _, _, _ => exact Nat.le_add_left 2 _
        · exact keptEq ▸ increasing.filter _
        · exact fun child member => (normal child (subset member)).2
        · exact fun inner member negated => plain inner (subset member) (subset negated)
        · intro child member
          rw [← keptEq, List.mem_filter, Bool.not_eq_true'] at member
          exact isAbsorbed_eq_false_of_subset subset member.2

theorem simplifyJunction_eq_self {isAnd : Bool} {children : List Expr}
    (normal : ∀ child ∈ children, Normal child) (reduced : Reduced isAnd children) :
    simplifyJunction isAnd children = junction isAnd children := by
  have kept : (children.filter fun child => !isAbsorbed isAnd children child) = children :=
    List.filter_eq_self.mpr fun child member => by rw [reduced.unabsorbed child member]; rfl
  simp only [simplifyJunction, flatten?_eq_self normal reduced.alternating,
    mergeSort_eq_self reduced.increasing, dropRepeated_eq_self reduced.increasing,
    hasComplements_eq_false_iff.mpr reduced.uncomplemented, kept]
  match children, reduced.several with
  | _ :: _ :: _, _ => rfl

/-- What is left of a junction is a constant, one opened child or a junction of opened children. -/
theorem simplifyJunction_cases (isAnd : Bool) (children : List Expr) :
    (∃ value, simplifyJunction isAnd children = const value) ∨
      ∃ kept : List Expr,
        (∀ expr ∈ kept, ∃ child ∈ children, child.const? = none ∧
          expr ∈ (child.childrenOf? isAnd).getD [child]) ∧
        (kept = [simplifyJunction isAnd children] ∨
          simplifyJunction isAnd children = junction isAnd kept) := by
  unfold simplifyJunction
  split
  · exact .inl ⟨_, rfl⟩
  · next flat flattened =>
    dsimp only
    generalize sortedEq : dropRepeated (flat.mergeSort le) = sorted
    split
    · exact .inl ⟨_, rfl⟩
    · have opened : ∀ expr ∈ sorted.filter fun child => !isAbsorbed isAnd sorted child,
          ∃ child ∈ children, child.const? = none ∧
            expr ∈ (child.childrenOf? isAnd).getD [child] := by
        intro expr member
        have inside := (List.mem_filter.mp member).1
        rw [← sortedEq, mem_dropRepeated, List.mem_mergeSort] at inside
        exact mem_of_flatten? flattened inside
      split
      · exact .inl ⟨_, rfl⟩
      · next child single => exact .inr ⟨_, opened, .inl single⟩
      · exact .inr ⟨_, opened, .inr rfl⟩

/-! Passes. -/

mutual

/-- One pass over a negation normal form settles it. -/
theorem settled_simplifyOnce_nnfWith :
    ∀ (polarity : Bool) (expr : Expr), Settled (expr.nnfWith polarity).simplifyOnce
  | _, const _ => .inl ⟨_, rfl⟩
  | true, symbol id => .inr (.symbol id)
  | false, symbol id => .inr (.negated id)
  | polarity, not inner => settled_simplifyOnce_nnfWith (!polarity) inner
  | true, and children => settled_simplifyJunction (settled_simplifyAll_nnfAll true children)
  | false, and children => settled_simplifyJunction (settled_simplifyAll_nnfAll false children)
  | true, or children => settled_simplifyJunction (settled_simplifyAll_nnfAll true children)
  | false, or children => settled_simplifyJunction (settled_simplifyAll_nnfAll false children)

theorem settled_simplifyAll_nnfAll :
    ∀ (polarity : Bool) (children : List Expr),
      ∀ child ∈ simplifyAll (nnfAll polarity children), Settled child
  | _, [] => nofun
  | polarity, child :: rest =>
      List.forall_mem_cons.mpr
        ⟨settled_simplifyOnce_nnfWith polarity child, settled_simplifyAll_nnfAll polarity rest⟩

end

theorem simplifyAll_eq_self {children : List Expr}
    (fixed : ∀ child ∈ children, child.simplifyOnce = child) : simplifyAll children = children := by
  induction children with
  | nil => rfl
  | cons child rest ih =>
      rw [List.forall_mem_cons] at fixed
      rw [simplifyAll, fixed.1, ih fixed.2]

theorem nnfAll_eq_self {children : List Expr}
    (fixed : ∀ child ∈ children, child.nnfWith true = child) : nnfAll true children = children := by
  induction children with
  | nil => rfl
  | cons child rest ih =>
      rw [List.forall_mem_cons] at fixed
      rw [nnfAll, fixed.1, ih fixed.2]

theorem Normal.simplifyOnce_eq_self {expr : Expr} (normal : Normal expr) :
    expr.simplifyOnce = expr := by
  induction normal with
  | symbol id => rfl
  | negated id => rfl
  | @junction isAnd children normal reduced ih =>
      have same := simplifyJunction_eq_self normal reduced
      cases isAnd with
      | true => exact (congrArg (simplifyJunction true) (simplifyAll_eq_self ih)).trans same
      | false => exact (congrArg (simplifyJunction false) (simplifyAll_eq_self ih)).trans same

theorem Normal.toNnf_eq_self {expr : Expr} (normal : Normal expr) : expr.toNnf = expr := by
  induction normal with
  | symbol id => rfl
  | negated id => rfl
  | @junction isAnd children normal reduced ih =>
      cases isAnd with
      | true => exact congrArg and (nnfAll_eq_self ih)
      | false => exact congrArg or (nnfAll_eq_self ih)

theorem Settled.simplifyOnce_eq_self {expr : Expr} (settled : Settled expr) :
    expr.simplifyOnce = expr := by
  rcases settled with ⟨value, rfl⟩ | normal
  · rfl
  · exact normal.simplifyOnce_eq_self

theorem Settled.toNnf_eq_self {expr : Expr} (settled : Settled expr) : expr.toNnf = expr := by
  rcases settled with ⟨value, rfl⟩ | normal
  · cases value <;> rfl
  · exact normal.toNnf_eq_self

/-! The loop. -/

/-- Passes over an expression end at a result because one more pass leaves it as it is, within the
number of passes allowed; using them up is no such end. -/
inductive Ends : (passes : Nat) → (expr result : Expr) → Prop
  | agree {passes : Nat} {expr : Expr} (same : expr.simplifyOnce = expr) :
      Ends (passes + 1) expr expr
  | pass {passes : Nat} {expr result : Expr} (changed : expr.simplifyOnce ≠ expr)
      (rest : Ends passes expr.simplifyOnce result) : Ends (passes + 1) expr result

theorem Ends.simplifyWithin_eq {passes : Nat} {expr result : Expr}
    (ends : Ends passes expr result) : simplifyWithin passes expr = result := by
  induction ends with
  | agree same => rw [simplifyWithin, same, if_pos (beq_self_eq_true _)]
  | pass changed _ ih => rw [simplifyWithin, if_neg (by simpa using changed), ih]

theorem Ends.more {passes more : Nat} {expr result : Expr} (ends : Ends passes expr result)
    (le : passes ≤ more) : Ends more expr result := by
  induction ends generalizing more with
  | agree same =>
      obtain ⟨fewer, rfl⟩ := Nat.exists_eq_add_of_le' le
      exact .agree same
  | pass changed _ ih =>
      obtain ⟨fewer, rfl⟩ := Nat.exists_eq_add_of_le' le
      exact .pass changed (ih (Nat.le_add_left _ _))

/-- The second pass at the latest finds nothing to change. -/
theorem ends_two (expr : Expr) : Ends 2 expr.toNnf expr.toNnf.simplifyOnce := by
  have fixed := (settled_simplifyOnce_nnfWith true expr).simplifyOnce_eq_self
  by_cases same : expr.toNnf.simplifyOnce = expr.toNnf
  · rw [same]
    exact .agree same
  · exact .pass same (.agree fixed)

theorem simplify_eq_simplifyOnce (expr : Expr) : expr.simplify = expr.toNnf.simplifyOnce :=
  ((ends_two expr).more (by decide)).simplifyWithin_eq

theorem settled_simplify (expr : Expr) : Settled expr.simplify :=
  simplify_eq_simplifyOnce expr ▸ settled_simplifyOnce_nnfWith true expr

theorem simplify_eq_self {expr : Expr} (settled : Settled expr) : expr.simplify = expr := by
  rw [simplify_eq_simplifyOnce, settled.toNnf_eq_self, settled.simplifyOnce_eq_self]

/-- Simplification gives a constant or a normal form without constants, which it then leaves as it
is; and it stops because two passes agree, the second time at the latest, however deep the
expression is. -/
theorem simplify_normal (expr : Expr) :
    Settled expr.simplify ∧ expr.simplify.simplify = expr.simplify ∧
      Ends maxPasses expr.toNnf expr.simplify ∧ Ends 2 expr.toNnf expr.simplify := by
  have ends : Ends 2 expr.toNnf expr.simplify := simplify_eq_simplifyOnce expr ▸ ends_two expr
  exact ⟨settled_simplify expr, simplify_eq_self (settled_simplify expr), ends.more (by decide),
    ends⟩

end Concordance.Expr
