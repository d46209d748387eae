import Concordance.Expr.Basic

/-!
The symbols of an expression.  Collecting adds to what is found already, in increasing order, so
what an expression gives can be told apart from where the collecting started.
-/

namespace Concordance.Expr

theorem mem_insertSymbol {id new : Nat} {found : List Nat} :
    id ∈ insertSymbol new found ↔ id = new ∨ id ∈ found := by
  induction found with
  | nil => simp [insertSymbol]
  | cons other rest ih =>
      rw [insertSymbol]
      split
      · rw [List.mem_cons]
      · split
        · next same =>
          rw [same, List.mem_cons, or_self_left]
        · rw [List.mem_cons, ih, List.mem_cons, or_left_comm]

theorem sorted_insertSymbol (new : Nat) {found : List Nat} (sorted : found.Pairwise (· < ·)) :
    (insertSymbol new found).Pairwise (· < ·) := by
  induction sorted with
  | nil => simp [insertSymbol]
  | @cons other rest least sorted ih =>
      rw [insertSymbol]
      split
      · next below =>
        refine .cons ?_ (.cons least sorted)
        intro id member
        rcases List.mem_cons.mp member with rfl | member
        · exact below
        · exact Nat.lt_trans below (least id member)
      · next notBelow =>
        split
        · exact .cons least sorted
        · next differ =>
          refine .cons ?_ ih
          intro id member
          rcases mem_insertSymbol.mp member with rfl | member
          · omega
          · exact least id member

mutual

theorem mem_collect {id : Nat} {wanted : Option Bool} :
    ∀ {polarity : Bool} (expr : Expr) (found : List Nat),
      id ∈ expr.collect wanted polarity found ↔
        id ∈ found ∨ id ∈ expr.collect wanted polarity []
  | _, const _, _ => by simp [collect]
  | polarity, symbol other, found => by
      rw [collect, collect]
      split
      · rw [mem_insertSymbol, mem_insertSymbol]
        simp [or_comm]
      · simp
  | polarity, not inner, found => by
      rw [collect, collect]
      exact mem_collect inner found
  | polarity, and children, found => by
      rw [collect, collect, mem_collectAll children found, mem_collectAll children []]
      simp
  | polarity, or children, found => by
      rw [collect, collect, mem_collectAll children found, mem_collectAll children []]
      simp

theorem mem_collectAll {id : Nat} {wanted : Option Bool} :
    ∀ {polarity : Bool} (children : List Expr) (found : List Nat),
      id ∈ collectAll wanted polarity children found ↔
        id ∈ found ∨ ∃ child ∈ children, id ∈ child.collect wanted polarity []
  | _, [], _ => by simp [collectAll]
  | polarity, child :: rest, found => by
      rw [collectAll, mem_collectAll rest, mem_collect child found]
      simp [or_assoc]

end

theorem mem_collectAll_nil_iff {id : Nat} {wanted : Option Bool} {polarity : Bool}
    {children : List Expr} :
    id ∈ collectAll wanted polarity children [] ↔
      ∃ child ∈ children, id ∈ child.collect wanted polarity [] := by
  rw [mem_collectAll, or_iff_right List.not_mem_nil]

theorem forall_mem_collectAll_iff {P : Nat → Prop} {wanted : Option Bool} {polarity : Bool}
    {children : List Expr} :
    (∀ id ∈ collectAll wanted polarity children [], P id) ↔
      ∀ child ∈ children, ∀ id ∈ child.collect wanted polarity [], P id := by
  simp only [mem_collectAll_nil_iff]
  constructor
  · exact fun all child member id below => all id ⟨child, member, below⟩
  · rintro all id ⟨child, member, below⟩
    exact all child member id below

mutual

theorem sorted_collect {wanted : Option Bool} :
    ∀ {polarity : Bool} (expr : Expr) {found : List Nat}, found.Pairwise (· < ·) →
      (expr.collect wanted polarity found).Pairwise (· < ·)
  | _, const _, _, sorted => sorted
  | polarity, symbol id, _, sorted => by
      rw [collect]
      split
      · exact sorted_insertSymbol id sorted
      · exact sorted
  | _, not inner, _, sorted => by
      rw [collect]
      exact sorted_collect inner sorted
  | _, and children, _, sorted => by
      rw [collect]
      exact sorted_collectAll children sorted
  | _, or children, _, sorted => by
      rw [collect]
      exact sorted_collectAll children sorted

theorem sorted_collectAll {wanted : Option Bool} :
    ∀ {polarity : Bool} (children : List Expr) {found : List Nat}, found.Pairwise (· < ·) →
      (collectAll wanted polarity children found).Pairwise (· < ·)
  | _, [], _, sorted => sorted
  | _, child :: rest, _, sorted => by
      rw [collectAll]
      exact sorted_collectAll rest (sorted_collect child sorted)

end

theorem nodup_collect (wanted : Option Bool) (polarity : Bool) (expr : Expr) :
    (expr.collect wanted polarity []).Nodup :=
  (sorted_collect expr .nil).imp Nat.ne_of_lt

theorem collect_subset_and {wanted : Option Bool} {polarity : Bool} {child : Expr}
    {children : List Expr} (member : child ∈ children) :
    child.collect wanted polarity [] ⊆ (and children).collect wanted polarity [] := by
  intro id idMember
  rw [collect, mem_collectAll]
  exact .inr ⟨child, member, idMember⟩

theorem collect_subset_or {wanted : Option Bool} {polarity : Bool} {child : Expr}
    {children : List Expr} (member : child ∈ children) :
    child.collect wanted polarity [] ⊆ (or children).collect wanted polarity [] := by
  intro id idMember
  rw [collect, mem_collectAll]
  exact .inr ⟨child, member, idMember⟩

/-! The value of an expression depends on its symbols only. -/

mutual

theorem eval_congr {first second : Nat → Bool} :
    ∀ {polarity : Bool} (expr : Expr),
      (∀ id ∈ expr.collect none polarity [], first id = second id) →
        expr.eval first = expr.eval second
  | _, const _, _ => rfl
  | _, symbol id, same => same id (List.mem_singleton_self id)
  | _, not inner, same => congrArg Bool.not (eval_congr inner same)
  | _, and children, same => evalAll_congr children (forall_mem_collectAll_iff.mp same)
  | _, or children, same => evalAny_congr children (forall_mem_collectAll_iff.mp same)

theorem evalAll_congr {first second : Nat → Bool} :
    ∀ {polarity : Bool} (children : List Expr),
      (∀ child ∈ children, ∀ id ∈ child.collect none polarity [], first id = second id) →
        evalAll first children = evalAll second children
  | _, [], _ => rfl
  | _, child :: rest, same => by
      rw [List.forall_mem_cons] at same
      rw [evalAll, evalAll, eval_congr child same.1, evalAll_congr rest same.2]

theorem evalAny_congr {first second : Nat → Bool} :
    ∀ {polarity : Bool} (children : List Expr),
      (∀ child ∈ children, ∀ id ∈ child.collect none polarity [], first id = second id) →
        evalAny first children = evalAny second children
  | _, [], _ => rfl
  | _, child :: rest, same => by
      rw [List.forall_mem_cons] at same
      rw [evalAny, evalAny, eval_congr child same.1, evalAny_congr rest same.2]

end

end Concordance.Expr
