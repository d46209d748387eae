import Concordance.Proofs.Expr.Normal
import Concordance.Proofs.Expr.Symbols

/-!
Symbols and their polarities through simplification.  The negation normal form has every symbol at
the polarities at which the expression has it, and passes only drop occurrences; so the symbols of a
simplified expression are among those given, at the same polarities.
-/

namespace Concordance.Expr

variable {id : Nat} {wanted : Option Bool} {polarity : Bool}

theorem mem_collect_junction_iff (isAnd : Bool) {children : List Expr} :
    id ∈ (junction isAnd children).collect wanted polarity [] ↔
      ∃ child ∈ children, id ∈ child.collect wanted polarity [] := by
  cases isAnd with
  | true => exact mem_collectAll_nil_iff
  | false => exact mem_collectAll_nil_iff

theorem mem_collect_of_childrenOf? {isAnd : Bool} {expr : Expr} {children : List Expr}
    (opened : expr.childrenOf? isAnd = some children) {child : Expr} (member : child ∈ children)
    (below : id ∈ child.collect wanted polarity []) : id ∈ expr.collect wanted polarity [] := by
  rw [eq_junction_of_childrenOf? opened, mem_collect_junction_iff]
  exact ⟨child, member, below⟩

/-! Negation normal form. -/

mutual

theorem mem_collect_nnfWith_iff :
    ∀ (positive : Bool) (expr : Expr),
      id ∈ (expr.nnfWith positive).collect wanted polarity [] ↔
        id ∈ expr.collect wanted (polarity == positive) []
  | _, const _ => Iff.rfl
  | true, symbol _ => by rw [beq_true]; rfl
  | false, symbol _ => by rw [beq_false]; rfl
  | positive, not inner => by
      rw [nnfWith, mem_collect_nnfWith_iff (!positive) inner, collect]
      cases polarity <;> cases positive <;> rfl
  | positive, and children => by
      rw [nnfWith, mem_collect_junction_iff]
      exact (exists_mem_collect_nnfAll_iff positive children).trans
        (mem_collect_junction_iff true).symm
  | positive, or children => by
      rw [nnfWith, mem_collect_junction_iff]
      exact (exists_mem_collect_nnfAll_iff positive children).trans
        (mem_collect_junction_iff false).symm

theorem exists_mem_collect_nnfAll_iff :
    ∀ (positive : Bool) (children : List Expr),
      (∃ child ∈ nnfAll positive children, id ∈ child.collect wanted polarity []) ↔
        ∃ child ∈ children, id ∈ child.collect wanted (polarity == positive) []
  | _, [] => by simp [nnfAll]
  | positive, child :: rest => by
      simp only [nnfAll, List.mem_cons, exists_eq_or_imp, mem_collect_nnfWith_iff positive child,
        exists_mem_collect_nnfAll_iff positive rest]

end

/-! Passes. -/

theorem exists_mem_collect_of_simplifyJunction {isAnd : Bool} {children : List Expr}
    (member : id ∈ (simplifyJunction isAnd children).collect wanted polarity []) :
    ∃ child ∈ children, id ∈ child.collect wanted polarity [] := by
  rcases simplifyJunction_cases isAnd children with ⟨value, constant⟩ | ⟨kept, opened, shape⟩
  · rw [constant] at member
    cases member
  · have below : ∃ expr ∈ kept, id ∈ expr.collect wanted polarity [] := by
      rcases shape with single | several
      · exact ⟨_, single ▸ List.mem_singleton_self _, member⟩
      · rw [several, mem_collect_junction_iff] at member
        exact member
    obtain ⟨expr, inside, below⟩ := below
    obtain ⟨child, childMember, -, inside⟩ := opened expr inside
    refine ⟨child, childMember, ?_⟩
    cases inner : child.childrenOf? isAnd with
    | none =>
        rw [inner, Option.getD_none, List.mem_singleton] at inside
        exact inside ▸ below
    | some grandchildren =>
        rw [inner, Option.getD_some] at inside
        exact mem_collect_of_childrenOf? inner inside below

theorem mem_collect_of_simplifyNegation {expr : Expr}
    (member : id ∈ (simplifyNegation expr).collect wanted polarity []) :
    id ∈ (not expr).collect wanted polarity [] := by
  cases expr with
  | const value => exact member
  | not inner =>
      rw [collect, collect, Bool.not_not]
      exact member
  | symbol id => exact member
  | and children => exact member
  | or children => exact member

mutual

theorem mem_collect_of_simplifyOnce :
    ∀ {polarity : Bool} (expr : Expr), id ∈ expr.simplifyOnce.collect wanted polarity [] →
      id ∈ expr.collect wanted polarity []
  | _, const _, member => member
  | _, symbol _, member => member
  | _, not inner, member =>
      mem_collect_of_simplifyOnce inner (mem_collect_of_simplifyNegation member)
  | _, and children, member =>
      (mem_collect_junction_iff true).mpr
        (exists_mem_collect_of_simplifyAll children (exists_mem_collect_of_simplifyJunction member))
  | _, or children, member =>
      (mem_collect_junction_iff false).mpr
        (exists_mem_collect_of_simplifyAll children (exists_mem_collect_of_simplifyJunction member))

theorem exists_mem_collect_of_simplifyAll :
    ∀ {polarity : Bool} (children : List Expr),
      (∃ child ∈ simplifyAll children, id ∈ child.collect wanted polarity []) →
        ∃ child ∈ children, id ∈ child.collect wanted polarity []
  | _, [], given => given
  | _, child :: rest, given => by
      simp only [simplifyAll, List.mem_cons, exists_eq_or_imp] at given ⊢
      exact given.imp (mem_collect_of_simplifyOnce child) (exists_mem_collect_of_simplifyAll rest)

end

/-- Simplification brings no symbol in, and no symbol to another polarity. -/
theorem collect_simplify_subset (expr : Expr) (wanted : Option Bool) (polarity : Bool) :
    expr.simplify.collect wanted polarity [] ⊆ expr.collect wanted polarity [] := by
  intro id member
  rw [simplify_eq_simplifyOnce] at member
  have positive := (mem_collect_nnfWith_iff true expr).mp (mem_collect_of_simplifyOnce _ member)
  rwa [beq_true] at positive

end Concordance.Expr
