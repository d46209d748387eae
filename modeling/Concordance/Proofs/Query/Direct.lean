import Concordance.Proofs.Expr.Polarity
import Concordance.Proofs.Query.Table

/-!
Bounds and connectives side by side.  A bound is the expression of the connectives, except that
lower bounds of positional nodes may be false; and every symbol of either stands for a terminal at
the polarity of the symbol.
-/

namespace Concordance

/-! Polarities. -/

/-- The polarity of the children of a node. -/
def Operation.inside (operation : Operation) (polarity : Bool) : Bool :=
  match operation with
  | not => !polarity
  | concat | gap | union | intersect | layerMatch => polarity

namespace Grammar

mutual

/-- The terminals below an even number of negations, or below an odd number if `polarity` is false.
-/
def terminalsAt (polarity : Bool) : Grammar → List Terminal
  | terminal t => if polarity then [t] else []
  | composite _ operation children _ _ => terminalsAtOfAll (operation.inside polarity) children

def terminalsAtOfAll (polarity : Bool) : List Grammar → List Terminal
  | [] => []
  | child :: rest => child.terminalsAt polarity ++ terminalsAtOfAll polarity rest

end

mutual

theorem terminalsAt_subset : ∀ {polarity : Bool} (grammar : Grammar),
    grammar.terminalsAt polarity ⊆ grammar.terminals
  | true, terminal _ => List.Subset.refl _
  | false, terminal _ => List.nil_subset _
  | _, composite _ _ children _ _ => terminalsAtOfAll_subset children

theorem terminalsAtOfAll_subset : ∀ {polarity : Bool} (children : List Grammar),
    terminalsAtOfAll polarity children ⊆ terminalsOfAll children
  | _, [] => List.Subset.refl _
  | _, child :: rest =>
      List.append_subset.mpr
        ⟨List.subset_append_of_subset_left _ (terminalsAt_subset child),
          List.subset_append_of_subset_right _ (terminalsAtOfAll_subset rest)⟩

end

end Grammar

/-! What symbols stand for. -/

/-- An upper bound, or a lower one if `isUpper` is false. -/
def Bounds.side (isUpper : Bool) (bounds : Bounds) : Expr :=
  if isUpper then bounds.upper else bounds.lower

open Concordance.Expr

variable {id : Nat} {wanted : Option Bool} {polarity isUpper : Bool}

theorem Grammar.mem_collect_connective_iff {operation : Operation} {children : List Expr} :
    id ∈ (connective operation children).collect wanted polarity [] ↔
      ∃ child ∈ children, id ∈ child.collect wanted (operation.inside polarity) [] := by
  cases operation with
  | not => exact mem_collect_junction_iff true
  | union => exact mem_collect_junction_iff false
  | intersect => exact mem_collect_junction_iff true
  | concat => exact mem_collect_junction_iff true
  | gap => exact mem_collect_junction_iff true
  | layerMatch => exact mem_collect_junction_iff true

/-- Whether the bound of a node is false whatever its children are: a lower bound, if the node asks
for positions. -/
def Bounds.isLost (isUpper : Bool) (operation : Operation) (children : List Grammar) : Bool :=
  operation.isPositional && !isUpper && !isLone operation children

theorem Bounds.side_ofOperation (operation : Operation) (children : List Grammar)
    (bounds : List Bounds) :
    (ofOperation operation children bounds).side isUpper =
      if isLost isUpper operation children then .const false
      else Grammar.connective operation (bounds.map (side (operation.inside isUpper))) := by
  have swap (lone : Bool) (lower : Expr) :
      (if lone then lower else .const false) = if !lone then .const false else lower := by
    cases lone <;> rfl
  cases isUpper with
  | true => cases operation <;> rfl
  | false =>
      cases operation with
      | not => rfl
      | union => rfl
      | intersect => rfl
      | concat => exact swap _ _
      | gap => exact swap _ _
      | layerMatch => exact swap _ _

namespace Grammar

mutual

/-- The bounds of a grammar have no symbols but those of its connectives, at the same polarities. -/
theorem mem_collect_direct_of_side :
    ∀ {isUpper polarity : Bool} (grammar : Grammar) (table : SymbolTable),
      id ∈ ((grammar.bounds table).1.side isUpper).collect wanted polarity [] →
        id ∈ (grammar.direct table).1.collect wanted polarity []
  | true, _, terminal _, _, member => member
  | false, _, terminal _, _, member => member
  | isUpper, polarity, composite _ operation children _ _, table, member => by
      rw [bounds, Bounds.side_ofOperation] at member
      split at member
      · cases member
      · rw [mem_collect_connective_iff] at member
        simp only [List.mem_map, exists_exists_and_eq_and] at member
        exact mem_collect_connective_iff.mpr
          (exists_mem_collect_direct_of_side children table member)

theorem exists_mem_collect_direct_of_side :
    ∀ {isUpper polarity : Bool} (children : List Grammar) (table : SymbolTable),
      (∃ bounds ∈ (boundsOfAll children table).1,
        id ∈ (bounds.side isUpper).collect wanted polarity []) →
          ∃ expr ∈ (directAll children table).1, id ∈ expr.collect wanted polarity []
  | _, _, [], _, given => nomatch given
  | _, _, child :: rest, table, given => by
      simp only [boundsOfAll, directAll, List.mem_cons, exists_eq_or_imp, table_direct] at given ⊢
      exact given.imp (mem_collect_direct_of_side child table)
        (exists_mem_collect_direct_of_side rest (child.bounds table).2)

end

variable {final : SymbolTable}

mutual

/-- A positive symbol of the connectives of a grammar stands for a terminal below an even number of
negations. -/
theorem exists_terminal_of_mem_direct :
    ∀ {polarity : Bool} (grammar : Grammar) (table : SymbolTable),
      (grammar.direct table).2 <+: final →
        id ∈ (grammar.direct table).1.collect (some true) polarity [] →
          ∃ t ∈ grammar.terminalsAt polarity, final[id]? = some t
  | true, terminal t, table, extended, member => by
      obtain rfl := List.mem_singleton.mp member
      exact ⟨t, List.mem_singleton_self t,
        SymbolTable.getElem?_of_isPrefix extended SymbolTable.getElem?_intern⟩
  | false, terminal _, _, _, member => nomatch member
  | polarity, composite _ operation children _ _, table, extended, member =>
      exists_terminal_of_mem_directAll children table extended
        (mem_collect_connective_iff.mp member)

theorem exists_terminal_of_mem_directAll :
    ∀ {polarity : Bool} (children : List Grammar) (table : SymbolTable),
      (directAll children table).2 <+: final →
        (∃ expr ∈ (directAll children table).1, id ∈ expr.collect (some true) polarity []) →
          ∃ t ∈ terminalsAtOfAll polarity children, final[id]? = some t
  | _, [], _, _, given => nomatch given
  | polarity, child :: rest, table, extended, given => by
      have grows := isPrefix_directAll rest (child.direct table).2
      simp only [directAll, List.mem_cons, exists_eq_or_imp] at given
      simp only [terminalsAtOfAll, List.mem_append, or_and_right, exists_or]
      exact given.imp (exists_terminal_of_mem_direct child table (grows.trans extended))
        (exists_terminal_of_mem_directAll rest (child.direct table).2 extended)

end

/-! Where nothing is lost. -/

mutual

/-- Positional nodes below an odd number of negations, or below an even number if `polarity` is
false, stand over lone children. -/
def PositionsLone (polarity : Bool) : Grammar → Prop
  | terminal _ => True
  | composite _ operation children _ _ =>
    Bounds.isLost polarity operation children = false ∧
      AllPositionsLone (operation.inside polarity) children

def AllPositionsLone (polarity : Bool) : List Grammar → Prop
  | [] => True
  | child :: rest => child.PositionsLone polarity ∧ AllPositionsLone polarity rest

end

mutual

theorem side_eq_direct : ∀ {polarity : Bool} (grammar : Grammar) (table : SymbolTable),
    grammar.PositionsLone polarity →
      (grammar.bounds table).1.side polarity = (grammar.direct table).1
  | true, terminal _, _, _ => rfl
  | false, terminal _, _, _ => rfl
  | polarity, composite _ operation children _ _, table, lone => by
      rw [bounds, Bounds.side_ofOperation, lone.1, if_neg Bool.false_ne_true,
        map_side_eq_directAll children table lone.2]
      rfl

theorem map_side_eq_directAll : ∀ {polarity : Bool} (children : List Grammar)
    (table : SymbolTable), AllPositionsLone polarity children →
      (boundsOfAll children table).1.map (Bounds.side polarity) = (directAll children table).1
  | _, [], _, _ => rfl
  | polarity, child :: rest, table, lone => by
      rw [boundsOfAll, List.map_cons, side_eq_direct child table lone.1,
        map_side_eq_directAll rest (child.bounds table).2 lone.2, ← table_direct child]
      rfl

end

end Grammar

end Concordance
