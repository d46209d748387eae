import Concordance.Proofs.Expr.Simplify
import Concordance.Proofs.Matcher.Build
import Concordance.Query.Bounds
import Mathlib.Data.List.Basic

/-!
Bounds of grammars.  Where the lower bound of a node holds the node has a match, and where the node
has a match its upper bound holds; symbols are read as the terminals that they stand for.
-/

namespace Concordance

/-! Symbol tables only grow. -/

namespace SymbolTable

variable {table : SymbolTable} {terminal other : Terminal} {terminals : List Terminal}

/-- The symbol of a terminal is the first place at which it stands. -/
theorem intern_eq (table : SymbolTable) (terminal : Terminal) :
    table.intern terminal =
      (table.idxOf terminal, if terminal ∈ table then table else table ++ [terminal]) := by
  rw [intern]
  by_cases known : terminal ∈ table
  · have first : table.idxOf? terminal = some (table.idxOf terminal) :=
      List.findIdx?_eq_some_iff_findIdx_eq.mpr ⟨List.idxOf_lt_length_of_mem known, rfl⟩
    rw [first, if_pos known]
  · rw [List.idxOf?_eq_none_iff.mpr known, if_neg known, List.idxOf_eq_length known]

theorem isPrefix_intern : table <+: (table.intern terminal).2 := by
  rw [intern_eq]
  split
  · exact List.prefix_refl table
  · exact List.prefix_append table [terminal]

theorem mem_intern_iff : other ∈ (table.intern terminal).2 ↔ other ∈ table ∨ other = terminal := by
  rw [intern_eq]
  split
  · next known => exact (or_iff_left_of_imp fun same => same ▸ known).symm
  · rw [List.mem_append, List.mem_singleton]

theorem nodup_intern (nodup : table.Nodup) : (table.intern terminal).2.Nodup := by
  rw [intern_eq]
  split
  · exact nodup
  · next fresh =>
    refine List.nodup_append.mpr ⟨nodup, List.pairwise_singleton _ terminal, ?_⟩
    intro known member last lastMember same
    rw [List.mem_singleton.mp lastMember] at same
    exact fresh (same ▸ member)

theorem getElem?_intern :
    (table.intern terminal).2[(table.intern terminal).1]? = some terminal := by
  rw [intern_eq]
  dsimp only
  split
  · next known => exact List.getElem?_idxOf known
  · next fresh => rw [List.idxOf_eq_length fresh, List.getElem?_concat_length]

theorem getElem?_of_isPrefix {final : SymbolTable} {id : Nat} (extended : table <+: final)
    (read : table[id]? = some terminal) : final[id]? = some terminal := by
  obtain ⟨within, same⟩ := List.getElem?_eq_some_iff.mp read
  rw [List.prefix_iff_getElem?.mp extended id within, same]

/-- The table after these terminals have come, one after the other. -/
def internAll (table : SymbolTable) (terminals : List Terminal) : SymbolTable :=
  terminals.foldl (fun table terminal => (table.intern terminal).2) table

theorem internAll_append (table : SymbolTable) (first second : List Terminal) :
    table.internAll (first ++ second) = (table.internAll first).internAll second :=
  List.foldl_append

theorem isPrefix_internAll : table <+: table.internAll terminals := by
  induction terminals generalizing table with
  | nil => exact List.prefix_refl table
  | cons terminal rest ih => exact isPrefix_intern.trans ih

theorem mem_internAll_iff :
    other ∈ table.internAll terminals ↔ other ∈ table ∨ other ∈ terminals := by
  induction terminals generalizing table with
  | nil => exact (or_iff_left (List.not_mem_nil)).symm
  | cons terminal rest ih =>
      rw [List.mem_cons, ← or_assoc, ← mem_intern_iff]
      exact ih

theorem nodup_internAll (nodup : table.Nodup) : (table.internAll terminals).Nodup := by
  induction terminals generalizing table with
  | nil => exact nodup
  | cons terminal rest ih => exact ih (nodup_intern nodup)

/-- The symbols of terminals, in this table, are true exactly if their terminals have a match. -/
def Reads (document : Document) (assignment : Nat → Bool) (terminals : List Terminal)
    (table : SymbolTable) : Prop :=
  ∀ t ∈ terminals, ∀ id, table[id]? = some t →
    (assignment id = true ↔ t.scanner.results document ≠ [])

/-- A symbol is true of a document if its terminal has a match. -/
def assignment (document : Document) (table : SymbolTable) (id : Nat) : Bool :=
  table[id]?.any fun terminal => !(terminal.scanner.results document).isEmpty

theorem assignment_eq_true_iff {document : Document} {id : Nat}
    (read : table[id]? = some terminal) :
    table.assignment document id = true ↔ terminal.scanner.results document ≠ [] := by
  rw [assignment, read]
  simp

end SymbolTable

namespace Grammar

mutual

/-- Bounds meet the terminals of a grammar from left to right. -/
theorem table_eq_internAll : ∀ (grammar : Grammar) (table : SymbolTable),
    (grammar.bounds table).2 = table.internAll grammar.terminals
  | terminal _, _ => rfl
  | composite _ _ children _ _, table => tableOfAll_eq_internAll children table

theorem tableOfAll_eq_internAll : ∀ (children : List Grammar) (table : SymbolTable),
    (boundsOfAll children table).2 = table.internAll (terminalsOfAll children)
  | [], _ => rfl
  | child :: rest, table => by
      rw [terminalsOfAll, SymbolTable.internAll_append, ← table_eq_internAll child,
        ← tableOfAll_eq_internAll rest, boundsOfAll]

end

theorem isPrefix_bounds (grammar : Grammar) (table : SymbolTable) :
    table <+: (grammar.bounds table).2 :=
  grammar.table_eq_internAll table ▸ SymbolTable.isPrefix_internAll

theorem isPrefix_boundsOfAll (children : List Grammar) (table : SymbolTable) :
    table <+: (boundsOfAll children table).2 :=
  tableOfAll_eq_internAll children table ▸ SymbolTable.isPrefix_internAll

theorem mem_bounds_iff {grammar : Grammar} {table : SymbolTable} {t : Terminal} :
    t ∈ (grammar.bounds table).2 ↔ t ∈ table ∨ t ∈ grammar.terminals := by
  rw [table_eq_internAll, SymbolTable.mem_internAll_iff]

end Grammar

/-! Between the bounds. -/

namespace Bounds

/-- The lower bound implies a property, and the property the upper bound. -/
structure Enclose (assignment : Nat → Bool) (property : Prop) (bounds : Bounds) : Prop where
  lower : bounds.lower.eval assignment = true → property
  upper : property → bounds.upper.eval assignment = true

/-- Bounds enclose a property of the nodes, one by one. -/
def EncloseAll (assignment : Nat → Bool) (property : Grammar → Prop) :
    List Grammar → List Bounds → Prop
  | [], [] => True
  | child :: children, bounds :: others =>
    Enclose assignment (property child) bounds ∧ EncloseAll assignment property children others
  | _, _ => False

variable {assignment : Nat → Bool} {property : Grammar → Prop} {children : List Grammar}
  {bounds : List Bounds}

theorem EncloseAll.and (enclosed : EncloseAll assignment property children bounds) :
    Enclose assignment (∀ child ∈ children, property child)
      ⟨.and (bounds.map upper), .and (bounds.map lower)⟩ := by
  induction children generalizing bounds with
  | nil =>
      cases bounds with
      | nil => exact ⟨fun _ => nofun, fun _ => rfl⟩
      | cons first others => exact enclosed.elim
  | cons child rest ih =>
      cases bounds with
      | nil => exact enclosed.elim
      | cons first others =>
          obtain ⟨here, later⟩ := enclosed
          have all := ih later
          rw [List.forall_mem_cons]
          constructor
          · intro holds
            obtain ⟨firstHolds, othersHold⟩ := Bool.and_eq_true_iff.mp holds
            exact ⟨here.lower firstHolds, all.lower othersHold⟩
          · intro given
            obtain ⟨first, others⟩ := given
            exact Bool.and_eq_true_iff.mpr ⟨here.upper first, all.upper others⟩

theorem EncloseAll.or (enclosed : EncloseAll assignment property children bounds) :
    Enclose assignment (∃ child ∈ children, property child)
      ⟨.or (bounds.map upper), .or (bounds.map lower)⟩ := by
  induction children generalizing bounds with
  | nil =>
      cases bounds with
      | nil => exact ⟨nofun, nofun⟩
      | cons first others => exact enclosed.elim
  | cons child rest ih =>
      cases bounds with
      | nil => exact enclosed.elim
      | cons first others =>
          obtain ⟨here, later⟩ := enclosed
          have any := ih later
          constructor
          · intro holds
            rcases Bool.or_eq_true_iff.mp holds with firstHolds | othersHold
            · exact ⟨child, List.mem_cons_self, here.lower firstHolds⟩
            · obtain ⟨other, member, holds⟩ := any.lower othersHold
              exact ⟨other, List.mem_cons_of_mem child member, holds⟩
          · intro given
            obtain ⟨other, member, holds⟩ := given
            rcases List.mem_cons.mp member with rfl | member
            · exact Bool.or_eq_true_iff.mpr (.inl (here.upper holds))
            · exact Bool.or_eq_true_iff.mpr (.inr (any.upper ⟨other, member, holds⟩))

theorem Enclose.not {property : Prop} {bounds : Bounds}
    (enclosed : Enclose assignment property bounds) :
    Enclose assignment (¬ property) ⟨.not bounds.lower, .not bounds.upper⟩ := by
  constructor
  · intro holds found
    rw [Expr.eval, enclosed.upper found] at holds
    cases holds
  · intro missing
    rw [Expr.eval, Bool.not_eq_true']
    exact Bool.eq_false_iff.mpr fun holds => missing (enclosed.lower holds)

theorem exists_of_isLone {operation : Operation} {children : List Grammar}
    (lone : isLone operation children = true) :
    ∃ child, children = [child] ∧ ((∃ t, child = .terminal t) ∨ operation = .layerMatch) := by
  match children, lone with
  | [.terminal t], _ => exact ⟨_, rfl, .inl ⟨t, rfl⟩⟩
  | [.composite ..], aligned => exact ⟨_, rfl, .inr (of_decide_eq_true aligned)⟩

/-- The bounds of a positional node: a match of each child is needed, and a lone child is enough. -/
theorem enclose_positional {document : Document} {name : String} {operation : Operation}
    {slop : Option Nat} {matchFirst : Bool} (positional : operation.isPositional)
    (slopPositive : slop ≠ some 0)
    (enclosed : EncloseAll assignment (fun child => child.results document ≠ []) children bounds) :
    Enclose assignment
      ((Grammar.composite name operation children slop matchFirst).results document ≠ [])
      ⟨.and (bounds.map upper),
        if isLone operation children then .and (bounds.map lower) else .const false⟩ := by
  constructor
  · intro holds
    split at holds
    · next single =>
      obtain ⟨child, rfl, lone⟩ := exists_of_isLone single
      exact Grammar.results_ne_nil_of_lone positional slopPositive lone
        (enclosed.and.lower holds child (List.mem_singleton_self child))
    · cases holds
  · intro found
    exact enclosed.and.upper (Grammar.results_ne_nil_of_positional positional found)

end Bounds

namespace Grammar

variable {document : Document} {assignment : Nat → Bool} {final : SymbolTable}

mutual

/-- The bounds of a well-formed grammar enclose that it has a match, if its terminals are read. -/
theorem enclose_bounds_of_reads : ∀ (grammar : Grammar) (table : SymbolTable),
    grammar.WellFormed → (grammar.bounds table).2 <+: final →
      final.Reads document assignment grammar.terminals →
        Bounds.Enclose assignment (grammar.results document ≠ []) (grammar.bounds table).1
  | terminal t, table, valid, extended, reads => by
      have read := SymbolTable.getElem?_of_isPrefix extended SymbolTable.getElem?_intern
      have meaning := reads t List.mem_cons_self _ read
      rw [results_terminal]
      exact ⟨meaning.mp, meaning.mpr⟩
  | composite name operation children slop matchFirst, table, valid, extended, reads => by
      have enclosed := encloseAll_of_reads children table valid.2 extended reads
      have slopPositive := valid.allows.slopPositive
      cases operation with
      | intersect =>
          rw [results_intersect_ne_nil_iff, and_iff_right valid.children_ne_nil]
          exact enclosed.and
      | union =>
          rw [results_union_ne_nil_iff]
          exact enclosed.or
      | not =>
          obtain ⟨child, rfl⟩ := valid.eq_singleton_of_not
          have negated := enclosed.and.not
          rw [List.forall_mem_singleton] at negated
          rw [results_not_ne_nil_iff, ← Decidable.not_not (p := child.results document = [])]
          exact negated
      | concat => exact Bounds.enclose_positional rfl slopPositive enclosed
      | gap => exact Bounds.enclose_positional rfl slopPositive enclosed
      | layerMatch => exact Bounds.enclose_positional rfl slopPositive enclosed

theorem encloseAll_of_reads : ∀ (children : List Grammar) (table : SymbolTable),
    AllWellFormed children → (boundsOfAll children table).2 <+: final →
      final.Reads document assignment (terminalsOfAll children) →
        Bounds.EncloseAll assignment (fun child => child.results document ≠ [])
          children (boundsOfAll children table).1
  | [], _, _, _, _ => trivial
  | child :: rest, table, valid, extended, reads => by
      have grows := isPrefix_boundsOfAll rest (child.bounds table).2
      rw [terminalsOfAll, SymbolTable.Reads, List.forall_mem_append] at reads
      exact ⟨enclose_bounds_of_reads child table valid.1 (grows.trans extended) reads.1,
        encloseAll_of_reads rest (child.bounds table).2 valid.2 extended reads.2⟩

end

theorem enclose_bounds (grammar : Grammar) (table : SymbolTable) (valid : grammar.WellFormed)
    (extended : (grammar.bounds table).2 <+: final) :
    Bounds.Enclose (final.assignment document) (grammar.results document ≠ [])
      (grammar.bounds table).1 :=
  enclose_bounds_of_reads grammar table valid extended
    fun _ _ _ read => SymbolTable.assignment_eq_true_iff read

end Grammar

end Concordance
