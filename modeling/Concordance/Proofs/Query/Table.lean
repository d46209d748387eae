import Concordance.Proofs.Entries
import Concordance.Proofs.Query.Bounds

/-!
The table of a grammar.  Bounds and connectives number the terminals alike: each terminal once, in
the order of first occurrence.
-/

namespace Concordance

namespace SymbolTable

theorem intern_eraseDups (seen : List Terminal) (terminal : Terminal) :
    (intern seen.eraseDups terminal).2 = (seen ++ [terminal]).eraseDups := by
  rw [eraseDups_append_singleton, intern_eq]
  simp only [List.mem_eraseDups]

theorem internAll_eraseDups (seen terminals : List Terminal) :
    internAll seen.eraseDups terminals = (seen ++ terminals).eraseDups := by
  induction terminals generalizing seen with
  | nil => rw [List.append_nil, internAll, List.foldl_nil]
  | cons terminal rest ih =>
      rw [List.append_cons, ← ih (seen ++ [terminal]), ← intern_eraseDups]
      rfl

/-- Once a terminal has its symbol, that symbol is its own and no other's. -/
theorem intern_eq_iff {table later : SymbolTable} {terminal other : Terminal}
    (grown : (table.intern terminal).2 <+: later) :
    (later.intern other).1 = (table.intern terminal).1 ↔ other = terminal := by
  constructor
  · intro same
    have first : (later.intern other).2[(table.intern terminal).1]? = some terminal :=
      getElem?_of_isPrefix (grown.trans isPrefix_intern) getElem?_intern
    have second := @getElem?_intern later other
    rw [same, first] at second
    exact (Option.some.inj second).symm
  · rintro rfl
    obtain ⟨more, rfl⟩ := grown
    have known : other ∈ (table.intern other).2 := mem_intern_iff.mpr (.inr rfl)
    rw [intern_eq, List.idxOf_append_of_mem known, intern_eq]
    dsimp only
    split
    · rfl
    · next fresh => rw [List.idxOf_append_of_notMem fresh, List.idxOf_cons_self,
        List.idxOf_eq_length fresh, Nat.add_zero]

end SymbolTable

namespace Grammar

theorem table_bounds (grammar : Grammar) (seen : List Terminal) :
    (grammar.bounds seen.eraseDups).2 = (seen ++ grammar.terminals).eraseDups := by
  rw [table_eq_internAll, SymbolTable.internAll_eraseDups]

mutual

theorem table_direct : ∀ (grammar : Grammar) (table : SymbolTable),
    (grammar.direct table).2 = (grammar.bounds table).2
  | terminal _, _ => rfl
  | composite _ _ children _ _, table => table_directAll children table

theorem table_directAll : ∀ (children : List Grammar) (table : SymbolTable),
    (directAll children table).2 = (boundsOfAll children table).2
  | [], _ => rfl
  | child :: rest, table =>
      (table_directAll rest (child.direct table).2).trans
        (congrArg (fun met => (boundsOfAll rest met).2) (table_direct child table))

end

theorem isPrefix_directAll (children : List Grammar) (table : SymbolTable) :
    table <+: (directAll children table).2 :=
  table_directAll children table ▸ isPrefix_boundsOfAll children table

end Grammar

end Concordance
