import Concordance.Proofs.Expr.Thresholds
import Concordance.Proofs.Query.Compile
import Concordance.Proofs.Query.Direct
import Mathlib.Data.List.Permutation

/-!
The shape of inclusive queries.  A query is constant, or it asks for one or more of the clauses of
different terminals, in the order in which these first occur, and never for more than there are.
-/

namespace Concordance

open Concordance.Expr

/-! Thresholds. -/

namespace CompilerOptions

variable {options : CompilerOptions}

/-- The threshold can be met: there are enough symbols. -/
theorem minimumOf_le_length (expr : Expr) :
    options.minimumOf expr ≤ expr.positiveSymbols.length := by
  rw [minimumOf]
  cases options.threshold with
  | terminalCount => exact Nat.le_refl _
  | requiredTerminals =>
      dsimp only
      cases supported : expr.minPositiveSupport? options.termLimit with
      | some minimum => exact minPositiveSupport?_le_length supported
      | none => exact positiveLowerBound_le_length expr

end CompilerOptions

/-! Terminals that are rendered. -/

namespace SymbolTable

variable {table : SymbolTable} {ids : List Nat}

theorem map_clause (read : ∀ id ∈ ids, ∃ t, table[id]? = some t) :
    ids.map table.clause = (ids.filterMap fun id => table[id]?).map Terminal.toClause := by
  induction ids with
  | nil => rfl
  | cons id rest ih =>
      rw [List.forall_mem_cons] at read
      obtain ⟨⟨t, known⟩, others⟩ := read
      rw [List.map_cons, List.filterMap_cons_some known, List.map_cons, ih others, clause, known]

theorem pairwise_filterMap {related : Terminal → Terminal → Prop} (pairwise : table.Pairwise related)
    (increasing : ids.Pairwise (· < ·)) :
    (ids.filterMap fun id => table[id]?).Pairwise related := by
  refine increasing.filterMap _ ?_
  intro first second before firstTerminal firstRead secondTerminal secondRead
  obtain ⟨firstWithin, rfl⟩ := List.getElem?_eq_some_iff.mp firstRead
  obtain ⟨secondWithin, rfl⟩ := List.getElem?_eq_some_iff.mp secondRead
  exact List.pairwise_iff_getElem.mp pairwise first second firstWithin secondWithin before

end SymbolTable

namespace CompilerOptions

variable {options : CompilerOptions} {grammar : Grammar}

theorem table_inclusiveExpr (options : CompilerOptions) (grammar : Grammar) :
    (options.inclusiveExpr grammar).2 = grammar.terminals.eraseDups := by
  have table : (grammar.bounds []).2 = grammar.terminals.eraseDups := grammar.table_bounds []
  obtain ⟨threshold, limit⟩ := options
  cases threshold with
  | requiredTerminals => exact table
  | terminalCount => exact (grammar.table_direct []).trans table

theorem exists_terminal_of_mem_inclusiveExpr {id : Nat}
    (member : id ∈ (options.inclusiveExpr grammar).1.positiveSymbols) :
    ∃ t ∈ grammar.terminalsAt true, grammar.terminals.eraseDups[id]? = some t := by
  have direct : id ∈ (grammar.direct []).1.collect (some true) true [] := by
    obtain ⟨threshold, limit⟩ := options
    cases threshold with
    | requiredTerminals =>
        have upper : id ∈ ((grammar.bounds []).1.side true).collect (some true) true [] :=
          collect_simplify_subset _ _ _ member
        exact Grammar.mem_collect_direct_of_side grammar [] upper
    | terminalCount => exact collect_simplify_subset _ _ _ member
  have table : (grammar.direct []).2 = grammar.terminals.eraseDups :=
    (grammar.table_direct []).trans (grammar.table_bounds [])
  exact Grammar.exists_terminal_of_mem_direct grammar [] (table ▸ List.prefix_refl _) direct

/-- An inclusive grammar alone gives the query of its branch. -/
theorem compile_inclusive_outcome (valid : grammar.WellFormed) :
    (options.compile (some grammar) none).outcome = .ok (options.inclusiveQuery grammar) := by
  have given : ∀ node ∈ some grammar, node.WellFormed := by simpa using valid
  have absent : ∀ node ∈ (none : Option Grammar), node.WellFormed := nofun
  have free : ([] : List Clause) = (options.inclusiveQuery grammar).mustNot :=
    (mustNot_inclusiveQuery grammar).symm
  rw [compile_outcome given absent, query, Option.elim_some, Option.elim_none, free]

/-- The terminals whose clauses a query that is not constant asks for. -/
def chosenTerminals (options : CompilerOptions) (grammar : Grammar) : List Terminal :=
  (options.inclusiveExpr grammar).1.positiveSymbols.filterMap fun id =>
    grammar.terminals.eraseDups[id]?

theorem map_clause_inclusiveExpr (options : CompilerOptions) (grammar : Grammar) :
    (options.inclusiveExpr grammar).1.positiveSymbols.map (options.inclusiveExpr grammar).2.clause =
      (options.chosenTerminals grammar).map Terminal.toClause := by
  rw [table_inclusiveExpr]
  apply SymbolTable.map_clause
  intro id member
  obtain ⟨t, -, read⟩ := exists_terminal_of_mem_inclusiveExpr member
  exact ⟨t, read⟩

theorem chosenTerminals_subset : options.chosenTerminals grammar ⊆ grammar.terminalsAt true := by
  intro t chosen
  obtain ⟨id, member, read⟩ := List.mem_filterMap.mp chosen
  obtain ⟨same, inside, read'⟩ := exists_terminal_of_mem_inclusiveExpr member
  obtain rfl := Option.some.inj (read.symm.trans read')
  exact inside

theorem pairwise_chosenTerminals :
    (options.chosenTerminals grammar).Pairwise fun first second =>
      grammar.terminals.idxOf first < grammar.terminals.idxOf second :=
  SymbolTable.pairwise_filterMap (pairwise_idxOf_eraseDups grammar.terminals)
    (sorted_collect _ .nil)

theorem nodup_chosenTerminals : (options.chosenTerminals grammar).Nodup := by
  apply pairwise_chosenTerminals.imp
  intro first second before same
  rw [same] at before
  exact Nat.lt_irrefl _ before

/-- Whatever its threshold and its limit, the query of an inclusive grammar excludes nothing.  It is
one of the two constant queries, or it asks for clauses of different terminals of the grammar, in
the order in which these first occur: for one of them at least, and for no more than there are. -/
theorem compile_inclusive_shape {grammar : Grammar} (valid : grammar.validate = .ok ())
    (options : CompilerOptions) :
    ∃ query, (options.compile (some grammar) none).outcome = .ok query ∧ query.mustNot = [] ∧
      ((query.should = [] ∧ query.must = [.matchAll] ∧ query.minimumShouldMatch = none) ∨
        (query.should = [] ∧ query.must = [.matchNone] ∧ query.minimumShouldMatch = none) ∨
        ∃ (chosen : List Terminal) (minimum : Nat),
          query.should = chosen.map Terminal.toClause ∧ query.must = [] ∧
          query.minimumShouldMatch = some minimum ∧
          1 ≤ minimum ∧ minimum ≤ query.should.length ∧
          chosen.Nodup ∧ chosen ⊆ grammar.terminals ∧
          chosen.Pairwise fun first second =>
            grammar.terminals.idxOf first < grammar.terminals.idxOf second) := by
  have wellFormed := Grammar.validate_eq_ok_iff.mp valid
  refine ⟨_, compile_inclusive_outcome wellFormed, mustNot_inclusiveQuery grammar, ?_⟩
  rw [inclusiveQuery, queryOf]
  cases (options.inclusiveExpr grammar).1.const? with
  | some value =>
      cases value with
      | true => exact .inl ⟨rfl, rfl, rfl⟩
      | false => exact .inr (.inl ⟨rfl, rfl, rfl⟩)
  | none =>
      dsimp only
      split
      · exact .inl ⟨rfl, rfl, rfl⟩
      · next positive =>
        refine .inr (.inr ⟨options.chosenTerminals grammar, _, ?_, rfl, rfl,
          Nat.one_le_iff_ne_zero.mpr positive, ?_, nodup_chosenTerminals, ?_,
          pairwise_chosenTerminals⟩)
        · exact map_clause_inclusiveExpr options grammar
        · rw [List.length_map]
          exact minimumOf_le_length _
        · exact List.Subset.trans chosenTerminals_subset (Grammar.terminalsAt_subset grammar)

end CompilerOptions

/-! A coloured hen and no fox: of four terminals three are rendered, and two of these are needed. -/

def Grammar.word (text : String) : Grammar :=
  terminal ⟨text, "text", .exact [text], true, true⟩

def Grammar.henWithoutFox : Grammar :=
  combine .intersect
    [combine .not [combine .concat [word "fox"]],
      gap none [combine .union [word "red", word "grey"], word "hen"], word "hen"]

def Query.ofHenWithoutFox : Query :=
  ⟨["red", "grey", "hen"].map fun word => .term "text" word true true, [], [], some 2⟩

theorem CompilerOptions.compile_inclusive_shape_henWithoutFox :
    Grammar.henWithoutFox.validate = .ok () ∧
      (({} : CompilerOptions).compile (some .henWithoutFox) none).outcome = .ok .ofHenWithoutFox ∧
      ∃ (chosen : List Terminal) (minimum : Nat),
        Query.ofHenWithoutFox.should = chosen.map Terminal.toClause ∧
        Query.ofHenWithoutFox.minimumShouldMatch = some minimum ∧
        1 ≤ minimum ∧ minimum ≤ Query.ofHenWithoutFox.should.length ∧
        chosen.Nodup ∧ chosen ⊆ Grammar.henWithoutFox.terminals ∧
        chosen.Pairwise fun first second =>
          Grammar.henWithoutFox.terminals.idxOf first <
            Grammar.henWithoutFox.terminals.idxOf second := by
  have valid : Grammar.henWithoutFox.validate = .ok () := rfl
  have compiled : (({} : CompilerOptions).compile (some .henWithoutFox) none).outcome =
      .ok .ofHenWithoutFox := by cbv
  obtain ⟨query, same, -, shape⟩ := compile_inclusive_shape valid {}
  obtain rfl := Except.ok.inj (same.symm.trans compiled)
  rcases shape with ⟨none, -⟩ | ⟨none, -⟩ | ⟨chosen, minimum, clauses, -, asked, some, enough, nodup,
    subset, ordered⟩
  · cases none
  · cases none
  · exact ⟨valid, compiled, chosen, minimum, clauses, asked, some, enough, nodup, subset, ordered⟩

end Concordance
