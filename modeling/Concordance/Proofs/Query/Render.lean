import Concordance.Proofs.Expr.Symbols
import Concordance.Proofs.Query.Bounds
import Concordance.Proofs.Query.Evaluate
import Concordance.Query.Compile

/-!
Rendered clauses.  The clause of a terminal is true where the terminal has a match, and the clause
of an expression where the expression is.
-/

namespace Concordance

open Text Pattern

variable {document : Document}

/-! Terminals. -/

namespace Terminal

variable {terminal : Terminal} {location : Location}

private theorem toClause_of_exact {terms : List String} (exact : terminal.matcher = .exact terms) :
    (∃ term, terms = [term] ∧ terminal.toClause =
      .term terminal.layer term terminal.caseSensitive terminal.wholeWord) ∨
    terminal.toClause = .bool (terms.map fun term =>
      .term terminal.layer term terminal.caseSensitive terminal.wholeWord) [] [] (some 1) := by
  rw [toClause, exact]
  match terms with
  | [] => exact .inr rfl
  | [term] => exact .inl ⟨term, rfl, rfl⟩
  | _ :: _ :: _ => exact .inr rfl

theorem truth_toClause (valid : terminal.error? location = none) :
    terminal.toClause.truth document = !(terminal.scanner.results document).isEmpty := by
  cases shape : terminal.matcher with
  | regex pattern =>
      rw [toClause, scanner, shape]
      rfl
  | exact terms =>
      rcases toClause_of_exact shape with ⟨term, rfl, single⟩ | several
      · rw [single, scanner, shape]
        rfl
      · obtain ⟨-, solid⟩ := terms_of_valid valid shape
        have found := @Scanner.results_ofTerms_ne_nil_iff terms terminal.layer document
          terminal.caseSensitive terminal.wholeWord solid
        rw [several, scanner, shape, Clause.truth_should, List.any_map, Bool.eq_iff_iff,
          Bool.not_eq_true', List.isEmpty_eq_false_iff, found, List.any_eq_true]
        simp only [Function.comp, Clause.truth_term, Bool.not_eq_true', List.isEmpty_eq_false_iff]

theorem truth_toClause_of_missing (missing : document.contains (.parse terminal.layer) = false) :
    terminal.toClause.truth document = false := by
  have nothing : ∀ scanner : Scanner, scanner.key = .parse terminal.layer →
      (!(scanner.results document).isEmpty) = false := by
    intro scanner same
    rw [Scanner.results_eq_nil_of_missing (same ▸ missing)]
    rfl
  cases shape : terminal.matcher with
  | regex pattern =>
      rw [toClause, shape]
      exact nothing (.ofCompiled pattern terminal.layer terminal.caseSensitive) rfl
  | exact terms =>
      rcases toClause_of_exact shape with ⟨term, -, single⟩ | several
      · rw [single]
        exact nothing (.ofTerms [term] terminal.layer terminal.caseSensitive terminal.wholeWord) rfl
      · rw [several, Clause.truth_should, List.any_eq_false, List.forall_mem_map]
        intro term _
        rw [Clause.truth_term, nothing _ rfl]
        exact Bool.false_ne_true

theorem compiles_toClause (valid : terminal.error? location = none) :
    terminal.toClause.Compiles := by
  cases shape : terminal.matcher with
  | regex pattern =>
      rw [toClause, shape]
      exact (pattern_of_valid valid shape).2 terminal.caseSensitive
  | exact terms =>
      rcases toClause_of_exact shape with ⟨term, rfl, single⟩ | several
      · rw [single]
        trivial
      · rw [several]
        refine ⟨Clause.allCompile_iff.mpr ?_, trivial, trivial⟩
        rw [List.forall_mem_map]
        exact fun _ _ => trivial

end Terminal

/-! Clauses alone. -/

/-- A query that asks for a clause and for nothing else. -/
def Query.AsksFor (query : Query) (clause : Clause) : Prop :=
  query = { Query.empty with must := [clause] } ∨ query = { Query.empty with should := [clause] }

theorem Query.AsksFor.holds_outcome {query : Query} {clause : Clause} (asks : query.AsksFor clause)
    (compiles : clause.Compiles) (document : Document) :
    (query.holds document).outcome = .ok (clause.truth document) := by
  have all : query.toClause.Compiles := by
    rcases asks with rfl | rfl
    · exact ⟨trivial, ⟨compiles, trivial⟩, trivial⟩
    · exact ⟨⟨compiles, trivial⟩, trivial, trivial⟩
  rw [Query.holds_outcome all, truth, toClause, Clause.truth_bool]
  rcases asks with rfl | rfl
  · simp [empty, effectiveMinimum]
  · simp [empty, effectiveMinimum, Nat.one_le_iff_ne_zero]

/-- A terminal that validation accepts has a matcher, and the matcher finds something in a document
with the layer of the terminal exactly if the clause of the terminal holds. -/
theorem Terminal.holds_toClause {terminal : Terminal}
    (valid : (Grammar.terminal terminal).validate = .ok ())
    (present : document.contains (.parse terminal.layer) = true) :
    ∃ matcher found, Matcher.ofGrammar (.terminal terminal) = .ok matcher ∧
      (matcher.find document).outcome = .ok found ∧
      ∀ query : Query, query.AsksFor terminal.toClause →
        ∃ value, (query.holds document).outcome = .ok value ∧ (value = true ↔ found ≠ []) := by
  have wellFormed := Grammar.validate_eq_ok_iff.mp valid
  have layers : ∀ key ∈ (Grammar.terminal terminal).matcher.keys, document.contains key = true := by
    rw [Grammar.keys_matcher _ wellFormed, Grammar.terminals]
    exact List.forall_mem_singleton.mpr present
  have searched := (Matcher.find_outcome document _).trans (Document.require_eq_ok _ layers)
  refine ⟨_, _, Grammar.ofGrammar_eq_ok wellFormed, searched, ?_⟩
  intro query asks
  refine ⟨_, asks.holds_outcome (compiles_toClause wellFormed) document, ?_⟩
  rw [truth_toClause wellFormed, Bool.not_eq_true', List.isEmpty_eq_false_iff,
    ← Grammar.results_terminal, Grammar.results]

/-! Terms that overlap each other, the longest of them glued to a character before it. -/

def Terminal.overlapping : Terminal :=
  ⟨"", "mlp.lemmas", .exact ["b", "ab c", "c d"], true, false⟩

def Document.glued : Document :=
  Document.empty.insertPath "mlp.lemmas" "xab c\u3000d"

theorem Terminal.holds_toClause_glued :
    (Grammar.terminal .overlapping).validate = .ok () ∧
      Document.glued.contains (.parse "mlp.lemmas") = true ∧
      ∃ matcher found, Matcher.ofGrammar (.terminal .overlapping) = .ok matcher ∧
        (matcher.find .glued).outcome = .ok found ∧ found ≠ [] ∧
        (Query.holds { Query.empty with should := [Terminal.overlapping.toClause] }
          .glued).outcome = .ok true := by
  have valid : (Grammar.terminal .overlapping).validate = .ok () := rfl
  have present : Document.glued.contains (.parse "mlp.lemmas") = true := rfl
  obtain ⟨matcher, found, built, searched, holds⟩ := holds_toClause valid present
  obtain ⟨value, evaluated, asked⟩ := holds _ (.inr rfl)
  have computed : (Query.holds { Query.empty with should := [Terminal.overlapping.toClause] }
      .glued).outcome.toOption = some true := by decide +kernel
  rw [evaluated] at computed
  obtain rfl := Option.some.inj computed
  exact ⟨valid, present, matcher, found, built, searched, asked.mp rfl, evaluated⟩

/-! Symbols. -/

namespace SymbolTable

def Valid (table : SymbolTable) : Prop :=
  ∀ terminal ∈ table, terminal.error? .root = none

variable {table : SymbolTable}

theorem clause_eq {id : Nat} {terminal : Terminal} (read : table[id]? = some terminal) :
    table.clause id = terminal.toClause := by
  rw [clause, read]

theorem truth_clause (valid : table.Valid) (id : Nat) :
    (table.clause id).truth document = table.assignment document id := by
  rw [clause, assignment]
  cases read : table[id]? with
  | none => rfl
  | some terminal => exact Terminal.truth_toClause (valid terminal (List.mem_of_getElem? read))

theorem compiles_clause (valid : table.Valid) (id : Nat) : (table.clause id).Compiles := by
  rw [clause]
  cases read : table[id]? with
  | none => trivial
  | some terminal => exact Terminal.compiles_toClause (valid terminal (List.mem_of_getElem? read))

end SymbolTable

namespace Grammar

mutual

theorem valid_terminals : ∀ grammar : Grammar, grammar.WellFormed →
    ∀ t ∈ grammar.terminals, t.error? .root = none
  | terminal own, valid => by
      rw [terminals, List.forall_mem_singleton]
      exact valid
  | composite name operation children slop matchFirst, valid => by
      rw [terminals]
      exact valid_terminalsOfAll children valid.2

theorem valid_terminalsOfAll : ∀ children : List Grammar, AllWellFormed children →
    ∀ t ∈ terminalsOfAll children, t.error? .root = none
  | [], _ => nofun
  | child :: rest, valid => by
      rw [terminalsOfAll, List.forall_mem_append]
      exact ⟨valid_terminals child valid.1, valid_terminalsOfAll rest valid.2⟩

end

theorem valid_bounds {grammar : Grammar} (valid : grammar.WellFormed) :
    (grammar.bounds []).2.Valid := by
  intro t member
  rcases mem_bounds_iff.mp member with member | member
  · cases member
  · exact valid_terminals grammar valid t member

end Grammar

/-! Expressions. -/

namespace Expr

variable {table : SymbolTable}

mutual

/-- A rendered clause is true where its expression is, each symbol being as true as its clause. -/
theorem truth_toClause_eq_eval : ∀ expr : Expr,
    (expr.toClause table).truth document = expr.eval fun id => (table.clause id).truth document
  | const true => rfl
  | const false => rfl
  | symbol _ => rfl
  | not inner => by
      rw [toClause, eval, ← truth_toClause_eq_eval inner, Clause.truth_mustNot]
  | and children => by
      rw [toClause, eval, ← all_toClauses children, Clause.truth_must]
  | or children => by
      rw [toClause, eval, ← any_toClauses children, Clause.truth_should]

theorem all_toClauses : ∀ children : List Expr,
    (toClauses table children).all (Clause.truth document) =
      evalAll (fun id => (table.clause id).truth document) children
  | [] => rfl
  | child :: rest => by
      rw [toClauses, List.all_cons, evalAll, truth_toClause_eq_eval child, all_toClauses rest]

theorem any_toClauses : ∀ children : List Expr,
    (toClauses table children).any (Clause.truth document) =
      evalAny (fun id => (table.clause id).truth document) children
  | [] => rfl
  | child :: rest => by
      rw [toClauses, List.any_cons, evalAny, truth_toClause_eq_eval child, any_toClauses rest]

end

/-- Rendering keeps the truth of an expression. -/
theorem truth_toClause (valid : table.Valid) (expr : Expr) :
    (expr.toClause table).truth document = expr.eval (table.assignment document) := by
  have reads : (fun id => (table.clause id).truth document) = table.assignment document :=
    funext (SymbolTable.truth_clause valid)
  rw [truth_toClause_eq_eval, reads]

mutual

theorem compiles_toClause_iff : ∀ {polarity : Bool} (expr : Expr),
    (expr.toClause table).Compiles ↔
      ∀ id ∈ expr.collect none polarity [], (table.clause id).Compiles
  | _, const true => iff_of_true trivial nofun
  | _, const false => iff_of_true trivial nofun
  | _, symbol id => by
      show (table.clause id).Compiles ↔ ∀ other ∈ [id], (table.clause other).Compiles
      rw [List.forall_mem_singleton]
  | _, not inner => by
      rw [toClause, Clause.Compiles, Clause.AllCompile, Clause.AllCompile, collect,
        ← compiles_toClause_iff inner]
      simp [Clause.AllCompile]
  | _, and children => by
      rw [toClause, Clause.Compiles, collect, forall_mem_collectAll_iff,
        ← allCompile_toClauses_iff children]
      simp [Clause.AllCompile]
  | _, or children => by
      rw [toClause, Clause.Compiles, collect, forall_mem_collectAll_iff,
        ← allCompile_toClauses_iff children]
      simp [Clause.AllCompile]

theorem allCompile_toClauses_iff : ∀ {polarity : Bool} (children : List Expr),
    Clause.AllCompile (toClauses table children) ↔
      ∀ child ∈ children, ∀ id ∈ child.collect none polarity [], (table.clause id).Compiles
  | _, [] => iff_of_true trivial nofun
  | _, child :: rest => by
      rw [toClauses, Clause.AllCompile, List.forall_mem_cons, ← compiles_toClause_iff child,
        ← allCompile_toClauses_iff rest]

end

theorem compiles_toClause (valid : table.Valid) (expr : Expr) : (expr.toClause table).Compiles := by
  have used : _ ↔ ∀ id ∈ expr.symbols, (table.clause id).Compiles := compiles_toClause_iff expr
  exact used.mpr fun id _ => SymbolTable.compiles_clause valid id

/-- Rendering keeps what an expression comes to.  Read the symbols of an expression as what the
clauses of their terminals evaluate to: then the rendered clause can be evaluated, and its value is
that of the expression.  There is a value exactly if the clause of each symbol has one, as that of a
valid terminal always does; and the clause of a terminal whose layer is missing is false. -/
theorem toClause_evaluates {expr : Expr} (known : ∀ id ∈ expr.symbols, id < table.length)
    (document : Document) :
    (∀ assignment : Nat → Bool,
      (∀ id ∈ expr.symbols, ∃ terminal, table[id]? = some terminal ∧
        terminal.toClause.Evaluates document (assignment id)) →
      ∀ value, (expr.toClause table).Evaluates document value ↔ expr.eval assignment = value) ∧
    ((∃ value, (expr.toClause table).Evaluates document value) ↔
      ∀ id ∈ expr.symbols, ∃ terminal value, table[id]? = some terminal ∧
        terminal.toClause.Evaluates document value) ∧
    (table.Valid → ∀ terminal ∈ table, ∃ value, terminal.toClause.Evaluates document value) ∧
    ∀ terminal ∈ table, document.contains (.parse terminal.layer) = false →
      ∀ value, terminal.toClause.Evaluates document value → value = false := by
  have used : _ ↔ ∀ id ∈ expr.symbols, (table.clause id).Compiles := compiles_toClause_iff expr
  refine ⟨?_, ?_, ?_, ?_⟩
  · intro assignment reads value
    have read : ∀ id ∈ expr.symbols, (table.clause id).Evaluates document (assignment id) := by
      intro id member
      obtain ⟨terminal, found, evaluates⟩ := reads id member
      rw [SymbolTable.clause_eq found]
      exact evaluates
    have compiles := used.mpr fun id member => (Clause.evaluates_iff.mp (read id member)).1
    have sameValue : (expr.eval fun id => (table.clause id).truth document) =
        expr.eval assignment :=
      eval_congr expr fun id (member : id ∈ expr.symbols) =>
        (Clause.evaluates_iff.mp (read id member)).2
    rw [Clause.evaluates_iff, and_iff_right compiles, truth_toClause_eq_eval, sameValue]
  · rw [Clause.exists_evaluates_iff, used]
    refine forall₂_congr fun id member => ?_
    have found := List.getElem?_eq_getElem (known id member)
    rw [SymbolTable.clause_eq found, found, ← @Clause.exists_evaluates_iff document]
    simp
  · intro valid terminal member
    exact Clause.exists_evaluates_iff.mpr (Terminal.compiles_toClause (valid terminal member))
  · intro terminal _ missing value evaluates
    rw [← (Clause.evaluates_iff.mp evaluates).2, Terminal.truth_toClause_of_missing missing]

/-! A symbol that is found, and one whose layer is missing, below a negation and beside empty
junctions. -/

def untagged : Expr :=
  and [symbol 0, not (or [and [symbol 1, or []], symbol 1]), and []]

def overlappingAndTag : SymbolTable :=
  [.overlapping, ⟨"adjective", "mlp.tags", .regex "^ADJ", true, false⟩]

theorem toClause_evaluates_untagged :
    (∀ id ∈ untagged.symbols, id < overlappingAndTag.length) ∧
      Document.glued.contains (.parse "mlp.tags") = false ∧
      (untagged.toClause overlappingAndTag).Evaluates .glued true := by
  have known : ∀ id ∈ untagged.symbols, id < overlappingAndTag.length := by decide
  have valid : overlappingAndTag.Valid := by
    rw [SymbolTable.Valid, overlappingAndTag, List.forall_mem_cons, List.forall_mem_singleton]
    exact ⟨rfl, rfl⟩
  obtain ⟨sameValue, -, evaluated, missing⟩ := toClause_evaluates known .glued
  refine ⟨known, rfl, (sameValue (fun id => id == 0) ?_ true).mpr rfl⟩
  show ∀ id ∈ [0, 1], _
  rw [List.forall_mem_cons, List.forall_mem_singleton]
  constructor
  · refine ⟨.overlapping, rfl, Clause.evaluates_iff.mpr ⟨?_, by decide +kernel⟩⟩
    exact Terminal.compiles_toClause (valid _ List.mem_cons_self)
  · have member : _ ∈ overlappingAndTag := List.mem_cons_of_mem _ (List.mem_singleton_self _)
    obtain ⟨value, evaluates⟩ := evaluated valid _ member
    obtain rfl := missing _ member rfl value evaluates
    exact ⟨_, rfl, evaluates⟩

end Expr

end Concordance
