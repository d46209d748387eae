import Concordance.Proofs.Expr.Support
import Concordance.Proofs.Query.Render

/-!
Compiled queries.  Compiling well-formed grammars never fails, and what it gives does not depend on
the account of it.  The inclusive branch is true wherever its grammar has a match, and the exclusive
branch only where its grammar has one.
-/

namespace Concordance

namespace CompilerOptions

/-! What compiling gives. -/

/-- The threshold of a simplified expression that is no constant. -/
def minimumOf (options : CompilerOptions) (expr : Expr) : Nat :=
  match options.threshold with
  | .terminalCount => expr.positiveSymbols.length
  | .requiredTerminals =>
    (expr.minPositiveSupport? options.termLimit).getD expr.positiveLowerBound

def queryOf (options : CompilerOptions) (expr : Expr) (table : SymbolTable) : Query :=
  match expr.const? with
  | some value => if value then .matchAll else .matchNone
  | none =>
    if options.minimumOf expr = 0 then .matchAll
    else ⟨expr.positiveSymbols.map table.clause, [], [], some (options.minimumOf expr)⟩

def inclusiveQuery (options : CompilerOptions) (grammar : Grammar) : Query :=
  options.queryOf (options.inclusiveExpr grammar).1 (options.inclusiveExpr grammar).2

def exclusiveClauses (options : CompilerOptions) (grammar : Grammar) : List Clause :=
  match options.threshold with
  | .requiredTerminals =>
    let expr := (grammar.bounds []).1.lower.simplify
    if expr.const? = some false then [] else [expr.toClause (grammar.bounds []).2]
  | .terminalCount =>
    let expr := (grammar.direct []).1.simplify
    let clauses := expr.positiveSymbols.map (grammar.direct []).2.clause
    if expr.const? = some true then .matchAll :: clauses else clauses

def query (options : CompilerOptions) (inclusive exclusive : Option Grammar) : Query :=
  { inclusive.elim .empty options.inclusiveQuery with
    mustNot := exclusive.elim [] options.exclusiveClauses }

variable {options : CompilerOptions}

theorem minimum_outcome (expr : Expr) :
    (options.minimum expr).outcome = .ok (options.minimumOf expr) := by
  rw [minimum, minimumOf]
  cases options.threshold with
  | terminalCount => rfl
  | requiredTerminals =>
      cases expr.minPositiveSupport? options.termLimit with
      | some minimum => rfl
      | none => rfl

theorem compileInclusive_outcome (grammar : Grammar) :
    (options.compileInclusive grammar).outcome = .ok (options.inclusiveQuery grammar) := by
  rw [compileInclusive, inclusiveQuery, queryOf]
  generalize options.inclusiveExpr grammar = compiled
  obtain ⟨expr, table⟩ := compiled
  dsimp only
  cases expr.const? with
  | some value => rfl
  | none =>
      dsimp only
      rw [Traced.outcome_bind, minimum_outcome, ok_bind, Traced.outcome_bind, Traced.outcome_report,
        ok_bind]
      split
      · rfl
      · rfl

theorem compileExclusive_outcome (grammar : Grammar) :
    (options.compileExclusive grammar).outcome = .ok (options.exclusiveClauses grammar) := by
  rw [compileExclusive, exclusiveClauses]
  cases options.threshold with
  | requiredTerminals =>
      dsimp only
      rw [Traced.outcome_bind, Traced.outcome_report, ok_bind]
      split
      · rfl
      · rfl
  | terminalCount =>
      dsimp only
      split
      · rfl
      · rfl

theorem check_outcome (grammar : Grammar) : (check grammar).outcome = grammar.validate := by
  have reported (names : List String) :
      (names.forM fun name => (Traced.report (.ambiguousName name) : Traced Error Unit)).outcome =
        .ok () := by
    induction names with
    | nil => rfl
    | cons name rest ih => exact ih
  rw [check, Traced.outcome_bind, Traced.outcome_liftM]
  cases grammar.validate with
  | error error => rfl
  | ok valid => exact reported _

private theorem forM_check_outcome (grammar : Option Grammar) :
    (grammar.forM check).outcome = grammar.forM Grammar.validate := by
  cases grammar with
  | none => rfl
  | some node => exact check_outcome node

private theorem forM_validate {grammar : Option Grammar}
    (valid : ∀ node ∈ grammar, node.WellFormed) : grammar.forM Grammar.validate = .ok () := by
  cases grammar with
  | none => rfl
  | some node => exact Grammar.validate_eq_ok_iff.mpr (valid node rfl)

theorem mustNot_inclusiveQuery (grammar : Grammar) :
    (options.inclusiveQuery grammar).mustNot = [] := by
  rw [inclusiveQuery, queryOf]
  split
  · split <;> rfl
  · split <;> rfl

private theorem addExclusive_outcome (exclusive : Option Grammar) {query : Query}
    (free : query.mustNot = []) :
    (match exclusive with
      | some grammar => do
        let clauses ← options.compileExclusive grammar
        pure { query with mustNot := clauses }
      | none => pure query : Traced Error Query).outcome =
        .ok { query with mustNot := exclusive.elim [] options.exclusiveClauses } := by
  cases exclusive with
  | none =>
      cases query
      subst free
      rfl
  | some grammar =>
      dsimp only
      rw [Traced.outcome_bind, compileExclusive_outcome]
      rfl

/-- Nothing but an ill-formed grammar keeps a query from being compiled. -/
theorem compile_outcome_eq_validate (inclusive exclusive : Option Grammar) :
    (options.compile inclusive exclusive).outcome = (do
      inclusive.forM Grammar.validate
      exclusive.forM Grammar.validate
      return options.query inclusive exclusive) := by
  rw [compile, Traced.outcome_bind, forM_check_outcome]
  congr 1
  funext _
  rw [Traced.outcome_bind, forM_check_outcome]
  congr 1
  funext _
  rw [query]
  cases inclusive with
  | none => exact @addExclusive_outcome options exclusive Query.empty rfl
  | some grammar =>
      dsimp only
      rw [Traced.outcome_bind, compileInclusive_outcome, ok_bind]
      exact addExclusive_outcome exclusive (mustNot_inclusiveQuery grammar)

theorem compile_outcome {inclusive exclusive : Option Grammar}
    (inclusiveValid : ∀ grammar ∈ inclusive, grammar.WellFormed)
    (exclusiveValid : ∀ grammar ∈ exclusive, grammar.WellFormed) :
    (options.compile inclusive exclusive).outcome = .ok (options.query inclusive exclusive) := by
  rw [compile_outcome_eq_validate, forM_validate inclusiveValid, forM_validate exclusiveValid]
  rfl

/-! The truth of compiled queries. -/

variable {document : Document}

/-- The two branches are evaluated apart. -/
theorem truth_query (inclusive exclusive : Option Grammar) :
    (options.query inclusive exclusive).truth document =
      ((inclusive.elim Query.empty options.inclusiveQuery).truth document &&
        !(exclusive.elim [] options.exclusiveClauses).any (Clause.truth document)) := by
  have free : (inclusive.elim Query.empty options.inclusiveQuery).mustNot = [] := by
    cases inclusive with
    | none => rfl
    | some grammar => exact mustNot_inclusiveQuery grammar
  rw [query, Query.truth, Query.toClause, Clause.truth_bool, Query.truth, Query.toClause,
    Clause.truth_bool, free, List.any_nil, Bool.not_false, Bool.and_true, Bool.and_right_comm]

theorem truth_queryOf {expr : Expr} {table : SymbolTable} (valid : table.Valid)
    (required : options.threshold = .requiredTerminals)
    (holds : expr.eval (table.assignment document) = true) :
    (options.queryOf expr table).truth document = true := by
  have enough :
      options.minimumOf expr ≤ expr.positiveSymbols.countP (table.assignment document) := by
    rw [minimumOf, required]
    dsimp only
    cases support : expr.minPositiveSupport? options.termLimit with
    | some minimum => exact Expr.minPositiveSupport?_le support holds
    | none => exact Expr.positiveLowerBound_le expr holds
  have counted : (expr.positiveSymbols.map table.clause).countP (Clause.truth document) =
      expr.positiveSymbols.countP (table.assignment document) := by
    rw [List.countP_map]
    congr 1
    funext id
    exact SymbolTable.truth_clause valid id
  rw [queryOf]
  cases constant : expr.const? with
  | some value =>
      rw [Expr.eval_const?_eq_some constant] at holds
      subst holds
      rfl
  | none =>
      dsimp only
      split
      · rfl
      · rw [Query.truth, Query.toClause, Clause.truth_bool, counted]
        exact decide_eq_true enough

theorem compiles_queryOf {expr : Expr} {table : SymbolTable} (valid : table.Valid) :
    (options.queryOf expr table).toClause.Compiles := by
  rw [queryOf]
  cases expr.const? with
  | some value =>
      cases value with
      | true => exact ⟨trivial, ⟨trivial, trivial⟩, trivial⟩
      | false => exact ⟨trivial, ⟨trivial, trivial⟩, trivial⟩
  | none =>
      dsimp only
      split
      · exact ⟨trivial, ⟨trivial, trivial⟩, trivial⟩
      · refine ⟨Clause.allCompile_iff.mpr ?_, trivial, trivial⟩
        rw [List.forall_mem_map]
        exact fun id _ => SymbolTable.compiles_clause valid id

/-- The exclusive branch says no exactly where the lower bound of its grammar holds. -/
theorem any_exclusiveClauses {grammar : Grammar} (valid : grammar.WellFormed)
    (required : options.threshold = .requiredTerminals) :
    (options.exclusiveClauses grammar).any (Clause.truth document) =
      (grammar.bounds []).1.lower.eval ((grammar.bounds []).2.assignment document) := by
  have simplified : (grammar.bounds []).1.lower.simplify.eval
      ((grammar.bounds []).2.assignment document) =
        (grammar.bounds []).1.lower.eval ((grammar.bounds []).2.assignment document) := by
    rw [Expr.simplify, Expr.eval_simplifyWithin, Expr.eval_toNnf]
  rw [exclusiveClauses, required, ← simplified]
  dsimp only
  split
  · next constant =>
    exact (Expr.eval_const?_eq_some constant).symm
  · rw [List.any_cons, List.any_nil, Bool.or_false,
      Expr.truth_toClause (Grammar.valid_bounds valid)]

theorem compiles_exclusiveClauses {grammar : Grammar} (valid : grammar.WellFormed)
    (required : options.threshold = .requiredTerminals) :
    Clause.AllCompile (options.exclusiveClauses grammar) := by
  rw [exclusiveClauses, required]
  dsimp only
  split
  · trivial
  · exact ⟨Expr.compiles_toClause (Grammar.valid_bounds valid) _, trivial⟩

theorem compiles_query {inclusive exclusive : Option Grammar}
    (required : options.threshold = .requiredTerminals)
    (inclusiveValid : ∀ grammar ∈ inclusive, grammar.WellFormed)
    (exclusiveValid : ∀ grammar ∈ exclusive, grammar.WellFormed) :
    (options.query inclusive exclusive).toClause.Compiles := by
  have wanted : (inclusive.elim Query.empty options.inclusiveQuery).toClause.Compiles := by
    cases inclusive with
    | none => exact ⟨trivial, trivial, trivial⟩
    | some grammar =>
        rw [Option.elim_some, inclusiveQuery, inclusiveExpr, required]
        exact compiles_queryOf (Grammar.valid_bounds (inclusiveValid grammar rfl))
  have unwanted : Clause.AllCompile (exclusive.elim [] options.exclusiveClauses) := by
    cases exclusive with
    | none => trivial
    | some grammar => exact compiles_exclusiveClauses (exclusiveValid grammar rfl) required
  exact ⟨wanted.1, wanted.2.1, unwanted⟩

theorem truth_inclusiveQuery {grammar : Grammar} (valid : grammar.WellFormed)
    (required : options.threshold = .requiredTerminals) (found : grammar.results document ≠ []) :
    (options.inclusiveQuery grammar).truth document = true := by
  rw [inclusiveQuery, inclusiveExpr, required]
  apply truth_queryOf (Grammar.valid_bounds valid) required
  dsimp only
  rw [Expr.simplify, Expr.eval_simplifyWithin, Expr.eval_toNnf]
  exact (Grammar.enclose_bounds grammar [] valid (List.prefix_refl _)).upper found

theorem any_exclusiveClauses_eq_false {grammar : Grammar} (valid : grammar.WellFormed)
    (required : options.threshold = .requiredTerminals) (missing : grammar.results document = []) :
    (options.exclusiveClauses grammar).any (Clause.truth document) = false := by
  rw [any_exclusiveClauses valid required, Bool.eq_false_iff]
  intro holds
  exact (Grammar.enclose_bounds grammar [] valid (List.prefix_refl _)).lower holds missing

/-- No document that the one grammar matches and the other does not is lost. -/
theorem truth_query_of_results {inclusive exclusive : Option Grammar}
    (required : options.threshold = .requiredTerminals)
    (inclusiveValid : ∀ grammar ∈ inclusive, grammar.WellFormed)
    (exclusiveValid : ∀ grammar ∈ exclusive, grammar.WellFormed)
    (found : ∀ grammar ∈ inclusive, grammar.results document ≠ [])
    (missing : ∀ grammar ∈ exclusive, grammar.results document = []) :
    (options.query inclusive exclusive).truth document = true := by
  rw [truth_query, Bool.and_eq_true_iff, Bool.not_eq_true']
  constructor
  · cases inclusive with
    | none => rfl
    | some grammar =>
        exact truth_inclusiveQuery (inclusiveValid grammar rfl) required (found grammar rfl)
  · cases exclusive with
    | none => rfl
    | some grammar =>
        exact any_exclusiveClauses_eq_false (exclusiveValid grammar rfl) required
          (missing grammar rfl)

end CompilerOptions

end Concordance
