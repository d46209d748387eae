import Concordance.Grammar.Validation
import Concordance.Query.Basic
import Concordance.Query.Bounds
import Concordance.Traced

/-!
Compiling grammars to queries.  An inclusive grammar is rendered from its upper bound and an
exclusive one from its lower bound, so that the query holds for every document that matches the one
and not the other.
-/

namespace Concordance

/-- How the threshold of the inclusive branch is chosen. -/
inductive Threshold where
  /-- The least number of different terminals in a matching document. -/
  | requiredTerminals
  /-- All terminals rendered; operations are taken as connectives, and both branches are flat. -/
  | terminalCount
deriving DecidableEq, Repr

structure CompilerOptions where
  threshold : Threshold := .requiredTerminals
  /-- The largest expansion tried when required terminals are counted. -/
  termLimit : Nat := 256
deriving DecidableEq, Repr

namespace Threshold

def name : Threshold → String
  | requiredTerminals => "required_terminals"
  | terminalCount => "terminal_count"

end Threshold

def Terminal.toClause (terminal : Terminal) : Clause :=
  match terminal.matcher with
  | .exact terms =>
    let clauses := terms.map fun term =>
      .term terminal.layer term terminal.caseSensitive terminal.wholeWord
    match clauses with
    | [clause] => clause
    | _ => .bool clauses [] [] (some 1)
  | .regex pattern => .regexp terminal.layer pattern terminal.caseSensitive

namespace SymbolTable

/-- The clause of a symbol; a symbol of no terminal never holds. -/
def clause (table : SymbolTable) (id : Nat) : Clause :=
  match table[id]? with
  | some terminal => terminal.toClause
  | none => .matchNone

end SymbolTable

namespace Expr

mutual

def toClause (table : SymbolTable) : Expr → Clause
  | const true => .matchAll
  | const false => .matchNone
  | symbol id => table.clause id
  | not inner => .bool [] [] [inner.toClause table] none
  | and children => .bool [] (toClauses table children) [] none
  | or children => .bool (toClauses table children) [] [] (some 1)

def toClauses (table : SymbolTable) : List Expr → List Clause
  | [] => []
  | child :: rest => child.toClause table :: toClauses table rest

end

end Expr

namespace CompilerOptions

def minimum (options : CompilerOptions) (expr : Expr) : Traced Error Nat :=
  match options.threshold with
  | .terminalCount => return expr.positiveSymbols.length
  | .requiredTerminals =>
    match expr.minPositiveSupport? options.termLimit with
    | some minimum => return minimum
    | none => do
      Traced.report (.tooManyTerms options.termLimit expr.positiveLowerBound)
      return expr.positiveLowerBound

def inclusiveExpr (options : CompilerOptions) (grammar : Grammar) : Expr × SymbolTable :=
  match options.threshold with
  | .requiredTerminals =>
    let (bounds, table) := grammar.bounds []
    (bounds.upper.simplify, table)
  | .terminalCount =>
    let (expr, table) := grammar.direct []
    (expr.simplify, table)

def compileInclusive (options : CompilerOptions) (grammar : Grammar) : Traced Error Query := do
  let (expr, table) := options.inclusiveExpr grammar
  match expr.const? with
  | some value =>
    Traced.report (.constantInclusive value)
    return if value then .matchAll else .matchNone
  | none =>
    let positives := expr.positiveSymbols
    let minimum ← options.minimum expr
    Traced.report (.compiledInclusive table.length positives.length minimum)
    if minimum = 0 then return .matchAll
    else return ⟨positives.map table.clause, [], [], some minimum⟩

/-- The clauses that exclude what an exclusive grammar certainly matches. -/
def compileExclusive (options : CompilerOptions) (grammar : Grammar) :
    Traced Error (List Clause) := do
  match options.threshold with
  | .requiredTerminals =>
    let (bounds, table) := grammar.bounds []
    let expr := bounds.lower.simplify
    Traced.report (.compiledExclusive table.length expr)
    if expr.const? = some false then return [] else return [expr.toClause table]
  | .terminalCount =>
    let (direct, table) := grammar.direct []
    let expr := direct.simplify
    let clauses := expr.positiveSymbols.map table.clause
    if expr.const? = some true then return .matchAll :: clauses else return clauses

/-- Validates a grammar and reports the names that its terminals share. -/
def check (grammar : Grammar) : Traced Error Unit := do
  grammar.validate
  grammar.duplicateNames.forM fun name => Traced.report (.ambiguousName name)

def compile (options : CompilerOptions) (inclusive exclusive : Option Grammar) :
    Traced Error Query := do
  inclusive.forM check
  exclusive.forM check
  let query ←
    match inclusive with
    | some grammar => options.compileInclusive grammar
    | none => pure Query.empty
  match exclusive with
  | some grammar => return { query with mustNot := ← options.compileExclusive grammar }
  | none => return query

end CompilerOptions

end Concordance
