import Concordance.Expr.Support
import Concordance.Grammar.Basic

/-!
Grammars as boolean expressions.  Symbols stand for the terminals of a grammar, equal terminals for
one symbol.  A node has two bounds: the upper one holds wherever the node matches, and the node
matches wherever the lower one holds.
-/

namespace Concordance

/-- The terminals met so far; the place of a terminal is its symbol. -/
abbrev SymbolTable := List Terminal

namespace SymbolTable

/-- The symbol of a terminal, which is added to the table if it is not there. -/
def intern (table : SymbolTable) (terminal : Terminal) : Nat × SymbolTable :=
  match table.idxOf? terminal with
  | some id => (id, table)
  | none => (table.length, table ++ [terminal])

end SymbolTable

structure Bounds where
  upper : Expr
  lower : Expr
deriving Repr

namespace Bounds

/-- A single scanner passes every test of positions, and alignment asks nothing of one component. -/
def isLone (operation : Operation) : List Grammar → Bool
  | [.terminal _] => true
  | [_] => operation = .layerMatch
  | _ => false

def ofOperation (operation : Operation) (children : List Grammar) (bounds : List Bounds) :
    Bounds :=
  let uppers := bounds.map upper
  let lowers := bounds.map lower
  match operation with
  | .intersect => ⟨.and uppers, .and lowers⟩
  | .union => ⟨.or uppers, .or lowers⟩
  | .concat | .gap | .layerMatch =>
    ⟨.and uppers, if isLone operation children then .and lowers else .const false⟩
  | .not => ⟨.not (.and lowers), .not (.and uppers)⟩

end Bounds

namespace Grammar

mutual

def bounds : Grammar → SymbolTable → Bounds × SymbolTable
  | terminal t, table =>
    let (id, table) := table.intern t
    (⟨.symbol id, .symbol id⟩, table)
  | composite _ operation children _ _, table =>
    let (bounds, table) := boundsOfAll children table
    (.ofOperation operation children bounds, table)

def boundsOfAll : List Grammar → SymbolTable → List Bounds × SymbolTable
  | [], table => ([], table)
  | child :: rest, table =>
    let (first, table) := child.bounds table
    let (others, table) := boundsOfAll rest table
    (first :: others, table)

end

/-- The connective of an operation, positions being left out of account. -/
def connective (operation : Operation) (children : List Expr) : Expr :=
  match operation with
  | .not => .not (.and children)
  | .union => .or children
  | .intersect | .concat | .gap | .layerMatch => .and children

mutual

def direct : Grammar → SymbolTable → Expr × SymbolTable
  | terminal t, table =>
    let (id, table) := table.intern t
    (.symbol id, table)
  | composite _ operation children _ _, table =>
    let (children, table) := directAll children table
    (connective operation children, table)

def directAll : List Grammar → SymbolTable → List Expr × SymbolTable
  | [], table => ([], table)
  | child :: rest, table =>
    let (first, table) := child.direct table
    let (others, table) := directAll rest table
    (first :: others, table)

end

end Grammar

end Concordance
