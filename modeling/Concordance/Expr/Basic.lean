/-!
Boolean expressions over numbered symbols.
-/

namespace Concordance

inductive Expr where
  | const (value : Bool)
  | symbol (id : Nat)
  | not (inner : Expr)
  | and (children : List Expr)
  | or (children : List Expr)
deriving Repr, Inhabited

namespace Expr

mutual

def eval (assignment : Nat → Bool) : Expr → Bool
  | const value => value
  | symbol id => assignment id
  | not inner => !inner.eval assignment
  | and children => evalAll assignment children
  | or children => evalAny assignment children

def evalAll (assignment : Nat → Bool) : List Expr → Bool
  | [] => true
  | child :: rest => child.eval assignment && evalAll assignment rest

def evalAny (assignment : Nat → Bool) : List Expr → Bool
  | [] => false
  | child :: rest => child.eval assignment || evalAny assignment rest

end

def const? : Expr → Option Bool
  | const value => some value
  | _ => none

/-! Order: constants, symbols, negations, conjunctions, disjunctions; within each kind by content,
lists of children lexicographically. -/

def rank : Expr → Nat
  | const _ => 0
  | symbol _ => 1
  | not _ => 2
  | and _ => 3
  | or _ => 4

mutual

def compare : Expr → Expr → Ordering
  | const left, const right => Ord.compare left right
  | symbol left, symbol right => Ord.compare left right
  | not left, not right => left.compare right
  | and left, and right => compareAll left right
  | or left, or right => compareAll left right
  | left, right => Ord.compare left.rank right.rank

def compareAll : List Expr → List Expr → Ordering
  | [], [] => .eq
  | [], _ :: _ => .lt
  | _ :: _, [] => .gt
  | left :: lefts, right :: rights => (left.compare right).then (compareAll lefts rights)

end

def le (left right : Expr) : Bool :=
  (left.compare right).isLE

instance : BEq Expr where
  beq left right := left.compare right == .eq

/-! Symbols, in increasing order. -/

/-- A number added to numbers in increasing order, unless it is there. -/
def insertSymbol (id : Nat) : List Nat → List Nat
  | [] => [id]
  | other :: rest =>
    if id < other then id :: other :: rest
    else if id = other then other :: rest
    else other :: insertSymbol id rest

mutual

/-- Adds the symbols of an expression, those of one polarity if `wanted` says which; `polarity` is
that of the place where the expression stands. -/
def collect (wanted : Option Bool) (polarity : Bool) : Expr → List Nat → List Nat
  | const _, found => found
  | symbol id, found => if wanted.all (· == polarity) then insertSymbol id found else found
  | not inner, found => inner.collect wanted (!polarity) found
  | and children, found => collectAll wanted polarity children found
  | or children, found => collectAll wanted polarity children found

def collectAll (wanted : Option Bool) (polarity : Bool) : List Expr → List Nat → List Nat
  | [], found => found
  | child :: rest, found => collectAll wanted polarity rest (child.collect wanted polarity found)

end

def symbols (expr : Expr) : List Nat :=
  expr.collect none true []

/-- The symbols below an even number of negations. -/
def positiveSymbols (expr : Expr) : List Nat :=
  expr.collect (some true) true []

/-! The written form, as log lines show it. -/

mutual

def display : Expr → String
  | const value => "Const(" ++ toString value ++ ")"
  | symbol id => "Symbol(" ++ toString id ++ ")"
  | not inner => "Not(" ++ inner.display ++ ")"
  | and children => "And([" ++ displayAll children ++ "])"
  | or children => "Or([" ++ displayAll children ++ "])"

def displayAll : List Expr → String
  | [] => ""
  | [child] => child.display
  | child :: rest => child.display ++ ", " ++ displayAll rest

end

end Expr

end Concordance
