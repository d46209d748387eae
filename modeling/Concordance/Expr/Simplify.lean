import Concordance.Expr.Basic

/-!
Simplification.  Negations are pushed down to the symbols first; then passes fold constants, flatten
nested junctions, sort, drop repeated children, resolve complements and drop absorbed children,
until a pass changes nothing.
-/

namespace Concordance.Expr

/-- The junction of a kind: a conjunction if `isAnd`, else a disjunction. -/
def junction (isAnd : Bool) (children : List Expr) : Expr :=
  if isAnd then and children else or children

def symbolWith (polarity : Bool) (id : Nat) : Expr :=
  if polarity then symbol id else not (symbol id)

mutual

/-- The negation normal form of an expression, or of its negation if `polarity` is false. -/
def nnfWith (polarity : Bool) : Expr → Expr
  | const value => const (value == polarity)
  | symbol id => symbolWith polarity id
  | not inner => inner.nnfWith (!polarity)
  | and children => junction polarity (nnfAll polarity children)
  | or children => junction (!polarity) (nnfAll polarity children)

def nnfAll (polarity : Bool) : List Expr → List Expr
  | [] => []
  | child :: rest => child.nnfWith polarity :: nnfAll polarity rest

end

def toNnf (expr : Expr) : Expr :=
  expr.nnfWith true

/-- The children of an expression if it is a junction of this kind. -/
def childrenOf? (isAnd : Bool) : Expr → Option (List Expr)
  | and children => if isAnd then some children else none
  | or children => if isAnd then none else some children
  | _ => none

/-- The children of a junction with junctions of its own kind opened and its neutral constant left
out; none if a constant settles the junction. -/
def flatten? (isAnd : Bool) : List Expr → Option (List Expr)
  | [] => some []
  | child :: rest =>
    match child.const? with
    | some value => if value = isAnd then flatten? isAnd rest else none
    | none => do
      let others ← flatten? isAnd rest
      return (child.childrenOf? isAnd).getD [child] ++ others

/-- Of equal neighbours only the first is kept. -/
def dropRepeated : List Expr → List Expr
  | first :: second :: rest =>
    if first == second then dropRepeated (second :: rest)
    else first :: dropRepeated (second :: rest)
  | children => children

def isIn (expr : Expr) (list : List Expr) : Bool :=
  list.any (· == expr)

def hasComplements (children : List Expr) : Bool :=
  children.any fun
    | not inner => inner.isIn children
    | _ => false

/-- Whether a sibling makes a child of a junction redundant: the child is a junction of the other
kind that contains the sibling, or that contains all children of a shorter sibling of its kind. -/
def isAbsorbed (isAnd : Bool) (siblings : List Expr) (child : Expr) : Bool :=
  match child.childrenOf? (!isAnd) with
  | none => false
  | some inner =>
    siblings.any fun sibling =>
      sibling.isIn inner ||
        match sibling.childrenOf? (!isAnd) with
        | some other => other.length < inner.length && other.all (·.isIn inner)
        | none => false

def simplifyJunction (isAnd : Bool) (children : List Expr) : Expr :=
  match flatten? isAnd children with
  | none => const (!isAnd)
  | some flat =>
    let sorted := dropRepeated (flat.mergeSort le)
    if hasComplements sorted then const (!isAnd)
    else
      match sorted.filter fun child => !isAbsorbed isAnd sorted child with
      | [] => const isAnd
      | [child] => child
      | kept => junction isAnd kept

def simplifyNegation : Expr → Expr
  | const value => const !value
  | not inner => inner
  | other => not other

mutual

def simplifyOnce : Expr → Expr
  | const value => const value
  | symbol id => symbol id
  | not inner => simplifyNegation inner.simplifyOnce
  | and children => simplifyJunction true (simplifyAll children)
  | or children => simplifyJunction false (simplifyAll children)

def simplifyAll : List Expr → List Expr
  | [] => []
  | child :: rest => child.simplifyOnce :: simplifyAll rest

end

/-- Passes until one changes nothing, at most `passes` of them. -/
def simplifyWithin : (passes : Nat) → Expr → Expr
  | 0, expr => expr
  | passes + 1, expr =>
    let next := expr.simplifyOnce
    if next == expr then expr else simplifyWithin passes next

def maxPasses : Nat := 64

def simplify (expr : Expr) : Expr :=
  simplifyWithin maxPasses expr.toNnf

end Concordance.Expr
