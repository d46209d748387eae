import Concordance.Expr.Simplify

/-!
How many symbols an expression needs to be true.  A disjunctive form is a list of terms, each of
them some symbols that must be true and some that must be false; its expansion is given up where it
would pass a limit.
-/

namespace Concordance.Expr

/-- The symbols that must be true and those that must be false, in increasing order. -/
structure Term where
  positive : List Nat
  negative : List Nat
deriving DecidableEq, Repr, Inhabited

namespace Term

def always : Term := ⟨[], []⟩

def ofSymbol (polarity : Bool) (id : Nat) : Term :=
  if polarity then ⟨[id], []⟩ else ⟨[], [id]⟩

def join (left right : Term) : Term :=
  ⟨right.positive.foldr insertSymbol left.positive,
    right.negative.foldr insertSymbol left.negative⟩

def isSatisfiable (term : Term) : Bool :=
  term.positive.all fun id => !term.negative.contains id

end Term

def joinTerms (left right : List Term) : List Term :=
  (left.flatMap fun first => right.map first.join).filter Term.isSatisfiable

mutual

/-- The terms of an expression, or of its negation if `polarity` is false. -/
def termsWith? (limit : Nat) (polarity : Bool) : Expr → Option (List Term)
  | const value => some (if value = polarity then [.always] else [])
  | symbol id => some [.ofSymbol polarity id]
  | not inner => inner.termsWith? limit (!polarity)
  | and children =>
    if polarity then conjunction? limit polarity children [.always]
    else disjunction? limit polarity children []
  | or children =>
    if polarity then disjunction? limit polarity children []
    else conjunction? limit polarity children [.always]

/-- Adds the terms of children to those already found. -/
def disjunction? (limit : Nat) (polarity : Bool) : List Expr → List Term → Option (List Term)
  | [], found => some found
  | child :: rest, found => do
    let terms ← child.termsWith? limit polarity
    if limit < found.length + terms.length then none
    else disjunction? limit polarity rest (found ++ terms)

/-- Joins the terms of children to those already found. -/
def conjunction? (limit : Nat) (polarity : Bool) : List Expr → List Term → Option (List Term)
  | [], found => some found
  | child :: rest, found => do
    let terms ← child.termsWith? limit polarity
    if limit < found.length * terms.length then none
    else conjunction? limit polarity rest (joinTerms found terms)

end

def terms? (limit : Nat) (expr : Expr) : Option (List Term) :=
  expr.termsWith? limit true

/-- The least number of symbols that are true where the expression is: none if the expansion passes
the limit, or if nothing makes the expression true. -/
def minPositiveSupport? (limit : Nat) (expr : Expr) : Option Nat :=
  (expr.terms? limit).bind fun terms =>
    ((terms.filter Term.isSatisfiable).map fun term => term.positive.length).min?

mutual

/-- A lower bound on that number that needs no expansion, for expressions in negation normal form.
-/
def positiveLowerBound : Expr → Nat
  | const _ => 0
  | symbol _ => 1
  | not _ => 0
  | and children => largestBound children
  | or children => (smallestBound? children).getD 0

def largestBound : List Expr → Nat
  | [] => 0
  | child :: rest => max child.positiveLowerBound (largestBound rest)

def smallestBound? : List Expr → Option Nat
  | [] => none
  | child :: rest =>
    match smallestBound? rest with
    | some least => some (min child.positiveLowerBound least)
    | none => some child.positiveLowerBound

end

end Concordance.Expr
