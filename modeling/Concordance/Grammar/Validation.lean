import Concordance.Error
import Concordance.Grammar.Basic
import Concordance.Pattern.Resolve

/-!
Well-formed grammars.  A node is looked at before its children, and the children from left to right;
the first node at fault gives the error.
-/

namespace Concordance

open Text

namespace Terminal

/-- What is wrong with a terminal: its error, without the place of the terminal if it is a fault. -/
def error? (location : Location) (terminal : Terminal) : Option Error :=
  if terminal.layer = "" then some (.malformed location .emptyLayer)
  else
    match terminal.matcher with
    | .exact terms =>
      if terms.isEmpty then some (.malformed location .noTerms)
      else (terms.findIdx? isBlankText).map fun i => .malformed location (.blankTerm i)
    | .regex pattern =>
      if terminal.wholeWord then some (.malformed location .misplacedWholeWord)
      else if pattern = "" then some (.malformed location .emptyPattern)
      else if (Pattern.compile? true pattern).isNone then some .badPattern
      else none

end Terminal

namespace Operation

def fault? (operation : Operation) (childCount : Nat) (slop : Option Nat) (matchFirst : Bool) :
    Option Fault :=
  if childCount = 0 then some (.noChildren operation)
  else if operation = .not ∧ childCount ≠ 1 then some (.negationArity childCount)
  else if slop.isSome ∧ operation ≠ .gap then some .misplacedSlop
  else if slop = some 0 then some .zeroSlop
  else if matchFirst ∧ operation ≠ .intersect ∧ operation ≠ .gap then some .misplacedMatchFirst
  else none

end Operation

namespace Grammar

/-- What is wrong with the node at the root, those below apart. -/
def error? (path : List Nat) : Grammar → Option Error
  | terminal t => t.error? (.node path)
  | composite _ operation children slop matchFirst =>
    (operation.fault? children.length slop matchFirst).map (.malformed (.node path))

mutual

def validateAt (path : List Nat) : Grammar → Except Error Unit
  | terminal t =>
    match t.error? (.node path) with
    | some error => .error error
    | none => .ok ()
  | composite _ operation children slop matchFirst =>
    match operation.fault? children.length slop matchFirst with
    | some fault => .error (.malformed (.node path) fault)
    | none => validateAll path 0 children

def validateAll (path : List Nat) (index : Nat) : List Grammar → Except Error Unit
  | [] => .ok ()
  | child :: rest => do
    validateAt (path ++ [index]) child
    validateAll path (index + 1) rest

end

def validate (grammar : Grammar) : Except Error Unit :=
  grammar.validateAt []

end Grammar

end Concordance
