import Concordance.Matcher.Scanner
import Concordance.Query.Basic

/-!
Evaluating queries on documents.  The scanners of all clauses are built first, which fails only for
a regular expression.  A clause about a layer that a document lacks does not hold.
-/

namespace Concordance

/-- A clause with its scanners built. -/
inductive PreparedClause where
  | scan (scanner : Scanner)
  | bool (should must mustNot : List PreparedClause) (minimum : Nat)
  | const (value : Bool)
deriving Repr

mutual

def Clause.prepare : Clause → Except Error PreparedClause
  | .term path text caseSensitive wholeWord =>
    .ok (.scan (.ofTerms [text] path caseSensitive wholeWord))
  | .regexp path pattern caseSensitive =>
    (Scanner.ofPattern pattern path caseSensitive).map .scan
  | .bool should must mustNot minimumShouldMatch => do
    let preparedShould ← Clause.prepareAll should
    let preparedMust ← Clause.prepareAll must
    let preparedMustNot ← Clause.prepareAll mustNot
    return .bool preparedShould preparedMust preparedMustNot
      (effectiveMinimum should must minimumShouldMatch)
  | .matchAll => .ok (.const true)
  | .matchNone => .ok (.const false)

def Clause.prepareAll : List Clause → Except Error (List PreparedClause)
  | [] => .ok []
  | clause :: rest => do
    let first ← clause.prepare
    return first :: (← Clause.prepareAll rest)

end

namespace PreparedClause

mutual

def holds (document : Document) : PreparedClause → Traced Error Bool
  | scan scanner => do
    if document.contains scanner.key then
      return !(← scanner.find document).isEmpty
    else return false
  | bool should must mustNot minimum => do
    if ← holdsAll document must then
      if ← holdsAny document mustNot then return false
      else holdsAtLeast document minimum should
    else return false
  | const value => return value

/-- Looks at clauses up to the first that does not hold. -/
def holdsAll (document : Document) : List PreparedClause → Traced Error Bool
  | [] => return true
  | clause :: rest => do
    if ← clause.holds document then holdsAll document rest else return false

/-- Looks at clauses up to the first that holds. -/
def holdsAny (document : Document) : List PreparedClause → Traced Error Bool
  | [] => return false
  | clause :: rest => do
    if ← clause.holds document then return true else holdsAny document rest

def holdsAtLeast (document : Document) (minimum : Nat) : List PreparedClause → Traced Error Bool
  | [] => return minimum == 0
  | clause :: rest => do
    if minimum = 0 then return true
    else if ← clause.holds document then holdsAtLeast document (minimum - 1) rest
    else holdsAtLeast document minimum rest

end

end PreparedClause

namespace Query

def prepare (query : Query) : Except Error PreparedClause :=
  query.toClause.prepare

def holds (query : Query) (document : Document) : Traced Error Bool := do
  let prepared ← query.prepare
  prepared.holds document

end Query

end Concordance
