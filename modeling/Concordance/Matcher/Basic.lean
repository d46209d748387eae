import Concordance.Match.Combine
import Concordance.Matcher.Scanner

/-!
Matchers: trees of scanners and combinators.  All components of a combinator are evaluated, from
left to right, before their matches are combined; the only error is that of the first scanner whose
layer a document lacks.
-/

namespace Concordance

inductive Matcher where
  | scan (scanner : Scanner)
  | intersection (components : List Matcher) (matchFirst : Bool)
  | union (components : List Matcher)
  | concatenation (components : List Matcher)
  | gap (components : List Matcher) (slop : Option Nat) (matchFirst : Bool)
  | layerMatch (components : List Matcher)
  | negation (child : Matcher)
deriving Repr

namespace Matcher

def combine (combinator : List (List Match) → List Match) (lists : List (List Match)) :
    Traced Error (List Match) := do
  Traced.report (.enumerating (Match.combinationCount lists))
  return combinator lists

mutual

/-- All matches in a document, in increasing order. -/
def find (document : Document) : Matcher → Traced Error (List Match)
  | scan scanner => scanner.find document
  | intersection components matchFirst => do
    combine (Match.intersection matchFirst) (← findAll document components)
  | union components => do
    return Match.union (← findAll document components)
  | concatenation components => do
    combine Match.concatenation (← findAll document components)
  | gap components slop matchFirst => do
    combine (Match.gap slop matchFirst) (← findAll document components)
  | layerMatch components => do
    combine Match.layerMatch (← findAll document components)
  | negation child => do
    return Match.negation (← child.find document)

def findAll (document : Document) : List Matcher → Traced Error (List (List Match))
  | [] => return []
  | component :: rest => do
    let found ← component.find document
    return found :: (← findAll document rest)

end

def isMatch (document : Document) (matcher : Matcher) : Traced Error Bool := do
  return !(← matcher.find document).isEmpty

end Matcher

end Concordance
