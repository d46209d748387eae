import Concordance.Grammar.Validation
import Concordance.Matcher.Basic

/-!
The matcher of a grammar.
-/

namespace Concordance.Matcher

/-- Terms always have a matcher; a pattern has one if it compiles. -/
def ofTerminal (terminal : Terminal) : Except Error Matcher :=
  match terminal.matcher with
  | .exact terms =>
    .ok (scan (.ofTerms terms terminal.layer terminal.caseSensitive terminal.wholeWord))
  | .regex pattern => (Scanner.ofPattern pattern terminal.layer terminal.caseSensitive).map scan

/-- A node whose components are built.  A negation takes its first component, of which a node that
validation accepts has one. -/
def ofOperation (name : String) (operation : Operation) (components : List Matcher)
    (slop : Option Nat) (matchFirst : Bool) : Except Error Matcher :=
  match operation with
  | .intersect => .ok (intersection components matchFirst)
  | .union => .ok (union components)
  | .concat => .ok (concatenation components)
  | .gap => .ok (gap components slop matchFirst)
  | .layerMatch => .ok (layerMatch components)
  | .not =>
    match components with
    | child :: _ => .ok (negation child)
    | [] => .error (.malformed (.named name) .nothingNegated)

mutual

def build : Grammar → Except Error Matcher
  | .terminal terminal => ofTerminal terminal
  | .composite name operation children slop matchFirst => do
    ofOperation name operation (← buildAll children) slop matchFirst

def buildAll : List Grammar → Except Error (List Matcher)
  | [] => .ok []
  | child :: rest => do
    let first ← build child
    return first :: (← buildAll rest)

end

def ofGrammar (grammar : Grammar) : Except Error Matcher := do
  grammar.validate
  build grammar

end Concordance.Matcher
