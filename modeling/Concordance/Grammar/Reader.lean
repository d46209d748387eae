import Concordance.Grammar.Validation
import Concordance.Json.Reader

/-!
Grammars from JSON.  An object with a field `layer` is a terminal, any other object a composite.
Some fields have two names, of which the first one present counts, and a null is no value.
-/

namespace Concordance.Grammar

abbrev Fields := List (String × Json)

/-- The value under the first of several names that is present. -/
def field? (fields : Fields) (names : List String) : Option Json :=
  names.findSome? (Json.lookup? · fields)

def malformed {α : Type} (path : List Nat) (fault : Fault) : Except Error α :=
  .error (.malformed (.node path) fault)

/-- A text under one of several names; messages use the first. -/
def textField (path : List Nat) (fields : Fields) (names : List String) :
    Except Error (Option String) :=
  match field? fields names with
  | none | some .null => .ok none
  | some (.string text) => .ok (some text)
  | some _ => malformed path (.notAString (names.headD ""))

def flagField (path : List Nat) (fields : Fields) (name : String) : Except Error Bool :=
  match Json.lookup? name fields with
  | none | some .null => .ok false
  | some (.bool value) => .ok value
  | some _ => malformed path (.notABoolean name)

def slopField (path : List Nat) (fields : Fields) : Except Error (Option Nat) :=
  match Json.lookup? "slop" fields with
  | none | some .null => .ok none
  | some (.number (.natural value)) => .ok (some value)
  | some _ => malformed path .slopNotNatural

def operationNames : List String := ["op", "operation"]

def childrenNames : List String := ["children", "components"]

def patternNames : List String := ["pattern", "expression"]

def termOf? : Json → Option String
  | .string text => some text
  | _ => none

def termsOf (path : List Nat) : Json → Except Error (List String)
  | .array items =>
    match items.mapM termOf? with
    | some terms => .ok terms
    | none => malformed path .termsNotStrings
  | _ => malformed path .termsNotStrings

def inferredKind (path : List Nat) (terms : Option Json) (pattern : Option String) :
    Except Error String :=
  if terms.isSome then .ok "exact"
  else if pattern.isSome then .ok "regex"
  else malformed path .missingMatcher

def matcherOf (path : List Nat) (kind : String) (terms : Option Json) (pattern : Option String) :
    Except Error TerminalMatcher :=
  match kind with
  | "exact" =>
    match terms with
    | some terms => (termsOf path terms).map .exact
    | none => malformed path .missingTerms
  | "regex" =>
    match pattern with
    | some pattern => .ok (.regex pattern)
    | none => malformed path .missingPattern
  | other => .error (.unsupportedOperation other)

def readTerminal (path : List Nat) (fields : Fields) : Except Error Terminal := do
  let some layer ← textField path fields ["layer"] | malformed path .missingLayer
  let terms := Json.lookup? "terms" fields
  let pattern ← textField path fields patternNames
  let kind ←
    match ← textField path fields operationNames with
    | some kind => pure kind
    | none => inferredKind path terms pattern
  let matcher ← matcherOf path kind terms pattern
  let name ← textField path fields ["name"]
  let caseSensitive ← flagField path fields "case_sensitive"
  let wholeWord ← flagField path fields "whole_word"
  return ⟨name.getD "", layer, matcher, caseSensitive, wholeWord⟩

/-- What a field of children gives: an error if it is no array, else what its items give. -/
abbrev ChildrenResult := Except Error (List Grammar)

/-- A composite, the results of the fields that can hold children being given. -/
def readComposite (path : List Nat) (fields : Fields) (results : List (String × ChildrenResult)) :
    Except Error Grammar := do
  let some name ← textField path fields operationNames | malformed path .missingOperation
  let some operation := Operation.ofName? name | .error (.unsupportedOperation name)
  let some children := childrenNames.findSome? (List.lookup · results)
    | malformed path .missingChildren
  let children ← children
  let slop ← slopField path fields
  let name ← textField path fields ["name"]
  let matchFirst ← flagField path fields "match_first"
  return .composite (name.getD "") operation children slop matchFirst

mutual

def readAt (path : List Nat) : Json → Except Error Grammar
  | .object fields =>
    if (Json.lookup? "layer" fields).isSome then (readTerminal path fields).map .terminal
    else readComposite path fields (childrenResults path fields)
  | _ => malformed path .notAnObject

def childrenResults (path : List Nat) : List (String × Json) → List (String × ChildrenResult)
  | [] => []
  | (name, .array items) :: rest => (name, readAll path 0 items) :: childrenResults path rest
  | (name, _) :: rest => (name, malformed path .childrenNotArray) :: childrenResults path rest

def readAll (path : List Nat) (index : Nat) : List Json → ChildrenResult
  | [] => .ok []
  | item :: rest => do
    let child ← readAt (path ++ [index]) item
    return child :: (← readAll path (index + 1) rest)

end

def ofJson (json : Json) : Except Error Grammar := do
  let grammar ← readAt [] json
  grammar.validate
  return grammar

def ofText (text : String) : Except Error Grammar :=
  match Json.parse? text with
  | some json => ofJson json
  | none => .error .badJson

end Concordance.Grammar
