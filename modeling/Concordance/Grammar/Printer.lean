import Concordance.Grammar.Basic
import Concordance.Json.Basic

/-!
Grammars as JSON.  Fields stand in the order of their names; a slop and `match_first` are written
only where they are set.
-/

namespace Concordance

def Terminal.toJson (terminal : Terminal) : Json :=
  match terminal.matcher with
  | .exact terms => .object [
      ("case_sensitive", .bool terminal.caseSensitive),
      ("layer", .string terminal.layer),
      ("name", .string terminal.name),
      ("op", .string "exact"),
      ("terms", .strings terms),
      ("whole_word", .bool terminal.wholeWord)]
  | .regex pattern => .object [
      ("case_sensitive", .bool terminal.caseSensitive),
      ("layer", .string terminal.layer),
      ("name", .string terminal.name),
      ("op", .string "regex"),
      ("pattern", .string pattern)]

namespace Grammar

def slopFields : Option Nat → List (String × Json)
  | some slop => [("slop", .natural slop)]
  | none => []

def matchFirstFields (matchFirst : Bool) : List (String × Json) :=
  if matchFirst then [("match_first", .bool true)] else []

mutual

def toJson : Grammar → Json
  | terminal t => t.toJson
  | composite name operation children slop matchFirst =>
    .object (("children", .array (toJsonAll children)) :: matchFirstFields matchFirst ++
      ("name", .string name) :: ("op", .string operation.name) :: slopFields slop)

def toJsonAll : List Grammar → List Json
  | [] => []
  | child :: rest => child.toJson :: toJsonAll rest

end

end Grammar

end Concordance
