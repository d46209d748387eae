import Concordance.Json.Scan

/-!
Reading JSON text.  `parse?` reads one value with nothing but blanks around it, at most 127 levels
deep; of fields with one name the last counts.
-/

namespace Concordance.Json

open Scan

def maxDepth : Nat := 127

mutual

def value? : (fuel depth : Nat) → List Char → Option (Json × List Char)
  | 0, _, _ => none
  | fuel + 1, depth, chars =>
    match blanks chars with
    | '"' :: rest => (string? (rest.length + 1) rest []).map fun (text, rest) => (string text, rest)
    | '[' :: rest =>
      if depth = 0 then none
      else
        match blanks rest with
        | ']' :: rest => some (array [], rest)
        | rest => (items? fuel (depth - 1) rest).map fun (items, rest) => (array items, rest)
    | '\x7b' :: rest =>
      if depth = 0 then none
      else
        match blanks rest with
        | '\x7d' :: rest => some (object [], rest)
        | rest => (fields? fuel (depth - 1) rest).map fun (fields, rest) => (ofFields fields, rest)
    | 'n' :: rest => (expect? ['u', 'l', 'l'] rest).map (null, ·)
    | 't' :: rest => (expect? ['r', 'u', 'e'] rest).map (bool true, ·)
    | 'f' :: rest => (expect? ['a', 'l', 's', 'e'] rest).map (bool false, ·)
    | rest => do
      let (numeral, rest) ← numeral? rest
      return (number (← numeral.value?), rest)

/-- The items up to the closing bracket, of which there is at least one. -/
def items? : (fuel depth : Nat) → List Char → Option (List Json × List Char)
  | 0, _, _ => none
  | fuel + 1, depth, chars => do
    let (item, rest) ← value? fuel depth chars
    match blanks rest with
    | ',' :: rest => (items? fuel depth rest).map fun (items, rest) => (item :: items, rest)
    | ']' :: rest => some ([item], rest)
    | _ => none

/-- The fields up to the closing brace, of which there is at least one. -/
def fields? : (fuel depth : Nat) → List Char → Option (List (String × Json) × List Char)
  | 0, _, _ => none
  | fuel + 1, depth, chars => do
    let rest ← expect? ['"'] (blanks chars)
    let (name, rest) ← string? (rest.length + 1) rest []
    let rest ← expect? [':'] (blanks rest)
    let (value, rest) ← value? fuel depth rest
    match blanks rest with
    | ',' :: rest =>
      (fields? fuel depth rest).map fun (fields, rest) => ((name, value) :: fields, rest)
    | '\x7d' :: rest => some ([(name, value)], rest)
    | _ => none

end

/-- Every character read uses at most two units of fuel. -/
def parse? (text : String) : Option Json := do
  let chars := text.toList
  let (json, rest) ← value? (2 * chars.length + 2) maxDepth chars
  if (blanks rest).isEmpty then some json else none

end Concordance.Json
