import Concordance.Json.Scan

/-!
Settings written as JSON.  Two settings come as an object, where each of them stands at most once
and other fields are passed over, or as an array, in order.  Settings left out have no value.
-/

namespace Concordance.Json

open Scan

namespace Skip

mutual

/-- The rest after a value, of which only the form matters. -/
def value? : (fuel : Nat) → List Char → Option (List Char)
  | 0, _ => none
  | fuel + 1, chars =>
    match blanks chars with
    | '"' :: rest => skipString? (rest.length + 1) rest
    | '[' :: rest =>
      match blanks rest with
      | ']' :: rest => some rest
      | rest => items? fuel rest
    | '\x7b' :: rest =>
      match blanks rest with
      | '\x7d' :: rest => some rest
      | rest => fields? fuel rest
    | 'n' :: rest => expect? ['u', 'l', 'l'] rest
    | 't' :: rest => expect? ['r', 'u', 'e'] rest
    | 'f' :: rest => expect? ['a', 'l', 's', 'e'] rest
    | rest => (numeral? rest).map Prod.snd

def items? : (fuel : Nat) → List Char → Option (List Char)
  | 0, _ => none
  | fuel + 1, chars => do
    let rest ← value? fuel chars
    match blanks rest with
    | ',' :: rest => items? fuel rest
    | ']' :: rest => some rest
    | _ => none

def fields? : (fuel : Nat) → List Char → Option (List Char)
  | 0, _ => none
  | fuel + 1, chars => do
    let rest ← expect? ['"'] (blanks chars)
    let rest ← skipString? (rest.length + 1) rest
    let rest ← expect? [':'] (blanks rest)
    let rest ← value? fuel rest
    match blanks rest with
    | ',' :: rest => fields? fuel rest
    | '\x7d' :: rest => some rest
    | _ => none

end

end Skip

/-- A setting: its name, and how its value is read after blanks. -/
structure Setting (α : Type) where
  name : String
  read? : List Char → Option (α × List Char)

namespace Setting

variable {α β : Type}

def natural? (chars : List Char) : Option (Nat × List Char) := do
  let (numeral, rest) ← numeral? chars
  match numeral.value? with
  | some (.natural value) => return (value, rest)
  | _ => none

def flag? (chars : List Char) : Option (Bool × List Char) :=
  match expect? ['t', 'r', 'u', 'e'] chars with
  | some rest => some (true, rest)
  | none => (expect? ['f', 'a', 'l', 's', 'e'] chars).map (false, ·)

def text? (chars : List Char) : Option (String × List Char) := do
  let rest ← expect? ['"'] chars
  string? (rest.length + 1) rest []

/-- A name, alone or as the only field of an object, with the value null. -/
def choice? (chars : List Char) : Option (String × List Char) :=
  match chars with
  | '\x7b' :: rest => do
    let (name, rest) ← text? (blanks rest)
    let rest ← expect? [':'] (blanks rest)
    let rest ← expect? ['n', 'u', 'l', 'l'] (blanks rest)
    let rest ← expect? ['\x7d'] (blanks rest)
    return (name, rest)
  | chars => text? chars

/-- The value of a field added to those found, which must not have it yet. -/
def once? (found : Option α) (value : α) : Option (Option α) :=
  if found.isSome then none else some (some value)

/-- The fields up to the closing brace, of which there is at least one. -/
def fields? (first : Setting α) (second : Setting β) : (fuel : Nat) → Option α → Option β →
    List Char → Option ((Option α × Option β) × List Char)
  | 0, _, _, _ => none
  | fuel + 1, foundFirst, foundSecond, chars => do
    let (name, rest) ← text? (blanks chars)
    let rest ← expect? [':'] (blanks rest)
    let (foundFirst, foundSecond, rest) ←
      if name = first.name then do
        let (value, rest) ← first.read? (blanks rest)
        pure (← once? foundFirst value, foundSecond, rest)
      else if name = second.name then do
        let (value, rest) ← second.read? (blanks rest)
        pure (foundFirst, ← once? foundSecond value, rest)
      else do
        let rest ← Skip.value? (2 * rest.length + 2) rest
        pure (foundFirst, foundSecond, rest)
    match blanks rest with
    | ',' :: rest => fields? first second fuel foundFirst foundSecond rest
    | '\x7d' :: rest => some ((foundFirst, foundSecond), rest)
    | _ => none

def items? (first : Setting α) (second : Setting β) (chars : List Char) :
    Option ((Option α × Option β) × List Char) := do
  let (foundFirst, rest) ← first.read? (blanks chars)
  match blanks rest with
  | ']' :: rest => some ((some foundFirst, none), rest)
  | ',' :: rest =>
    let (foundSecond, rest) ← second.read? (blanks rest)
    let rest ← expect? [']'] (blanks rest)
    return ((some foundFirst, some foundSecond), rest)
  | _ => none

def parse? (first : Setting α) (second : Setting β) (text : String) :
    Option (Option α × Option β) := do
  let (found, rest) ←
    match blanks text.toList with
    | '\x7b' :: rest =>
      match blanks rest with
      | '\x7d' :: rest => some ((none, none), rest)
      | rest => fields? first second (rest.length + 1) none none rest
    | '[' :: rest =>
      match blanks rest with
      | ']' :: rest => some ((none, none), rest)
      | rest => items? first second rest
    | _ => none
  if (blanks rest).isEmpty then some found else none

end Setting

end Concordance.Json
