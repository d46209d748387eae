import Concordance.Json.Basic
import Concordance.Text.Table

/-!
The words of JSON text: blanks, strings and numbers.  Every function takes the characters still to
be read and returns those after the word.
-/

namespace Concordance.Json.Scan

open Concordance.Text

def blanks : List Char → List Char
  | c :: rest =>
    if c = ' ' ∨ c = '\n' ∨ c = '\t' ∨ c = '\r' then blanks rest else c :: rest
  | [] => []

def expect? : List Char → List Char → Option (List Char)
  | [], rest => some rest
  | c :: word, d :: rest => if c = d then expect? word rest else none
  | _ :: _, [] => none

def hexQuad? : List Char → Option (Nat × List Char)
  | a :: b :: c :: d :: rest => do
    let a ← hexDigit? a
    let b ← hexDigit? b
    let c ← hexDigit? c
    let d ← hexDigit? d
    return (((a * 16 + b) * 16 + c) * 16 + d, rest)
  | _ => none

def shortEscape? : Char → Option Char
  | '"' => some '"'
  | '\\' => some '\\'
  | '/' => some '/'
  | 'b' => some '\x08'
  | 'f' => some '\x0c'
  | 'n' => some '\n'
  | 'r' => some '\r'
  | 't' => some '\t'
  | _ => none

/-- The character of an escape, what follows its backslash being given.  A high surrogate needs the
low one after it, and no surrogate stands alone. -/
def escape? : List Char → Option (Char × List Char)
  | 'u' :: rest => do
    let (high, rest) ← hexQuad? rest
    if 0xDC00 ≤ high ∧ high ≤ 0xDFFF then none
    else if 0xD800 ≤ high ∧ high ≤ 0xDBFF then do
      let rest ← expect? ['\\', 'u'] rest
      let (low, rest) ← hexQuad? rest
      if 0xDC00 ≤ low ∧ low ≤ 0xDFFF then
        return (Char.ofNat (0x10000 + (high - 0xD800) * 0x400 + (low - 0xDC00)), rest)
      else none
    else return (Char.ofNat high, rest)
  | c :: rest => (shortEscape? c).map (·, rest)
  | [] => none

/-- The text up to the closing quote; `text` is what has been read, last character first. -/
def string? : (fuel : Nat) → List Char → (text : List Char) → Option (String × List Char)
  | 0, _, _ => none
  | fuel + 1, chars, text =>
    match chars with
    | '"' :: rest => some (String.ofList text.reverse, rest)
    | '\\' :: rest => do
      let (c, rest) ← escape? rest
      string? fuel rest (c :: text)
    | c :: rest => if c.toNat < 0x20 then none else string? fuel rest (c :: text)
    | [] => none

/-- The rest after the closing quote, escapes being looked at for their form only. -/
def skipString? : (fuel : Nat) → List Char → Option (List Char)
  | 0, _ => none
  | fuel + 1, chars =>
    match chars with
    | '"' :: rest => some rest
    | '\\' :: 'u' :: rest => do
      let (_, rest) ← hexQuad? rest
      skipString? fuel rest
    | '\\' :: c :: rest => do
      let _ ← shortEscape? c
      skipString? fuel rest
    | c :: rest => if c = '\\' ∨ c.toNat < 0x20 then none else skipString? fuel rest
    | [] => none

/-- The digits that come next, as a number with their count, after those already read. -/
def digits : List Char → (value count : Nat) → Nat × Nat × List Char
  | c :: rest, value, count =>
    match decimalDigit? c with
    | some digit => digits rest (value * 10 + digit) (count + 1)
    | none => (value, count, c :: rest)
  | [], value, count => (value, count, [])

/-- A number as it is written: its sign, the digits before and after the point with the count of the
latter, and the exponent; `whole` if it has neither point nor exponent. -/
structure Numeral where
  isNegative : Bool
  mantissa : Nat
  places : Nat
  exponent : Int
  whole : Bool
deriving DecidableEq, Repr

def fraction? (mantissa : Nat) : List Char → Option (Nat × Nat × Bool × List Char)
  | '.' :: rest =>
    match digits rest mantissa 0 with
    | (_, 0, _) => none
    | (value, count, rest) => some (value, count, false, rest)
  | rest => some (mantissa, 0, true, rest)

def exponent? : List Char → Option (Int × Bool × List Char)
  | c :: rest =>
    if c = 'e' ∨ c = 'E' then
      let (negative, rest) :=
        match rest with
        | '+' :: rest => (false, rest)
        | '-' :: rest => (true, rest)
        | rest => (false, rest)
      match digits rest 0 0 with
      | (_, 0, _) => none
      | (value, _, rest) => some (if negative then -(value : Int) else value, false, rest)
    else some (0, true, c :: rest)
  | [] => some (0, true, [])

/-- A number; a leading zero stands alone before the point. -/
def numeral? (chars : List Char) : Option (Numeral × List Char) := do
  let (isNegative, chars) :=
    match chars with
    | '-' :: rest => (true, rest)
    | rest => (false, rest)
  let startsWithZero := chars.head? == some '0'
  let (value, count, rest) := digits chars 0 0
  if count = 0 ∨ (startsWithZero ∧ 1 < count) then none
  else do
    let (mantissa, places, noPoint, rest) ← fraction? value rest
    let (exponent, noExponent, rest) ← exponent? rest
    return (⟨isNegative, mantissa, places, exponent, noPoint && noExponent⟩, rest)

/-- Whether `mantissa` times ten to the power `exponent` lies beyond the largest double, rounding
included: the bound is the middle between that double and the next power of two. -/
def exceedsDouble (mantissa : Nat) (exponent : Int) : Bool :=
  let size : Int := ((Nat.toDigits 10 mantissa).length : Int) + exponent
  if mantissa = 0 ∨ size < 300 then false
  else if 320 < size then true
  else
    let bound := Nat.pow 2 1024 - Nat.pow 2 970
    if 0 ≤ exponent then bound ≤ mantissa * Nat.pow 10 exponent.toNat
    else bound * Nat.pow 10 (-exponent).toNat ≤ mantissa

/-- The value of a number.  Whole numbers count as such if they fit into 64 bits, and a number that
no double can hold has no value. -/
def Numeral.value? (numeral : Numeral) : Option Number :=
  if numeral.whole && !numeral.isNegative && numeral.mantissa < UInt64.size then
    some (.natural numeral.mantissa)
  else if numeral.whole && numeral.isNegative && 0 < numeral.mantissa &&
      numeral.mantissa ≤ UInt64.size / 2 then
    some (.negative numeral.mantissa)
  else
    let exponent := numeral.exponent - numeral.places
    if exceedsDouble numeral.mantissa exponent then none
    else
      let mantissa : Int := numeral.mantissa
      some (.decimal (if numeral.isNegative then -mantissa else mantissa) exponent)

end Concordance.Json.Scan
