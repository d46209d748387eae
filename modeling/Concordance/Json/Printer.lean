import Concordance.Json.Basic

/-!
Writing JSON text without blanks.  Only quotes, backslashes and control characters are escaped;
`asciiOnly` escapes the rest of a written text.
-/

namespace Concordance.Json

def hexQuad (value : Nat) : List Char :=
  let digits := Nat.toDigits 16 value
  List.replicate (4 - digits.length) '0' ++ digits

def escapedChar (c : Char) : List Char :=
  if c = '"' then ['\\', '"']
  else if c = '\\' then ['\\', '\\']
  else if c = '\x08' then ['\\', 'b']
  else if c = '\x0c' then ['\\', 'f']
  else if c = '\n' then ['\\', 'n']
  else if c = '\r' then ['\\', 'r']
  else if c = '\t' then ['\\', 't']
  else if c.toNat < 0x20 then ['\\', 'u'] ++ hexQuad c.toNat
  else [c]

def stringChars (text : String) : List Char :=
  '"' :: text.toList.flatMap escapedChar ++ ['"']

def Number.chars : Number → List Char
  | natural value => Nat.toDigits 10 value
  | negative value => '-' :: Nat.toDigits 10 value
  | decimal mantissa exponent => (toString mantissa).toList ++ 'e' :: (toString exponent).toList

mutual

/-- The characters of a value, followed by `tail`. -/
def chars : Json → (tail : List Char) → List Char
  | null, tail => 'n' :: 'u' :: 'l' :: 'l' :: tail
  | bool true, tail => 't' :: 'r' :: 'u' :: 'e' :: tail
  | bool false, tail => 'f' :: 'a' :: 'l' :: 's' :: 'e' :: tail
  | number value, tail => value.chars ++ tail
  | string text, tail => stringChars text ++ tail
  | array items, tail => '[' :: itemChars items (']' :: tail)
  | object fields, tail => '\x7b' :: fieldChars fields ('\x7d' :: tail)

def itemChars : List Json → (tail : List Char) → List Char
  | [], tail => tail
  | [item], tail => chars item tail
  | item :: rest, tail => chars item (',' :: itemChars rest tail)

def fieldChars : List (String × Json) → (tail : List Char) → List Char
  | [], tail => tail
  | [(name, value)], tail => stringChars name ++ ':' :: chars value tail
  | (name, value) :: rest, tail =>
    stringChars name ++ ':' :: chars value (',' :: fieldChars rest tail)

end

def compact (json : Json) : String :=
  String.ofList (json.chars [])

/-- A character in UTF-16 units, each written as an escape. -/
def unitEscapes (c : Char) : List Char :=
  let code := c.toNat
  if code < 0x10000 then ['\\', 'u'] ++ hexQuad code
  else
    ['\\', 'u'] ++ hexQuad (0xD800 + (code - 0x10000) / 0x400) ++
      ['\\', 'u'] ++ hexQuad (0xDC00 + (code - 0x10000) % 0x400)

/-- JSON text with every character beyond ASCII escaped; such characters stand in strings only. -/
def asciiOnly (text : String) : String :=
  String.ofList (text.toList.flatMap fun c => if c.toNat < 0x80 then [c] else unitEscapes c)

end Concordance.Json
