import Concordance.Text.Property

/-!
Quoted text, as log lines show names: between double quotes, with a backslash before a quote and a
backslash, short escapes for the common controls, and the code point of everything else that would
not show as a character of its own.
-/

namespace Concordance.Text

def hexDigits (code : Nat) : List Char :=
  Nat.toDigits 16 code

def quotedChar (c : Char) : List Char :=
  if c = '"' then ['\\', '"']
  else if c = '\\' then ['\\', '\\']
  else if c = '\t' then ['\\', 't']
  else if c = '\r' then ['\\', 'r']
  else if c = '\n' then ['\\', 'n']
  else if c.toNat = 0 then ['\\', '0']
  else if CharSet.visible.contains c && !CharSet.graphemeExtend.contains c then [c]
  else ['\\', 'u', '\x7b'] ++ hexDigits c.toNat ++ ['\x7d']

def quoted (text : String) : String :=
  String.ofList ('"' :: text.toList.flatMap quotedChar ++ ['"'])

end Concordance.Text
