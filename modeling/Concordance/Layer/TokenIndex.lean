import Concordance.Text.Blank
import Concordance.Text.Offset

/-!
Tokens of a text: its maximal runs of characters that are not blank, as spans of bytes, and the
token each byte belongs to.  A byte between two tokens belongs to the later one, and one after the
last token to the last.
-/

namespace Concordance

open Text

/-- The bytes from `start` up to, but not at, `stop`. -/
structure Span where
  start : Nat
  stop : Nat
deriving DecidableEq, Repr, Inhabited

structure TokenIndex where
  tokenOfByte : List Nat
  spans : List Span
deriving DecidableEq, Repr, Inhabited

namespace TokenIndex

/-- The tokens of the characters from a byte offset on, `start` being where the token being read
began, if one is. -/
def spansFrom : List Char → (offset : Nat) → (start : Option Nat) → List Span
  | [], _, none => []
  | [], offset, some start => [⟨start, offset⟩]
  | c :: rest, offset, start =>
    let next := offset + c.utf8Size
    if isBlank c then
      match start with
      | some start => ⟨start, offset⟩ :: spansFrom rest next none
      | none => spansFrom rest next none
    else spansFrom rest next (some (start.getD offset))

/-- The tokens of the bytes from `offset` to the end of the text, `token` being the first token of
the spans given. -/
def cover (length : Nat) : List Span → (token offset : Nat) → List Nat
  | [], token, offset => List.replicate (length - offset) (token - 1)
  | span :: rest, token, offset =>
    List.replicate (span.stop - offset) token ++ cover length rest (token + 1) span.stop

def build (text : String) : TokenIndex :=
  let spans := spansFrom text.toList 0 none
  ⟨cover (byteLength text.toList) spans 0 0, spans⟩

def starts (index : TokenIndex) : List Nat :=
  index.spans.map Span.start

end TokenIndex

end Concordance
