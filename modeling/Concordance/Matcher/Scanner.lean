import Concordance.Layer.Document
import Concordance.Match.Basic
import Concordance.Pattern.Resolve

/-!
Scanners, the leaves of matchers.  A scanner looks for a regular expression in one layer; every
occurrence, less the blanks at its ends, becomes the match of all tokens it touches.
-/

namespace Concordance

open Text Pattern

structure Scanner where
  key : LayerKey
  regex : Regex
deriving Repr

namespace Scanner

/-- Whether a character at the edge of a term is to stand at a word boundary. -/
def isTermWord (c : Char) : Bool :=
  isAlphanumeric c || c == '_'

def edge (wholeWord : Bool) (side : Option Char) : Regex :=
  if wholeWord && side.any isTermWord then .look (.wordBoundary false) else .empty

def termRegex (caseSensitive wholeWord : Bool) (term : String) : Regex :=
  let chars := term.toList
  .cat (.cat (edge wholeWord chars.head?) (.literal caseSensitive chars))
    (edge wholeWord chars.getLast?)

/-- Terms by decreasing length in bytes; terms of one length keep their order. -/
def longestFirst (terms : List String) : List String :=
  terms.mergeSort fun left right => byteLength right.toList ≤ byteLength left.toList

/-- Looks for any of several terms, the longest one that stands at a place.  Escaped terms are taken
to be an expression that compiles, however long they are. -/
def ofTerms (terms : List String) (path : String) (caseSensitive wholeWord : Bool) : Scanner :=
  ⟨.parse path, .firstOf ((longestFirst terms).map (termRegex caseSensitive wholeWord))⟩

def ofPattern (pattern path : String) (caseSensitive : Bool) : Except Error Scanner :=
  match compile? caseSensitive pattern with
  | some regex => .ok ⟨.parse path, regex⟩
  | none => .error .badPattern

/-- A part of a text without the blanks at its ends, if anything is left. -/
def trim? (chars : List Char) (found : Regex.Found) : Option Regex.Found :=
  let part := (chars.drop found.start).take (found.stop - found.start)
  let start := found.start + (part.takeWhile isBlank).length
  let stop := found.stop - (part.reverse.takeWhile isBlank).length
  if start < stop then some ⟨start, stop⟩ else none

def occurrences (scanner : Scanner) (text : String) : List Span :=
  let chars := text.toList
  let found := (scanner.regex.spans chars.toArray).filterMap (trim? chars)
  found.map fun part => ⟨byteOffset chars part.start, byteOffset chars part.stop⟩

end Scanner

namespace Layer

/-- The match of the tokens that some bytes, at least one, belong to. -/
def matchOf (layer : Layer) (key : LayerKey) (bytes : Span) : Except Error Match := do
  let first ← layer.tokenAt key bytes.start
  let last ← layer.tokenAt key (bytes.stop - 1)
  let tokens := List.range' first (last + 1 - first)
  let texts ← tokens.mapM (layer.tokenText key)
  return ⟨tokens, List.replicate tokens.length key.feature, texts⟩

end Layer

namespace Scanner

/-- All matches in a document, in order.  The token index of the layer is needed only if there is a
match. -/
def find (scanner : Scanner) (document : Document) : Traced Error (List Match) := do
  let layer ← document.layer scanner.key
  match scanner.occurrences layer.text with
  | [] => return []
  | occurrences =>
    Traced.needIndex scanner.key
    let found ← (occurrences.mapM (layer.matchOf scanner.key) : Except Error (List Match))
    return Match.keepLast found

end Scanner

end Concordance
