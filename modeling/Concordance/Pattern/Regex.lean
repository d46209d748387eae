import Concordance.Text.Property

/-!
Regular expressions and what they match.  `ends` lists the positions where a match from a given
position may end, the preferred one first and each of them once: of two alternatives the left one is
preferred, and a loop prefers to go on or, if it is not greedy, to stop.  `spans` scans a text for
matches that do not overlap, from left to right.  Positions count characters.
-/

namespace Concordance.Pattern

open Concordance.Text

inductive Look where
  | textStart
  | textEnd
  /-- With `crlf`, a line also ends at a carriage return, and the pair of both is one ending. -/
  | lineStart (crlf : Bool)
  | lineEnd (crlf : Bool)
  /-- With `ascii`, words have ASCII characters only. -/
  | wordBoundary (ascii : Bool)
  | notWordBoundary (ascii : Bool)
  | wordStart (ascii : Bool)
  | wordEnd (ascii : Bool)
  | wordStartHalf (ascii : Bool)
  | wordEndHalf (ascii : Bool)
deriving DecidableEq, Repr

def isAsciiWord (c : Char) : Bool :=
  ('0' ≤ c && c ≤ '9') || ('A' ≤ c && c ≤ 'Z') || c == '_' || ('a' ≤ c && c ≤ 'z')

def isWordSide (ascii : Bool) (side : Option Char) : Bool :=
  side.any (if ascii then isAsciiWord else isWord)

namespace Look

/-- Whether a condition holds between two characters; a missing one is the edge of the text. -/
def holds (look : Look) (before after : Option Char) : Bool :=
  match look with
  | textStart => before.isNone
  | textEnd => after.isNone
  | lineStart false => before.isNone || before == some '\n'
  | lineStart true =>
    before.isNone || before == some '\n' || (before == some '\r' && after != some '\n')
  | lineEnd false => after.isNone || after == some '\n'
  | lineEnd true =>
    after.isNone || after == some '\r' || (after == some '\n' && before != some '\r')
  | wordBoundary ascii => isWordSide ascii before != isWordSide ascii after
  | notWordBoundary ascii => isWordSide ascii before == isWordSide ascii after
  | wordStart ascii => !isWordSide ascii before && isWordSide ascii after
  | wordEnd ascii => isWordSide ascii before && !isWordSide ascii after
  | wordStartHalf ascii => !isWordSide ascii before
  | wordEndHalf ascii => !isWordSide ascii after

end Look

inductive Regex where
  | empty
  | set (chars : CharSet)
  | look (condition : Look)
  | cat (first second : Regex)
  | alt (preferred other : Regex)
  /-- One or more times the body. -/
  | plus (greedy : Bool) (body : Regex)
deriving Repr

/-- What remains to be done in a loop: to try the body at a position, to decide at the end of the
body whether to go on, or to stop there. -/
inductive Visit where
  | enter (position : Nat)
  | leave (position : Nat)
  | stop (position : Nat)

/-- The positions where a loop stops, in order of preference.  The body is entered once at every
position and left once at every position, so a body that matches nothing cannot go round forever. -/
def loop (body : Nat → List Nat) (greedy : Bool) :
    (fuel : Nat) → List Visit → (entered left : List Nat) → List Nat
  | 0, _, _, _ => []
  | _ + 1, [], _, _ => []
  | fuel + 1, .enter i :: rest, entered, left =>
    if entered.contains i then loop body greedy fuel rest entered left
    else loop body greedy fuel ((body i).map .leave ++ rest) (i :: entered) left
  | fuel + 1, .leave i :: rest, entered, left =>
    if left.contains i then loop body greedy fuel rest entered left
    else if greedy then loop body greedy fuel (.enter i :: .stop i :: rest) entered (i :: left)
    else loop body greedy fuel (.stop i :: .enter i :: rest) entered (i :: left)
  | fuel + 1, .stop i :: rest, entered, left =>
    i :: loop body greedy fuel rest entered left

namespace Regex

def fail : Regex := set CharSet.none

def before? (text : Array Char) (i : Nat) : Option Char :=
  if i = 0 then none else text[i - 1]?

/-- The positions where a match from `i` may end, preferred ones first. -/
def ends : Regex → Array Char → Nat → List Nat
  | empty, _, i => [i]
  | set chars, text, i =>
    match text[i]? with
    | some c => if chars.contains c then [i + 1] else []
    | none => []
  | look condition, text, i => if condition.holds (before? text i) text[i]? then [i] else []
  | cat first second, text, i => ((ends first text i).flatMap (ends second text)).eraseDups
  | alt preferred other, text, i => ends preferred text i ++ ends other text i
  | plus greedy body, text, i =>
    loop (fun j => (ends body text j).eraseDups) greedy ((text.size + 3) * (text.size + 3) * 2)
      [.enter i] [] []

def end? (regex : Regex) (text : Array Char) (i : Nat) : Option Nat :=
  (regex.ends text i).head?

/-- A part of a text, as positions of characters. -/
structure Found where
  start : Nat
  stop : Nat
deriving DecidableEq, Repr

/-- The matches from the positions still to be tried.  A match starts at the end of the last one at
the earliest, and is not an empty one there. -/
def spansFrom (regex : Regex) (text : Array Char) :
    (positions : List Nat) → (last : Option Nat) → List Found
  | [], _ => []
  | i :: rest, last =>
    if i < last.getD 0 then spansFrom regex text rest last
    else
      match regex.end? text i with
      | none => spansFrom regex text rest last
      | some j =>
        if j = i ∧ last = some i then spansFrom regex text rest last
        else ⟨i, j⟩ :: spansFrom regex text rest (some j)

def spans (regex : Regex) (text : Array Char) : List Found :=
  regex.spansFrom text (List.range (text.size + 1)) none

/-! Combinations of expressions. -/

def literal (caseSensitive : Bool) (chars : List Char) : Regex :=
  chars.foldl (fun regex c => cat regex (set (CharSet.literal caseSensitive c))) empty

def firstOf : List Regex → Regex
  | [] => fail
  | [regex] => regex
  | regex :: rest => alt regex (firstOf rest)

def sequence (regexes : List Regex) : Regex :=
  regexes.foldl cat empty

def optional (greedy : Bool) (body : Regex) : Regex :=
  if greedy then alt body empty else alt empty body

def star (greedy : Bool) (body : Regex) : Regex :=
  optional greedy (plus greedy body)

def times (start body : Regex) (count : Nat) : Regex :=
  Nat.repeat (cat · body) count start

def upTo (greedy : Bool) (body : Regex) (count : Nat) : Regex :=
  Nat.repeat (fun rest => optional greedy (cat body rest)) count empty

/-- From `least` to `most` times the body, without an upper bound if `most` is missing. -/
def repetition (greedy : Bool) (body : Regex) (least : Nat) (most : Option Nat) : Regex :=
  match most with
  | some most => cat (times empty body least) (upTo greedy body (most - least))
  | none =>
    if least = 0 then star greedy body
    else cat (times empty body (least - 1)) (plus greedy body)

end Regex

end Concordance.Pattern
