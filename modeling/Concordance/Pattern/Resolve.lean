import Concordance.Pattern.PropertyName
import Concordance.Pattern.Reader
import Concordance.Pattern.Regex

/-!
The meaning of patterns.  Flags hold from where they are changed to the end of the group around;
`Pattern.compile?` starts with all of them off but `unicode`, and with case as its caller says.
Where `unicode` is off, classes have ASCII characters only, and a part that would match anything
else is refused.  So is a pattern of too large a size, as far as the size is known.
-/

namespace Concordance.Pattern

open Concordance.Text

structure Flags where
  caseInsensitive : Bool
  multiLine : Bool := false
  dotMatchesAll : Bool := false
  swapGreed : Bool := false
  unicode : Bool := true
  crlf : Bool := false
deriving DecidableEq, Repr

namespace Flags

def change (flags : Flags) (change : FlagChange) : Flags :=
  match change.flag with
  | .caseInsensitive => { flags with caseInsensitive := change.value }
  | .multiLine => { flags with multiLine := change.value }
  | .dotMatchesAll => { flags with dotMatchesAll := change.value }
  | .swapGreed => { flags with swapGreed := change.value }
  | .unicode => { flags with unicode := change.value }
  | .crlf => { flags with crlf := change.value }
  | .ignoreBlanks => flags

def changeAll (flags : Flags) (changes : List FlagChange) : Flags :=
  changes.foldl change flags

/-- A set of characters with everything alike to them, where case does not matter. -/
def foldedSet (flags : Flags) (set : CharSet) : CharSet :=
  if flags.caseInsensitive then
    if flags.unicode then .folded set else .foldedAscii set
  else set

/-- A set, folded first and then negated. -/
def negatedSet? (flags : Flags) (negated : Bool) (set : CharSet) : Option CharSet :=
  let set := flags.foldedSet set
  if negated then
    if flags.unicode then some (.compl set) else none
  else some set

def char? (flags : Flags) (c : WrittenChar) : Option CharSet :=
  if c.isByte && !flags.unicode && 0x7F < c.char.toNat then none
  else if flags.caseInsensitive && flags.unicode then some (.alikeTo c.char)
  else if flags.caseInsensitive && c.char.toNat < 0x80 then
    some (.foldedAscii (.single c.char))
  else some (.single c.char)

def classChar? (flags : Flags) (c : WrittenChar) : Option Nat :=
  if !flags.unicode && 0x7F < c.char.toNat then none else some c.char.toNat

def shorthand? (flags : Flags) (kind : Shorthand) (negated : Bool) : Option CharSet :=
  if flags.unicode then
    let set :=
      match kind with
      | .digit => CharSet.digit
      | .blank => CharSet.blank
      | .word => CharSet.word
    some (if negated then .compl set else set)
  else if negated then none
  else
    match kind with
    | .digit => some (.interval 0x30 0x39)
    | .blank => some (.intervals [(0x09, 0x0D), (0x20, 0x20)])
    | .word => some (.intervals [(0x30, 0x39), (0x41, 0x5A), (0x5F, 0x5F), (0x61, 0x7A)])

def dot? (flags : Flags) : Option CharSet :=
  if !flags.unicode then none
  else if flags.dotMatchesAll then some .all
  else if flags.crlf then some (.compl (.intervals [(0x0A, 0x0A), (0x0D, 0x0D)]))
  else some (.compl (.interval 0x0A 0x0A))

def look (flags : Flags) (kind : Assertion) : Look :=
  let ascii := !flags.unicode
  match kind with
  | .caret => if flags.multiLine then .lineStart flags.crlf else .textStart
  | .dollar => if flags.multiLine then .lineEnd flags.crlf else .textEnd
  | .textStart => .textStart
  | .textEnd => .textEnd
  | .wordBoundary => .wordBoundary ascii
  | .notWordBoundary => .notWordBoundary ascii
  | .wordStart => .wordStart ascii
  | .wordEnd => .wordEnd ascii
  | .wordStartHalf => .wordStartHalf ascii
  | .wordEndHalf => .wordEndHalf ascii

end Flags

mutual

def ClassAst.resolve? (flags : Flags) : ClassAst → Option CharSet
  | .empty => some .none
  | .char c => (flags.classChar? c).map fun code => .interval code code
  | .range first last => do
    return .interval (← flags.classChar? first) (← flags.classChar? last)
  | .ascii intervals negated => flags.negatedSet? negated (.intervals intervals)
  | .shorthand kind negated => flags.shorthand? kind negated
  | .property query negated =>
    if flags.unicode then query.chars?.bind (flags.negatedSet? negated) else none
  | .bracketed negated body => (body.resolve? flags).bind (flags.negatedSet? negated)
  | .union items => ClassAst.resolveAll? flags items
  | .operation op left right => do
    let left := flags.foldedSet (← left.resolve? flags)
    let right := flags.foldedSet (← right.resolve? flags)
    match op with
    | .intersection => return .inter left right
    | .difference => return .diff left right
    | .symmetricDifference => return .symmDiff left right

def ClassAst.resolveAll? (flags : Flags) : List ClassAst → Option CharSet
  | [] => some .none
  | item :: rest => do
    return .union (← item.resolve? flags) (← ClassAst.resolveAll? flags rest)

end

mutual

/-- The expression of a part of a pattern, and the flags in force after it. -/
def Ast.resolve? (flags : Flags) : Ast → Option (Regex × Flags)
  | .empty => some (.empty, flags)
  | .flags changes => some (.empty, flags.changeAll changes)
  | .char c => (flags.char? c).map fun set => (.set set, flags)
  | .dot => flags.dot?.map fun set => (.set set, flags)
  | .assertion kind => some (.look (flags.look kind), flags)
  | .characters body => (body.resolve? flags).map fun set => (.set set, flags)
  | .repetition greedy least most body => do
    let (body, after) ← body.resolve? flags
    return (.repetition (greedy != flags.swapGreed) body least most, after)
  | .group changes body => do
    let (body, _) ← body.resolve? (flags.changeAll changes)
    return (body, flags)
  | .concat items => do
    let (items, after) ← Ast.resolveAll? flags items
    return (.sequence items, after)
  | .alternation branches => do
    let (branches, after) ← Ast.resolveAll? flags branches
    return (.firstOf branches, after)

/-- The expressions of parts that follow each other, flags being handed from each to the next. -/
def Ast.resolveAll? (flags : Flags) : List Ast → Option (List Regex × Flags)
  | [] => some ([], flags)
  | item :: rest => do
    let (first, flags) ← item.resolve? flags
    let (others, flags) ← Ast.resolveAll? flags rest
    return (first :: others, flags)

end

/-! The size of a pattern, repetitions being written out.  A class counts for about as many units as
there are steps in the encodings of its characters.  This only approximates the size of a compiled
expression, for which case matters besides, so close to the limit a pattern can be taken that is too
large, or refused though it is not. -/

def maxSize : Nat := 327680

def WrittenChar.size (c : WrittenChar) : Nat :=
  if c.char.toNat < 0x80 then 1 else 2

def Shorthand.size : Shorthand → (negated : Bool) → Nat
  | .digit, false => 162
  | .digit, true => 400
  | .blank, false => 21
  | .blank, true => 60
  | .word, _ => 1500

mutual

def ClassAst.size : ClassAst → Nat
  | .empty => 1
  | .char c => c.size
  | .range _ last => if last.char.toNat < 0x80 then 1 else 8
  | .ascii _ negated => if negated then 30 else 1
  | .shorthand kind negated => kind.size negated
  | .property _ _ => 1000
  | .bracketed negated body => if negated then body.size + 30 else body.size
  | .union items => ClassAst.sizeOfAll items
  | .operation _ left right => left.size + right.size

def ClassAst.sizeOfAll : List ClassAst → Nat
  | [] => 0
  | item :: rest => item.size + ClassAst.sizeOfAll rest

end

mutual

def Ast.size : Ast → Nat
  | .char c => c.size
  | .dot => 31
  | .characters body => body.size
  | .repetition _ least most body =>
    match most with
    | some most => body.size * most + (most - least)
    | none => body.size * max least 1 + 2
  | .group _ body => body.size + 2
  | .concat items => Ast.sizeOfAll items
  | .alternation branches => Ast.sizeOfAll branches + 2
  | _ => 1

def Ast.sizeOfAll : List Ast → Nat
  | [] => 0
  | item :: rest => item.size + Ast.sizeOfAll rest

end

/-- The expression that a pattern stands for.  Whether there is one does not depend on
`caseSensitive`. -/
def compile? (caseSensitive : Bool) (pattern : String) : Option Regex := do
  let ast ← Ast.parse? pattern
  if ast.size ≤ maxSize then
    let (regex, _) ← ast.resolve? { caseInsensitive := !caseSensitive }
    return regex
  else none

end Concordance.Pattern
