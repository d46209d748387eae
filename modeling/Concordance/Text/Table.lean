/-!
Tables of code points, written as text.  A word `41-5A` stands for an interval, `100~12E` for every
second code point of an interval, `5F` for one code point; a further mark and number may follow a
word.  Numbers are hexadecimal.  Tables are sorted, and are searched by halving.
-/

namespace Concordance.Text

def hexDigit? (c : Char) : Option Nat :=
  if '0' ≤ c ∧ c ≤ '9' then some (c.toNat - '0'.toNat)
  else if 'A' ≤ c ∧ c ≤ 'F' then some (c.toNat - 'A'.toNat + 10)
  else if 'a' ≤ c ∧ c ≤ 'f' then some (c.toNat - 'a'.toNat + 10)
  else none

def decimalDigit? (c : Char) : Option Nat :=
  if '0' ≤ c ∧ c ≤ '9' then some (c.toNat - '0'.toNat) else none

/-- The numbers of each word, every number after the mark that precedes it; the word being read
comes as a second argument, last number first. -/
def markedNumbers : List Char → List (Char × Nat) → List (List (Char × Nat))
  | [], word => [word.reverse]
  | c :: rest, word =>
    if c = ' ' then word.reverse :: markedNumbers rest []
    else
      match hexDigit? c, word with
      | some digit, (mark, number) :: earlier =>
        markedNumbers rest ((mark, number * 16 + digit) :: earlier)
      | some digit, [] => markedNumbers rest [(' ', digit)]
      | none, _ => markedNumbers rest ((c, 0) :: word)

/-- The last entry whose key is at most `code`, in a table sorted by key. -/
def lastAtMost? {α : Type} (table : Array α) (key : α → Nat) (code : Nat) : Option α :=
  search table.size 0 table.size
where
  /-- Entries before `low` have small keys, entries from `high` on have large ones. -/
  search : Nat → Nat → Nat → Option α
    | 0, low, _ => if low = 0 then none else table[low - 1]?
    | fuel + 1, low, high =>
      if low < high then
        let middle := (low + high) / 2
        match table[middle]? with
        | some entry =>
          if key entry ≤ code then search fuel (middle + 1) high else search fuel low middle
        | none => none
      else if low = 0 then none
      else table[low - 1]?

/-- Every `step`-th code point from `first` to `last`. -/
structure Stretch where
  first : Nat
  last : Nat
  step : Nat
deriving DecidableEq, Repr

namespace Stretch

def contains (stretch : Stretch) (code : Nat) : Bool :=
  stretch.first ≤ code && code ≤ stretch.last && (code - stretch.first) % stretch.step == 0

def ofNumbers? : List (Char × Nat) → Option Stretch
  | [(_, code)] => some ⟨code, code, 1⟩
  | [(_, first), ('-', last)] => some ⟨first, last, 1⟩
  | [(_, first), ('~', last)] => some ⟨first, last, 2⟩
  | _ => none

end Stretch

/-- A set of code points as stretches in increasing order. -/
structure CodeTable where
  stretches : Array Stretch
deriving DecidableEq, Repr

namespace CodeTable

def ofText (text : String) : CodeTable :=
  ⟨((markedNumbers text.toList []).filterMap Stretch.ofNumbers?).toArray⟩

def contains (table : CodeTable) (code : Nat) : Bool :=
  ((lastAtMost? table.stretches Stretch.first code).map (·.contains code)).getD false

end CodeTable

end Concordance.Text
