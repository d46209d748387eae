/-!
Byte offsets.  The length of a text is that of its UTF-8 encoding, and every character starts at the
sum of the lengths before it.
-/

namespace Concordance.Text

def byteLength : List Char → Nat
  | [] => 0
  | c :: rest => c.utf8Size + byteLength rest

/-- The byte offset of the character at an index; past the end, the length. -/
def byteOffset (chars : List Char) (index : Nat) : Nat :=
  byteLength (chars.take index)

/-- The characters that start at an offset from `start` up to, but not at, `stop`, the first
character of the list being at `offset`. -/
def sliceFrom : List Char → (offset start stop : Nat) → List Char
  | [], _, _, _ => []
  | c :: rest, offset, start, stop =>
    let later := sliceFrom rest (offset + c.utf8Size) start stop
    if start ≤ offset ∧ offset < stop then c :: later else later

def slice (text : String) (start stop : Nat) : String :=
  String.ofList (sliceFrom text.toList 0 start stop)

@[simp] theorem byteLength_nil : byteLength [] = 0 := rfl

@[simp] theorem byteLength_cons (c : Char) (rest : List Char) :
    byteLength (c :: rest) = c.utf8Size + byteLength rest := rfl

@[simp] theorem byteLength_append (left right : List Char) :
    byteLength (left ++ right) = byteLength left + byteLength right := by
  induction left with
  | nil => simp
  | cons c rest ih => simp [ih, Nat.add_assoc]

theorem byteOffset_le (chars : List Char) (index : Nat) :
    byteOffset chars index ≤ byteLength chars := by
  have split := byteLength_append (chars.take index) (chars.drop index)
  rw [List.take_append_drop] at split
  rw [byteOffset]
  omega

theorem byteOffset_mono {chars : List Char} {first last : Nat} (le : first ≤ last) :
    byteOffset chars first ≤ byteOffset chars last := by
  have within := byteOffset_le (chars.take last) first
  rwa [byteOffset, List.take_take, Nat.min_eq_left le] at within

theorem byteOffset_lt {chars : List Char} {first last : Nat} (less : first < last)
    (within : last ≤ chars.length) : byteOffset chars first < byteOffset chars last := by
  induction chars generalizing first last with
  | nil => exact absurd within (by simp only [List.length_nil]; omega)
  | cons c rest ih =>
      obtain ⟨last, rfl⟩ := Nat.exists_eq_succ_of_ne_zero (Nat.ne_zero_of_lt less)
      rw [List.length_cons] at within
      cases first with
      | zero => exact Nat.lt_of_lt_of_le c.utf8Size_pos (Nat.le_add_right _ _)
      | succ first =>
          exact Nat.add_lt_add_left
            (ih (Nat.lt_of_succ_lt_succ less) (Nat.le_of_succ_le_succ within)) c.utf8Size

end Concordance.Text
