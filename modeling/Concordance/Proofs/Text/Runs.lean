import Concordance.Text.Blank
import Concordance.Text.Offset

/-!
Runs of a text: its parts without blanks that cannot be made longer.  A text is read up to its first
blank, which ends the first run, and every later run comes after it.  Bytes are counted by the
characters they are part of, and the bytes of a part are those of its slice.
-/

namespace Concordance.Text

/-! Characters of bytes. -/

/-- The character that a byte is part of. -/
def charAt? : List Char → (offset : Nat) → Option Char
  | [], _ => none
  | c :: rest, offset =>
    if offset < c.utf8Size then some c else charAt? rest (offset - c.utf8Size)

theorem charAt?_append_left {before after : List Char} {offset : Nat}
    (within : offset < byteLength before) :
    charAt? (before ++ after) offset = charAt? before offset := by
  induction before generalizing offset with
  | nil => cases within
  | cons c rest ih =>
      rw [byteLength_cons] at within
      by_cases here : offset < c.utf8Size
      · simp [charAt?, here]
      · simp [charAt?, here, ih (show offset - c.utf8Size < byteLength rest by omega)]

theorem charAt?_append_right (before after : List Char) (offset : Nat) :
    charAt? (before ++ after) (byteLength before + offset) = charAt? after offset := by
  induction before with
  | nil => simp
  | cons c rest ih =>
      rw [List.cons_append, charAt?, byteLength_cons, if_neg (by omega), ← ih]
      congr 1
      omega

theorem mem_of_charAt? {chars : List Char} {offset : Nat} {c : Char}
    (read : charAt? chars offset = some c) : c ∈ chars := by
  induction chars generalizing offset with
  | nil => cases read
  | cons d rest ih =>
      rw [charAt?] at read
      split at read
      · cases read
        exact List.mem_cons_self
      · exact List.mem_cons_of_mem d (ih read)

/-- A byte lies between the start of its character and the start of the next one. -/
theorem exists_index_of_charAt? {chars : List Char} {offset : Nat} {c : Char}
    (read : charAt? chars offset = some c) :
    ∃ index, chars[index]? = some c ∧ byteOffset chars index ≤ offset ∧
      offset < byteOffset chars (index + 1) := by
  induction chars generalizing offset with
  | nil => cases read
  | cons d rest ih =>
      rw [charAt?] at read
      split at read
      · next here =>
        cases read
        exact ⟨0, rfl, Nat.zero_le offset, here⟩
      · next beyond =>
        obtain ⟨index, found, low, high⟩ := ih read
        have shift (index : Nat) :
            byteOffset (d :: rest) (index + 1) = d.utf8Size + byteOffset rest index := rfl
        refine ⟨index + 1, found, ?_, ?_⟩
        · rw [shift]
          omega
        · rw [shift]
          omega

theorem isSome_charAt?_iff {chars : List Char} {offset : Nat} :
    (charAt? chars offset).isSome = true ↔ offset < byteLength chars := by
  induction chars generalizing offset with
  | nil => simp [charAt?]
  | cons c rest ih =>
      rw [charAt?, byteLength_cons]
      split
      · next here => simp [Nat.lt_add_right _ here]
      · rw [ih]
        omega

/-! Slices. -/

theorem sliceFrom_of_stop_le {chars : List Char} {offset start stop : Nat} (le : stop ≤ offset) :
    sliceFrom chars offset start stop = [] := by
  induction chars generalizing offset with
  | nil => rfl
  | cons c rest ih =>
      have late : ¬(start ≤ offset ∧ offset < stop) := by omega
      simp [sliceFrom, late, ih (Nat.le_add_right_of_le le)]

theorem sliceFrom_append_of_le_start (before after : List Char) {offset start stop : Nat}
    (le : offset + byteLength before ≤ start) :
    sliceFrom (before ++ after) offset start stop =
      sliceFrom after (offset + byteLength before) start stop := by
  induction before generalizing offset with
  | nil => rfl
  | cons c rest ih =>
      have positive := c.utf8Size_pos
      rw [byteLength_cons, ← Nat.add_assoc] at le ⊢
      have early : ¬(start ≤ offset ∧ offset < stop) := by omega
      simp [sliceFrom, early, ih le]

theorem sliceFrom_append_of_start_le (run after : List Char) {offset start : Nat}
    (le : start ≤ offset) :
    sliceFrom (run ++ after) offset start (offset + byteLength run) = run := by
  induction run generalizing offset with
  | nil => exact sliceFrom_of_stop_le (Nat.le_refl offset)
  | cons c rest ih =>
      have positive := c.utf8Size_pos
      have inside : start ≤ offset ∧ offset < offset + byteLength (c :: rest) := by
        rw [byteLength_cons]
        omega
      rw [List.cons_append, sliceFrom, if_pos inside, byteLength_cons, ← Nat.add_assoc,
        ih (Nat.le_add_right_of_le le)]

theorem slice_of_split {text : String} {before run after : List Char}
    (split : text.toList = before ++ run ++ after) :
    slice text (byteLength before) (byteLength before + byteLength run) = String.ofList run := by
  rw [slice, split, List.append_assoc, sliceFrom_append_of_le_start _ _ (by omega), Nat.zero_add,
    sliceFrom_append_of_start_le _ _ (Nat.le_refl _)]

/-! Runs. -/

/-- A part of a text without blanks that cannot be made longer, between what is before it and what
is after it. -/
structure IsRun (chars before run after : List Char) : Prop where
  split : chars = before ++ run ++ after
  nonempty : run ≠ []
  solid : ∀ c ∈ run, isBlank c = false
  left : ∀ c ∈ before.getLast?, isBlank c = true
  right : ∀ c ∈ after.head?, isBlank c = true

private theorem eq_nil_of_getLast? {list : List Char} (solid : ∀ c ∈ list, isBlank c = false)
    (blank : ∀ c ∈ list.getLast?, isBlank c = true) : list = [] := by
  rcases list.eq_nil_or_concat with rfl | ⟨others, c, rfl⟩
  · rfl
  · simp [solid c (by simp)] at blank

private theorem eq_nil_of_head? {list others : List Char} (solid : ∀ c ∈ list, isBlank c = false)
    (blank : ∀ c ∈ (list ++ others).head?, isBlank c = true) : list = [] := by
  cases list with
  | nil => rfl
  | cons c rest => simp [solid c List.mem_cons_self] at blank

private theorem forall_getLast?_iff {run lead : List Char} {c : Char} (blank : isBlank c = true) :
    (∀ d ∈ (run ++ c :: lead).getLast?, isBlank d = true) ↔
      ∀ d ∈ lead.getLast?, isBlank d = true := by
  rw [List.getLast?_append, List.getLast?_cons]
  cases lead.getLast? <;> simp [blank]

variable {run before word after rest : List Char} {c : Char}

/-- Without a blank there is only one run. -/
theorem isRun_solid_iff (solid : ∀ c ∈ run, isBlank c = false) :
    IsRun run before word after ↔ run ≠ [] ∧ before = [] ∧ word = run ∧ after = [] := by
  constructor
  · rintro ⟨rfl, nonempty, -, left, right⟩
    simp only [List.mem_append] at solid
    obtain rfl := eq_nil_of_getLast? (fun c member => solid c (.inl (.inl member))) left
    obtain rfl := @eq_nil_of_head? after [] (fun c member => solid c (.inr member))
      (by simpa using right)
    simp [nonempty]
  · rintro ⟨nonempty, rfl, rfl, rfl⟩
    exact ⟨by simp, nonempty, solid, nofun, nofun⟩

/-- Up to the first blank there is one run, if there is anything; all others come after it. -/
theorem isRun_append_cons_iff (solid : ∀ c ∈ run, isBlank c = false) (blank : isBlank c = true) :
    IsRun (run ++ c :: rest) before word after ↔
      (run ≠ [] ∧ before = [] ∧ word = run ∧ after = c :: rest) ∨
        ∃ lead, before = run ++ c :: lead ∧ IsRun rest lead word after := by
  constructor
  · rintro ⟨split, nonempty, wordSolid, left, right⟩
    rw [List.append_assoc] at split
    rcases List.append_eq_append_iff.mp split with ⟨lead, rfl, others⟩ | ⟨tail, rfl, others⟩
    · cases lead with
      | nil =>
          have blankFirst : ∀ d ∈ (word ++ after).head?, isBlank d = true := by
            simp [show word ++ after = c :: rest from others.symm, blank]
          exact absurd (eq_nil_of_head? wordSolid blankFirst) nonempty
      | cons d lead =>
          obtain ⟨rfl, rfl⟩ := List.cons.inj others
          exact .inr ⟨lead, rfl, (List.append_assoc _ _ _).symm, nonempty, wordSolid,
            (forall_getLast?_iff blank).mp left, right⟩
    · obtain rfl :=
        eq_nil_of_getLast? (fun d member => solid d (List.mem_append_left _ member)) left
      rw [List.nil_append] at solid
      rcases List.append_eq_append_iff.mp others with ⟨more, rfl, rfl⟩ | ⟨more, rfl, shared⟩
      · obtain rfl :=
          eq_nil_of_head? (fun d member => solid d (List.mem_append_right _ member)) right
        exact .inl ⟨by simpa using nonempty, rfl, by simp, rfl⟩
      · cases more with
        | nil => exact .inl ⟨by simpa using nonempty, rfl, by simp, by simpa using shared.symm⟩
        | cons d more =>
            obtain ⟨rfl, -⟩ := List.cons.inj shared
            simp [wordSolid c (by simp)] at blank
  · rintro (⟨nonempty, rfl, rfl, rfl⟩ | ⟨lead, rfl, ⟨rfl, nonempty, wordSolid, left, right⟩⟩)
    · exact ⟨by simp, nonempty, solid, nofun, by simpa using blank⟩
    · exact ⟨by simp, nonempty, wordSolid, (forall_getLast?_iff blank).mpr left, right⟩

end Concordance.Text
