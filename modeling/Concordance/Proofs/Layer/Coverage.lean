import Concordance.Proofs.Layer.TokenIndex

/-!
Bytes and tokens.  Tokens start and end between characters, and every byte of a character that is
not blank, the last one of several included, lies within the token it belongs to.
-/

namespace Concordance

open Text

/-- Whether an offset is where a character of a text starts, or where the text ends. -/
def Text.IsBoundary (text : String) (offset : Nat) : Prop :=
  ∃ index ≤ text.toList.length, byteOffset text.toList index = offset

theorem Span.Ordered.low_le_start {low high : Nat} {spans : List Span} {span : Span}
    (ordered : Ordered low high spans) (member : span ∈ spans) : low ≤ span.start := by
  induction spans generalizing low with
  | nil => cases member
  | cons first rest ih =>
      obtain ⟨startLe, startLt, restOrdered⟩ := ordered
      rcases List.mem_cons.mp member with rfl | member
      · exact startLe
      · have later := ih restOrdered member
        omega

theorem Span.Ordered.start_lt_stop {low high : Nat} {spans : List Span} {span : Span}
    (ordered : Ordered low high spans) (member : span ∈ spans) : span.start < span.stop := by
  induction spans generalizing low with
  | nil => cases member
  | cons first rest ih =>
      obtain ⟨-, startLt, restOrdered⟩ := ordered
      rcases List.mem_cons.mp member with rfl | member
      · exact startLt
      · exact ih restOrdered member

namespace TokenIndex

/-! Boundaries. -/

/-- What is true of all places between characters is true of both ends of a token. -/
theorem forall_mem_spansFrom {Kept : Nat → Prop} {chars : List Char} {offset : Nat}
    {start : Option Nat} (begun : ∀ first ∈ start, Kept first)
    (kept : ∀ index ≤ chars.length, Kept (offset + byteOffset chars index)) :
    ∀ span ∈ spansFrom chars offset start, Kept span.start ∧ Kept span.stop := by
  induction chars generalizing offset start with
  | nil =>
      have here : Kept offset := kept 0 (Nat.le_refl 0)
      cases start with
      | none =>
          intro span member
          cases member
      | some first => exact List.forall_mem_singleton.mpr ⟨begun first rfl, here⟩
  | cons c rest ih =>
      have here : Kept offset := kept 0 (Nat.zero_le _)
      have later : ∀ index ≤ rest.length,
          Kept (offset + c.utf8Size + byteOffset rest index) := by
        intro index within
        rw [Nat.add_assoc]
        exact kept (index + 1) (Nat.succ_le_succ within)
      unfold spansFrom
      split
      · cases start with
        | none => exact ih (by simp) later
        | some first =>
            exact List.forall_mem_cons.mpr ⟨⟨begun first rfl, here⟩, ih (by simp) later⟩
      · refine ih ?_ later
        rintro - ⟨⟩
        cases start with
        | none => exact here
        | some first => exact begun first rfl

theorem isBoundary_of_mem_build {text : String} {span : Span}
    (member : span ∈ (build text).spans) :
    IsBoundary text span.start ∧ IsBoundary text span.stop := by
  refine forall_mem_spansFrom nofun ?_ span member
  intro index within
  exact ⟨index, within, (Nat.zero_add _).symm⟩

/-! Tokens of characters. -/

/-- The token being read goes on up to the next character at least. -/
theorem exists_mem_spansFrom_some (chars : List Char) (offset first : Nat) :
    ∃ span ∈ spansFrom chars offset (some first), span.start = first ∧ offset ≤ span.stop := by
  induction chars generalizing offset with
  | nil => exact ⟨_, List.mem_cons_self, rfl, Nat.le_refl offset⟩
  | cons c rest ih =>
      rw [spansFrom]
      split
      · exact ⟨_, List.mem_cons_self, rfl, Nat.le_refl offset⟩
      · obtain ⟨span, member, start, stop⟩ := ih (offset + c.utf8Size)
        exact ⟨span, member, start, Nat.le_trans (Nat.le_add_right _ _) stop⟩

/-- A character that is not blank is part of a token. -/
theorem exists_mem_spansFrom {chars : List Char} {index : Nat} {c : Char}
    (read : chars[index]? = some c) (solid : isBlank c = false) {offset : Nat}
    {start : Option Nat} (earlier : ∀ first ∈ start, first ≤ offset) :
    ∃ span ∈ spansFrom chars offset start, span.start ≤ offset + byteOffset chars index ∧
      offset + byteOffset chars (index + 1) ≤ span.stop := by
  induction chars generalizing index offset start with
  | nil => cases read
  | cons d rest ih =>
      unfold spansFrom
      cases index with
      | zero =>
          cases read
          rw [if_neg (by simp [solid])]
          obtain ⟨span, member, begins, goesOn⟩ :=
            exists_mem_spansFrom_some rest (offset + c.utf8Size) (start.getD offset)
          refine ⟨span, member, ?_, goesOn⟩
          rw [begins]
          cases start with
          | none => exact Nat.le_add_right _ _
          | some first => exact Nat.le_add_right_of_le (earlier first rfl)
      | succ index =>
          rw [List.getElem?_cons_succ] at read
          have shift (index : Nat) : offset + byteOffset (d :: rest) (index + 1) =
              offset + d.utf8Size + byteOffset rest index :=
            (Nat.add_assoc _ _ _).symm
          rw [shift, shift]
          split
          · have unread : ∀ first ∈ none, first ≤ offset + d.utf8Size := by simp
            obtain ⟨span, member, bounds⟩ := ih read unread
            cases start with
            | none => exact ⟨span, member, bounds⟩
            | some first => exact ⟨span, List.mem_cons_of_mem _ member, bounds⟩
          · apply ih read
            rintro - ⟨⟩
            cases start with
            | none => exact Nat.le_add_right _ _
            | some first => exact Nat.le_add_right_of_le (earlier first rfl)

/-- The bytes of a token belong to it. -/
theorem getElem?_cover {length low token k i : Nat} {spans : List Span} {span : Span}
    (ordered : Span.Ordered low length spans) (found : spans[k]? = some span)
    (after : span.start ≤ i) (before : i < span.stop) :
    (cover length spans token low)[i - low]? = some (token + k) := by
  induction spans generalizing low token k with
  | nil => cases found
  | cons first rest ih =>
      obtain ⟨startLe, startLt, restOrdered⟩ := ordered
      rw [cover]
      cases k with
      | zero =>
          cases found
          rw [List.getElem?_append_left (by rw [List.length_replicate]; omega),
            List.getElem?_replicate_of_lt (by omega)]
          rfl
      | succ k =>
          rw [List.getElem?_cons_succ] at found
          have stopLe := restOrdered.low_le_start (List.mem_of_getElem? found)
          rw [List.getElem?_append_right (by rw [List.length_replicate]; omega),
            List.length_replicate, show i - low - (first.stop - low) = i - first.stop by omega,
            ih restOrdered found, Nat.add_assoc, Nat.add_comm 1 k]

/-- Whether a byte belongs to a token and lies within it. -/
def Holds (index : TokenIndex) (offset token : Nat) : Prop :=
  index.tokenOfByte[offset]? = some token ∧
    ∃ span, index.spans[token]? = some span ∧ span.start ≤ offset ∧ offset < span.stop

theorem exists_holds {text : String} {index : Nat} {c : Char}
    (read : text.toList[index]? = some c) (solid : isBlank c = false) {offset : Nat}
    (low : byteOffset text.toList index ≤ offset)
    (high : offset < byteOffset text.toList (index + 1)) :
    ∃ token, (build text).Holds offset token := by
  obtain ⟨span, member, start, stop⟩ :=
    exists_mem_spansFrom read solid (show ∀ first ∈ none, first ≤ 0 from nofun)
  rw [Nat.zero_add] at start stop
  obtain ⟨token, found⟩ := List.mem_iff_getElem?.mp member
  have belongs := @getElem?_cover _ _ 0 _ _ _ _ (ordered_build text) found
    (Nat.le_trans start low) (Nat.lt_of_lt_of_le high stop)
  rw [Nat.sub_zero, Nat.zero_add] at belongs
  exact ⟨token, belongs, span, found, Nat.le_trans start low, Nat.lt_of_lt_of_le high stop⟩

end TokenIndex

end Concordance
