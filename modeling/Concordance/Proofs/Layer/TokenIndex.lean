import Concordance.Layer.Document

/-!
Look-ups of tokens.  The tokens of a text are ordered within it, every byte of a text that has
tokens belongs to one of them, and so the bytes of such a text are never out of range.
-/

namespace Concordance

open Text

namespace Span

/-- Spans that are not empty and follow each other between two offsets. -/
def Ordered : (low high : Nat) → List Span → Prop
  | low, high, [] => low ≤ high
  | low, high, span :: rest =>
    low ≤ span.start ∧ span.start < span.stop ∧ Ordered span.stop high rest

theorem Ordered.of_le {low lower high : Nat} {spans : List Span} (ordered : Ordered low high spans)
    (le : lower ≤ low) : Ordered lower high spans := by
  cases spans with
  | nil => exact Nat.le_trans le ordered
  | cons span rest => exact ⟨Nat.le_trans le ordered.1, ordered.2⟩

theorem Ordered.low_le_high {low high : Nat} {spans : List Span}
    (ordered : Ordered low high spans) :
    low ≤ high := by
  induction spans generalizing low with
  | nil => exact ordered
  | cons span rest ih =>
      obtain ⟨startLe, startLt, restOrdered⟩ := ordered
      have stopLe := ih restOrdered
      omega

end Span

namespace TokenIndex

theorem ordered_spansFrom (chars : List Char) (offset : Nat) (start : Option Nat)
    (earlier : ∀ first ∈ start, first < offset) :
    Span.Ordered (start.getD offset) (offset + byteLength chars)
      (spansFrom chars offset start) := by
  induction chars generalizing offset start with
  | nil =>
      cases start with
      | none => exact Nat.le_add_right offset 0
      | some first => exact ⟨Nat.le_refl first, earlier first rfl, Nat.le_add_right offset 0⟩
  | cons c rest ih =>
      have positive := c.utf8Size_pos
      rw [byteLength_cons, ← Nat.add_assoc]
      unfold spansFrom
      split
      · have restOrdered := (ih (offset + c.utf8Size) none nofun).of_le
          (Nat.le_add_right offset c.utf8Size)
        cases start with
        | none => exact restOrdered
        | some first => exact ⟨Nat.le_refl first, earlier first rfl, restOrdered⟩
      · refine ih (offset + c.utf8Size) (some (start.getD offset)) ?_
        rintro - ⟨⟩
        cases start with
        | none => exact Nat.lt_add_of_pos_right positive
        | some first => exact Nat.lt_add_right c.utf8Size (earlier first rfl)

theorem spansFrom_ne_nil {chars : List Char} {c : Char} (member : c ∈ chars)
    (solid : isBlank c = false) (offset : Nat) (start : Option Nat) :
    spansFrom chars offset start ≠ [] := by
  have started (chars : List Char) (offset first : Nat) :
      spansFrom chars offset (some first) ≠ [] := by
    induction chars generalizing offset with
    | nil => exact List.cons_ne_nil _ _
    | cons c rest ih =>
        rw [spansFrom]
        split
        · exact List.cons_ne_nil _ _
        · exact ih _
  induction chars generalizing offset start with
  | nil => cases member
  | cons d rest ih =>
      unfold spansFrom
      split
      · next blank =>
        rcases List.mem_cons.mp member with rfl | member
        · rw [solid] at blank
          cases blank
        · cases start with
          | none => exact ih member _ none
          | some first => exact List.cons_ne_nil _ _
      · exact started rest _ _

theorem length_cover {length offset : Nat} {spans : List Span}
    (ordered : Span.Ordered offset length spans) (token : Nat) :
    (cover length spans token offset).length = length - offset := by
  induction spans generalizing offset token with
  | nil => rw [cover, List.length_replicate]
  | cons span rest ih =>
      obtain ⟨startLe, startLt, restOrdered⟩ := ordered
      have stopLe := restOrdered.low_le_high
      rw [cover, List.length_append, List.length_replicate, ih restOrdered]
      omega

theorem le_of_mem_cover {length offset token entry : Nat} {spans : List Span}
    (member : entry ∈ cover length spans token offset) : entry ≤ token + spans.length - 1 := by
  induction spans generalizing offset token with
  | nil =>
      rw [cover] at member
      exact Nat.le_of_eq (List.eq_of_mem_replicate member)
  | cons span rest ih =>
      rw [cover] at member
      rcases List.mem_append.mp member with member | member
      · have same := List.eq_of_mem_replicate member
        rw [List.length_cons]
        omega
      · have bound := ih member
        rw [List.length_cons]
        omega

theorem pred_le_of_mem_cover {length offset token entry : Nat} {spans : List Span}
    (member : entry ∈ cover length spans token offset) : token - 1 ≤ entry := by
  induction spans generalizing offset token with
  | nil =>
      rw [cover] at member
      exact Nat.le_of_eq (List.eq_of_mem_replicate member).symm
  | cons span rest ih =>
      rw [cover] at member
      rcases List.mem_append.mp member with member | member
      · rw [List.eq_of_mem_replicate member]
        exact Nat.sub_le token 1
      · have bound := ih member
        omega

theorem pairwise_cover (length : Nat) (spans : List Span) (token offset : Nat) :
    (cover length spans token offset).Pairwise fun first second => first ≤ second := by
  induction spans generalizing offset token with
  | nil => exact List.pairwise_replicate.mpr (.inr (Nat.le_refl _))
  | cons span rest ih =>
      rw [cover, List.pairwise_append]
      refine ⟨List.pairwise_replicate.mpr (.inr (Nat.le_refl _)), ih _ _, ?_⟩
      intro first firstMember second secondMember
      rw [List.eq_of_mem_replicate firstMember]
      exact pred_le_of_mem_cover secondMember

theorem ordered_build (text : String) :
    Span.Ordered 0 (byteLength text.toList) (build text).spans := by
  have ordered := ordered_spansFrom text.toList 0 none nofun
  rw [Nat.zero_add] at ordered
  exact ordered

theorem length_tokenOfByte (text : String) :
    (build text).tokenOfByte.length = byteLength text.toList :=
  length_cover (ordered_build text) 0

theorem lt_of_mem_tokenOfByte {text : String} {token : Nat} (spans : (build text).spans ≠ [])
    (member : token ∈ (build text).tokenOfByte) : token < (build text).spans.length := by
  have positive := List.length_pos_iff.mpr spans
  have bound : token ≤ 0 + (build text).spans.length - 1 := le_of_mem_cover member
  omega

theorem le_of_getElem?_tokenOfByte {text : String} {first last token other : Nat}
    (le : first ≤ last) (found : (build text).tokenOfByte[first]? = some token)
    (otherFound : (build text).tokenOfByte[last]? = some other) : token ≤ other := by
  obtain ⟨within, rfl⟩ := List.getElem?_eq_some_iff.mp found
  obtain ⟨otherWithin, rfl⟩ := List.getElem?_eq_some_iff.mp otherFound
  rcases Nat.lt_or_eq_of_le le with less | rfl
  · exact List.pairwise_iff_getElem.mp (pairwise_cover _ _ 0 0) first last within otherWithin less
  · exact Nat.le_refl _

end TokenIndex

namespace Layer

/-- The token that a byte belongs to, as a number for every offset. -/
def tokenOf (layer : Layer) (offset : Nat) : Nat :=
  (TokenIndex.build layer.text).tokenOfByte.getD offset 0

/-- The text of a token, empty for a number that no token has. -/
def textOf (layer : Layer) (token : Nat) : String :=
  match (TokenIndex.build layer.text).spans[token]? with
  | some span => Text.slice layer.text span.start span.stop
  | none => ""

variable {layer : Layer}

theorem getElem?_tokenOfByte {offset : Nat} (within : offset < byteLength layer.text.toList) :
    (TokenIndex.build layer.text).tokenOfByte[offset]? = some (layer.tokenOf offset) := by
  rw [← TokenIndex.length_tokenOfByte] at within
  rw [tokenOf, List.getD_eq_getElem?_getD, List.getElem?_eq_getElem within]
  rfl

theorem tokenAt_eq {offset : Nat} (key : LayerKey)
    (spans : (TokenIndex.build layer.text).spans ≠ [])
    (within : offset < byteLength layer.text.toList) :
    layer.tokenAt key offset = .ok (layer.tokenOf offset) := by
  rw [tokenAt, index_eq_build, if_neg (by simpa using spans), getElem?_tokenOfByte within]

theorem tokenOf_lt {offset : Nat} (spans : (TokenIndex.build layer.text).spans ≠ [])
    (within : offset < byteLength layer.text.toList) :
    layer.tokenOf offset < (TokenIndex.build layer.text).spans.length :=
  TokenIndex.lt_of_mem_tokenOfByte spans (List.mem_of_getElem? (getElem?_tokenOfByte within))

theorem tokenOf_le_tokenOf {first second : Nat} (le : first ≤ second)
    (within : second < byteLength layer.text.toList) :
    layer.tokenOf first ≤ layer.tokenOf second :=
  TokenIndex.le_of_getElem?_tokenOfByte le
    (getElem?_tokenOfByte (Nat.lt_of_le_of_lt le within)) (getElem?_tokenOfByte within)

theorem tokenText_eq {token : Nat} (key : LayerKey)
    (within : token < (TokenIndex.build layer.text).spans.length) :
    layer.tokenText key token = .ok (layer.textOf token) := by
  rw [tokenText, tokenSpan, textOf, index_eq_build, List.getElem?_eq_getElem within]
  rfl

end Layer

end Concordance
