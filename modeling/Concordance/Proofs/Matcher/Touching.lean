import Concordance.Proofs.Layer.Runs
import Concordance.Proofs.Match.Order
import Concordance.Proofs.Matcher.Errors
import Mathlib.Data.List.Destutter
import Mathlib.Data.List.Sort

/-!
Scanners by the tokens they touch.  A match has all tokens that share a byte with some part of a
text, and a part that shares a byte with none gives no match.  How a part is trimmed and which
tokens its first and its last byte belong to does not matter to that, nor where the part comes from.
-/

namespace Concordance

open Text Pattern

/-- Whether two spans share a byte. -/
def Span.meets (left right : Span) : Bool :=
  max left.start right.start < min left.stop right.stop

theorem Span.meets_iff {left right : Span} :
    left.meets right = true ↔ ∃ offset, (left.start ≤ offset ∧ offset < left.stop) ∧
      right.start ≤ offset ∧ offset < right.stop := by
  rw [meets, decide_eq_true_iff]
  constructor
  · intro shared
    exact ⟨max left.start right.start, by omega⟩
  · rintro ⟨offset, inLeft, inRight⟩
    omega

/-- The bytes of a part of a text. -/
def Pattern.Regex.Found.bytes (chars : List Char) (found : Regex.Found) : Span :=
  ⟨byteOffset chars found.start, byteOffset chars found.stop⟩

theorem Text.exists_index_of_bytes {chars : List Char} {found : Regex.Found} {offset : Nat}
    (low : (found.bytes chars).start ≤ offset) (high : offset < (found.bytes chars).stop) :
    ∃ index c, found.start ≤ index ∧ index < found.stop ∧ chars[index]? = some c ∧
      charAt? chars offset = some c ∧ byteOffset chars index ≤ offset ∧
      offset < byteOffset chars (index + 1) := by
  have within := Nat.lt_of_lt_of_le high (byteOffset_le _ _)
  obtain ⟨c, read⟩ := Option.isSome_iff_exists.mp (isSome_charAt?_iff.mpr within)
  obtain ⟨index, inside, starts, ends⟩ := exists_index_of_charAt? read
  refine ⟨index, c, ?_, ?_, inside, read, starts, ends⟩
  · apply Nat.le_of_not_lt
    intro before
    exact absurd (Nat.lt_of_lt_of_le ends (byteOffset_mono before)) (Nat.not_lt.mpr low)
  · apply Nat.lt_of_not_le
    intro beyond
    exact absurd (Nat.lt_of_le_of_lt (Nat.le_trans (byteOffset_mono beyond) starts) high)
      (Nat.lt_irrefl _)

namespace TokenIndex

/-- The tokens that share a byte with a span. -/
def touching (index : TokenIndex) (bytes : Span) : List Nat :=
  (List.range index.spans.length).filter fun token => (index.spans[token]?).any bytes.meets

theorem mem_touching_iff {index : TokenIndex} {bytes : Span} {token : Nat} :
    token ∈ index.touching bytes ↔
      ∃ span, index.spans[token]? = some span ∧ bytes.meets span = true := by
  rw [touching, List.mem_filter, List.mem_range, Option.any_eq_true]
  constructor
  · rintro ⟨-, span, found, shared⟩
    exact ⟨span, found, shared⟩
  · rintro ⟨span, found, shared⟩
    exact ⟨(List.getElem?_eq_some_iff.mp found).1, span, found, shared⟩

theorem pairwise_touching (index : TokenIndex) (bytes : Span) :
    (index.touching bytes).Pairwise (· < ·) :=
  List.pairwise_lt_range.filter _

theorem touching_eq_range' {index : TokenIndex} {bytes : Span} {first last : Nat}
    (all : ∀ token, token ∈ index.touching bytes ↔ first ≤ token ∧ token ≤ last) :
    index.touching bytes = List.range' first (last + 1 - first) := by
  apply (index.pairwise_touching bytes).eq_of_mem_iff List.pairwise_lt_range'
  intro token
  rw [all, List.mem_range'_1]
  omega

theorem le_of_token_le {text : String} {first second : Nat} {span other : Span}
    (le : first ≤ second) (found : (build text).spans[first]? = some span)
    (otherFound : (build text).spans[second]? = some other) :
    span.start ≤ other.start ∧ span.stop ≤ other.stop := by
  rcases Nat.lt_or_eq_of_le le with less | rfl
  · have firstSize := (ordered_build text).start_lt_stop (List.mem_of_getElem? found)
    have secondSize := (ordered_build text).start_lt_stop (List.mem_of_getElem? otherFound)
    obtain ⟨inside, rfl⟩ := List.getElem?_eq_some_iff.mp found
    obtain ⟨otherInside, rfl⟩ := List.getElem?_eq_some_iff.mp otherFound
    have apart := List.pairwise_iff_getElem.mp (ordered_build text).pairwise _ _ inside otherInside
      less
    omega
  · rw [found] at otherFound
    cases otherFound
    exact ⟨Nat.le_refl _, Nat.le_refl _⟩

variable {text : String} {found part : Regex.Found}

/-- A token shares a byte with a part of a text only at a character that is not blank. -/
theorem exists_solid_of_mem_touching {token : Nat}
    (member : token ∈ (build text).touching (found.bytes text.toList)) :
    ∃ offset index c, (build text).tokenOfByte[offset]? = some token ∧ found.start ≤ index ∧
      index < found.stop ∧ text.toList[index]? = some c ∧ isBlank c = false ∧
      byteOffset text.toList index ≤ offset ∧ offset < byteOffset text.toList (index + 1) := by
  obtain ⟨span, isToken, shared⟩ := mem_touching_iff.mp member
  obtain ⟨offset, ⟨low, high⟩, starts, ends⟩ := Span.meets_iff.mp shared
  obtain ⟨index, c, after, before, inside, read, bounds⟩ := exists_index_of_bytes low high
  have belongs := (tokenises_build text).inside token span isToken offset starts ends
  have solid := solid_of_mem_spans (List.mem_of_getElem? isToken) starts ends read
  exact ⟨offset, index, c, belongs, after, before, inside, solid, bounds⟩

theorem touching_of_trim?_eq_none (trimmed : Scanner.trim? text.toList found = none) :
    (build text).touching (found.bytes text.toList) = [] := by
  apply List.eq_nil_iff_forall_not_mem.mpr
  intro token member
  obtain ⟨_, index, c, -, after, before, inside, solid, -⟩ := exists_solid_of_mem_touching member
  obtain ⟨part, kept, -⟩ := Scanner.exists_trim? after before inside solid
  rw [trimmed] at kept
  cases kept

/-- The tokens touched are those from the one of the first byte that is left to that of the last. -/
theorem mem_touching_of_trim?_iff {first last token : Nat}
    (within : found.stop ≤ text.toList.length)
    (trimmed : Scanner.trim? text.toList found = some part)
    (firstHolds : (build text).Holds (part.bytes text.toList).start first)
    (lastHolds : (build text).Holds ((part.bytes text.toList).stop - 1) last) :
    token ∈ (build text).touching (found.bytes text.toList) ↔ first ≤ token ∧ token ≤ last := by
  have bounds := Scanner.bounds_of_trim? trimmed
  have partBytes := byteOffset_lt bounds.2.1 (Nat.le_trans bounds.2.2 within)
  have startLe := @byteOffset_mono text.toList _ _ bounds.1
  have stopLe := @byteOffset_mono text.toList _ _ bounds.2.2
  constructor
  · -- A character of a token is not blank, so trimming leaves it between the two bytes.
    intro member
    obtain ⟨offset, index, c, belongs, after, before, inside, solid, low, high⟩ :=
      exists_solid_of_mem_touching member
    obtain ⟨same, kept, starts, ends⟩ := Scanner.exists_trim? after before inside solid
    obtain rfl : part = same := Option.some.inj (trimmed.symm.trans kept)
    have above := Nat.le_trans (byteOffset_mono starts) low
    have below := Nat.lt_of_lt_of_le high (byteOffset_mono ends)
    exact ⟨le_of_getElem?_tokenOfByte above firstHolds.1 belongs,
      le_of_getElem?_tokenOfByte (Nat.le_sub_one_of_lt below) belongs lastHolds.1⟩
  · rintro ⟨low, high⟩
    obtain ⟨-, firstSpan, firstFound, firstBounds⟩ := firstHolds
    obtain ⟨-, lastSpan, lastFound, lastBounds⟩ := lastHolds
    obtain ⟨inside, -⟩ := List.getElem?_eq_some_iff.mp lastFound
    have isToken := List.getElem?_eq_getElem (Nat.lt_of_le_of_lt high inside)
    have size := (ordered_build text).start_lt_stop (List.mem_of_getElem? isToken)
    have ends := (le_of_token_le low firstFound isToken).2
    have starts := (le_of_token_le high isToken lastFound).1
    refine mem_touching_iff.mpr ⟨_, isToken, ?_⟩
    dsimp only [Regex.Found.bytes] at firstBounds lastBounds
    rw [Span.meets, decide_eq_true_iff]
    dsimp only [Regex.Found.bytes]
    omega

theorem exists_touching_of_trim? (within : found.stop ≤ text.toList.length)
    (trimmed : Scanner.trim? text.toList found = some part) :
    ∃ first last, first ≤ last ∧ (build text).Holds (part.bytes text.toList).start first ∧
      (build text).Holds ((part.bytes text.toList).stop - 1) last ∧
      (build text).touching (found.bytes text.toList) = List.range' first (last + 1 - first) := by
  obtain ⟨⟨first, firstHolds⟩, last, lastHolds⟩ := Scanner.holds_of_trim? within trimmed
  have bounds := Scanner.bounds_of_trim? trimmed
  have partBytes := byteOffset_lt bounds.2.1 (Nat.le_trans bounds.2.2 within)
  refine ⟨first, last, ?_, firstHolds, lastHolds, touching_eq_range' fun token =>
    mem_touching_of_trim?_iff within trimmed firstHolds lastHolds⟩
  exact le_of_getElem?_tokenOfByte (Nat.le_sub_one_of_lt partBytes) firstHolds.1 lastHolds.1

theorem exists_range'_of_touching_ne_nil (within : found.stop ≤ text.toList.length)
    (some : (build text).touching (found.bytes text.toList) ≠ []) :
    ∃ first count,
      (build text).touching (found.bytes text.toList) = List.range' first (count + 1) := by
  cases trimmed : Scanner.trim? text.toList found with
  | none => exact absurd (touching_of_trim?_eq_none trimmed) some
  | some part =>
      obtain ⟨first, last, ordered, -, -, tokens⟩ := exists_touching_of_trim? within trimmed
      refine ⟨first, last - first, ?_⟩
      rw [tokens, Nat.sub_add_comm ordered]

end TokenIndex

/-! Matches. -/

/-- The match of the tokens that a part of the text touches, if there are any. -/
def Layer.matchTouching? (layer : Layer) (feature : String) (bytes : Span) : Option Match :=
  let tokens := (TokenIndex.build layer.text).touching bytes
  if tokens.isEmpty then none
  else some ⟨tokens, List.replicate tokens.length feature, tokens.map layer.textOf⟩

/-- The matches that parts of the text give in order, without repeats next to each other. -/
def Layer.matchesTouching (layer : Layer) (feature : String) (found : List Regex.Found) :
    List Match :=
  (found.filterMap fun part =>
    layer.matchTouching? feature (part.bytes layer.text.toList)).destutter (· ≠ ·)

/-- What becomes of the parts of the text of a layer that a search yields. -/
def Layer.matchesOf (layer : Layer) (key : LayerKey) (found : List Regex.Found) :
    Except Error (List Match) := do
  let chars := layer.text.toList
  let kept := (found.filterMap (Scanner.trim? chars)).map (Regex.Found.bytes chars)
  return Match.keepLast (← kept.mapM (layer.matchOf key))

theorem Match.keepLast_eq_destutter {list : List Match}
    (faithful : ∀ first ∈ list, ∀ second ∈ list, first.same second = true → first = second) :
    keepLast list = list.destutter (· ≠ ·) := by
  fun_induction keepLast list with
  | case1 first second rest same ih =>
      obtain rfl := faithful first (by simp) second (by simp) same
      rw [ih fun one member other otherMember =>
        faithful one (.tail _ member) other (.tail _ otherMember)]
      simp [List.destutter]
  | case2 first second rest differ ih =>
      have unequal : first ≠ second := by
        rintro rfl
        exact differ (same_self first)
      rw [ih fun one member other otherMember =>
        faithful one (.tail _ member) other (.tail _ otherMember)]
      simp [List.destutter, unequal]
  | case3 list short =>
      rcases eq_nil_or_singleton short with rfl | ⟨only, rfl⟩
      · rfl
      · rfl

namespace Layer

variable {layer : Layer} {found part : Regex.Found}

theorem tokenOf_of_holds {offset token : Nat}
    (holds : (TokenIndex.build layer.text).Holds offset token) : layer.tokenOf offset = token := by
  rw [tokenOf, List.getD_eq_getElem?_getD, holds.1, Option.getD_some]

theorem matchTouching?_eq (feature : String) (within : found.stop ≤ layer.text.toList.length) :
    layer.matchTouching? feature (found.bytes layer.text.toList) =
      (Scanner.trim? layer.text.toList found).map fun part =>
        layer.matchOver feature (part.bytes layer.text.toList) := by
  cases trimmed : Scanner.trim? layer.text.toList found with
  | none => simp [matchTouching?, TokenIndex.touching_of_trim?_eq_none trimmed]
  | some part =>
      obtain ⟨first, last, ordered, firstHolds, lastHolds, tokens⟩ :=
        TokenIndex.exists_touching_of_trim? within trimmed
      have some : last + 1 - first ≠ 0 := Nat.sub_ne_zero_of_lt (Nat.lt_succ_of_le ordered)
      have firstToken := tokenOf_of_holds firstHolds
      have lastToken := tokenOf_of_holds lastHolds
      simp [matchTouching?, matchOver, tokens, some, firstToken, lastToken]

theorem matchOf_eq_of_trim? (key : LayerKey) (within : found.stop ≤ layer.text.toList.length)
    (trimmed : Scanner.trim? layer.text.toList found = some part) :
    layer.matchOf key (part.bytes layer.text.toList) =
      .ok (layer.matchOver key.feature (part.bytes layer.text.toList)) := by
  obtain ⟨c, member, solid⟩ := Scanner.exists_solid_of_trim? within trimmed
  have bounds := Scanner.bounds_of_trim? trimmed
  exact matchOf_eq key (TokenIndex.spansFrom_ne_nil member solid 0 none)
    (byteOffset_lt bounds.2.1 (Nat.le_trans bounds.2.2 within)) (byteOffset_le _ _)

theorem matchesOf_eq_keepLast {found : List Regex.Found} (key : LayerKey)
    (within : ∀ part ∈ found, part.stop ≤ layer.text.toList.length) :
    layer.matchesOf key found = .ok (Match.keepLast (((found.filterMap
      (Scanner.trim? layer.text.toList)).map (Regex.Found.bytes layer.text.toList)).map
        (layer.matchOver key.feature))) := by
  rw [matchesOf, mapM_eq_ok_map, ok_bind]
  · rfl
  · intro bytes member
    obtain ⟨part, kept, rfl⟩ := List.mem_map.mp member
    obtain ⟨whole, wholeMember, trimmed⟩ := List.mem_filterMap.mp kept
    exact matchOf_eq_of_trim? key (within whole wholeMember) trimmed

theorem matchOver_eq_of_same {feature : String} {first second : Span}
    (same : (layer.matchOver feature first).same (layer.matchOver feature second) = true) :
    layer.matchOver feature first = layer.matchOver feature second := by
  have tokens := (Match.same_iff.mp same).1
  dsimp only [matchOver] at tokens ⊢
  rw [tokens]

theorem matchesOf_eq {found : List Regex.Found} (key : LayerKey)
    (within : ∀ part ∈ found, part.stop ≤ layer.text.toList.length) :
    layer.matchesOf key found = .ok (layer.matchesTouching key.feature found) := by
  rw [matchesOf_eq_keepLast key within, matchesTouching, List.map_map, List.map_filterMap,
    List.filterMap_congr fun part member => matchTouching?_eq key.feature (within part member),
    Match.keepLast_eq_destutter]
  · rfl
  · intro first firstMember second secondMember same
    obtain ⟨_, -, covers⟩ := List.mem_filterMap.mp firstMember
    obtain ⟨_, -, otherCovers⟩ := List.mem_filterMap.mp secondMember
    obtain ⟨_, -, rfl⟩ := Option.map_eq_some_iff.mp covers
    obtain ⟨_, -, rfl⟩ := Option.map_eq_some_iff.mp otherCovers
    exact matchOver_eq_of_same same

/-- A match of consecutive tokens of a layer, one at least. -/
structure Matches (layer : Layer) (key : LayerKey) (found : Match) : Prop where
  consecutive : ∃ first count, found.tokens = List.range' first (count + 1)
  features : found.features = List.replicate found.tokens.length key.feature
  texts : found.tokens.mapM (layer.tokenText key) = .ok found.texts

theorem matches_of_mem_matchesTouching {key : LayerKey} {found : List Regex.Found} {one : Match}
    (within : ∀ part ∈ found, part.stop ≤ layer.text.toList.length)
    (member : one ∈ layer.matchesTouching key.feature found) : layer.Matches key one := by
  obtain ⟨part, partMember, touches⟩ :=
    List.mem_filterMap.mp ((List.destutter_sublist _ _).subset member)
  rw [matchTouching?] at touches
  split at touches
  · cases touches
  · next some =>
    cases touches
    refine ⟨?_, rfl, ?_⟩
    · apply TokenIndex.exists_range'_of_touching_ne_nil (within part partMember)
      simpa using some
    · apply mapM_eq_ok_map
      intro token touched
      obtain ⟨span, isToken, -⟩ := TokenIndex.mem_touching_iff.mp touched
      exact tokenText_eq key (List.getElem?_eq_some_iff.mp isToken).1

end Layer

namespace Scanner

theorem find_outcome_eq_matchesOf {document : Document} {layer : Layer} (scanner : Scanner)
    (present : document.layers.get? scanner.key = some layer) :
    (scanner.find document).outcome =
      layer.matchesOf scanner.key (scanner.regex.spans layer.text.toList.toArray) := by
  have contained : document.contains scanner.key = true := by
    rw [Document.contains, Entries.contains, present, Option.isSome_some]
  rw [find_outcome, if_pos contained, results, present, Layer.matchesOf_eq_keepLast]
  · rfl
  · intro part member
    exact (Regex.bounds_of_mem_spans member).2

/-- In a document with its layer a scanner gives the matches of the tokens that are touched by what
its search yields, and so it would be with any other search. -/
theorem find_touching {document : Document} {key : LayerKey} {layer : Layer}
    (present : document.layers.get? key = some layer) :
    (∀ regex, ((⟨key, regex⟩ : Scanner).find document).outcome =
        .ok (layer.matchesTouching key.feature (regex.spans layer.text.toList.toArray)) ∧
      ((⟨key, regex⟩ : Scanner).find document).outcome =
        layer.matchesOf key (regex.spans layer.text.toList.toArray)) ∧
    ∀ found : List Regex.Found, (∀ part ∈ found, part.stop ≤ layer.text.toList.length) →
      layer.matchesOf key found = .ok (layer.matchesTouching key.feature found) ∧
      ∀ one ∈ layer.matchesTouching key.feature found, layer.Matches key one := by
  constructor
  · intro regex
    have searched := find_outcome_eq_matchesOf ⟨key, regex⟩ present
    refine ⟨searched.trans (Layer.matchesOf_eq key ?_), searched⟩
    intro part member
    exact (Regex.bounds_of_mem_spans member).2
  · intro found within
    exact ⟨Layer.matchesOf_eq key within, fun _ => Layer.matches_of_mem_matchesTouching within⟩

end Scanner

/-! Parts with blanks and without characters, two within one token and one across both. -/

theorem Scanner.find_touching_wideBlanks :
    Document.wideBlanks.layers.get? ⟨"mlp", some "lemmas"⟩ =
        some (.ofText " õun\u3000\u3000ära\n ") ∧
      (Layer.ofText " õun\u3000\u3000ära\n ").matchesOf ⟨"mlp", some "lemmas"⟩
          [⟨0, 1⟩, ⟨1, 2⟩, ⟨2, 2⟩, ⟨2, 3⟩, ⟨3, 7⟩, ⟨7, 11⟩] =
        .ok [⟨[0], ["mlp"], ["õun"]⟩, ⟨[0, 1], ["mlp", "mlp"], ["õun", "ära"]⟩,
          ⟨[1], ["mlp"], ["ära"]⟩] := by
  have present : Document.wideBlanks.layers.get? ⟨"mlp", some "lemmas"⟩ =
      some (.ofText " õun\u3000\u3000ära\n ") := by decide
  refine ⟨present, ((find_touching present).2 _ (by decide)).1.trans (congrArg Except.ok ?_)⟩
  decide +kernel

end Concordance
