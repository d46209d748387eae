import Concordance.Proofs.Layer.Coverage
import Concordance.Proofs.Matcher.Results

/-!
Errors of evaluation.  Trimmed occurrences start and end with characters that are not blank, so all
look-ups of a scanner stay within its layer, whatever the text; what is left to go wrong is a layer
that is missing, and the first one that a tree of matchers comes to is reported.
-/

namespace Concordance

open Text Pattern

namespace Scanner

/-! Edges of occurrences. -/

private theorem exists_getElem?_length_takeWhile {list : List Char} {p : Char → Bool}
    (short : (list.takeWhile p).length < list.length) :
    ∃ c, list[(list.takeWhile p).length]? = some c ∧ p c = false := by
  induction list with
  | nil => cases short
  | cons c rest ih =>
      cases stops : p c with
      | true =>
          rw [List.takeWhile_cons_of_pos stops, List.length_cons, List.length_cons] at short
          rw [List.takeWhile_cons_of_pos stops, List.length_cons, List.getElem?_cons_succ]
          exact ih (Nat.lt_of_succ_lt_succ short)
      | false =>
          rw [List.takeWhile_cons_of_neg (by simp [stops])]
          exact ⟨c, rfl, stops⟩

theorem solid_of_trim? {chars : List Char} {found part : Regex.Found}
    (within : found.stop ≤ chars.length) (trimmed : trim? chars found = some part) :
    (∃ c, chars[part.start]? = some c ∧ isBlank c = false) ∧
      ∃ c, chars[part.stop - 1]? = some c ∧ isBlank c = false := by
  rw [trim?] at trimmed
  have size : ((chars.drop found.start).take (found.stop - found.start)).length =
      found.stop - found.start := by
    rw [List.length_take, List.length_drop]
    omega
  have read (k : Nat) (less : k < found.stop - found.start) :
      ((chars.drop found.start).take (found.stop - found.start))[k]? =
        chars[found.start + k]? := by
    rw [List.getElem?_take_of_lt less, List.getElem?_drop]
  generalize (chars.drop found.start).take (found.stop - found.start) = rest at *
  split at trimmed
  · next less =>
    cases trimmed
    constructor
    · obtain ⟨c, here, solid⟩ := @exists_getElem?_length_takeWhile rest isBlank (by omega)
      rw [read _ (by omega)] at here
      exact ⟨c, here, solid⟩
    · obtain ⟨c, here, solid⟩ := @exists_getElem?_length_takeWhile rest.reverse isBlank (by
        rw [List.length_reverse]
        omega)
      rw [List.getElem?_reverse (by omega), read _ (by omega), size] at here
      refine ⟨c, ?_, solid⟩
      rw [← here]
      congr 1
      dsimp only
      omega
  · cases trimmed

/-! Look-ups. -/

/-- What a scanner looks up in a text is there: characters of the text, a token for the first and
the last byte of every occurrence, in this order, and the ends of tokens between characters. -/
structure InRange (scanner : Scanner) (text : String) : Prop where
  spans : ∀ found ∈ scanner.regex.spans text.toList.toArray,
    found.start ≤ found.stop ∧ found.stop ≤ text.toList.length
  bytes : ∀ bytes ∈ scanner.occurrences text, bytes.start < bytes.stop ∧
    ∃ first last, first ≤ last ∧ (TokenIndex.build text).Holds bytes.start first ∧
      (TokenIndex.build text).Holds (bytes.stop - 1) last
  tokens : ∀ span ∈ (TokenIndex.build text).spans, span.start < span.stop ∧
    IsBoundary text span.start ∧ IsBoundary text span.stop

theorem holds_of_trim? {text : String} {found part : Regex.Found}
    (within : found.stop ≤ text.toList.length) (trimmed : trim? text.toList found = some part) :
    (∃ first, (TokenIndex.build text).Holds (byteOffset text.toList part.start) first) ∧
      ∃ last, (TokenIndex.build text).Holds (byteOffset text.toList part.stop - 1) last := by
  have bounds := bounds_of_trim? trimmed
  obtain ⟨⟨first, firstRead, firstSolid⟩, last, lastRead, lastSolid⟩ :=
    solid_of_trim? within trimmed
  have next : part.stop - 1 + 1 = part.stop := by omega
  have lastByte := byteOffset_lt (Nat.sub_one_lt_of_lt bounds.2.1) (by omega :
    part.stop ≤ text.toList.length)
  constructor
  · obtain ⟨inside, -⟩ := List.getElem?_eq_some_iff.mp firstRead
    exact TokenIndex.exists_holds firstRead firstSolid (Nat.le_refl _)
      (byteOffset_lt (Nat.lt_succ_self _) inside)
  · apply TokenIndex.exists_holds lastRead lastSolid
    · exact Nat.le_sub_one_of_lt lastByte
    · rw [next]
      exact Nat.sub_one_lt_of_lt lastByte

theorem holds_of_mem_occurrences {scanner : Scanner} {text : String} {bytes : Span}
    (member : bytes ∈ scanner.occurrences text) :
    (∃ first, (TokenIndex.build text).Holds bytes.start first) ∧
      ∃ last, (TokenIndex.build text).Holds (bytes.stop - 1) last := by
  obtain ⟨part, kept, rfl⟩ := List.mem_map.mp member
  obtain ⟨found, spanned, trimmed⟩ := List.mem_filterMap.mp kept
  have within := (Regex.bounds_of_mem_spans spanned).2
  rw [List.size_toArray] at within
  exact holds_of_trim? within trimmed

theorem inRange (scanner : Scanner) (text : String) : scanner.InRange text where
  spans := by
    intro found member
    have bounds := Regex.bounds_of_mem_spans member
    rwa [List.size_toArray] at bounds
  bytes := by
    intro bytes member
    have bounds := bounds_of_mem_occurrences member
    obtain ⟨⟨first, firstHolds⟩, last, lastHolds⟩ := holds_of_mem_occurrences member
    refine ⟨bounds.1, first, last, ?_, firstHolds, lastHolds⟩
    exact TokenIndex.le_of_getElem?_tokenOfByte (Nat.le_sub_one_of_lt bounds.1) firstHolds.1
      lastHolds.1
  tokens := by
    intro span member
    exact ⟨(TokenIndex.ordered_build text).start_lt_stop member,
      TokenIndex.isBoundary_of_mem_build member⟩

end Scanner

/-! Missing layers. -/

theorem Document.require_eq_error_iff {α : Type} {document : Document} {keys : List LayerKey}
    {value : α} {error : Error} :
    document.require keys value = .error error ↔
      ∃ before key after, keys = before ++ key :: after ∧
        (∀ other ∈ before, document.contains other = true) ∧ document.contains key = false ∧
        error = .unknownLayer key := by
  rw [require]
  cases missing : keys.find? fun key => !document.contains key with
  | none =>
      constructor
      · intro failed
        cases failed
      · rintro ⟨before, key, after, rfl, -, absent, -⟩
        have present := List.find?_eq_none.mp missing key (by simp)
        simp [absent] at present
  | some key =>
      obtain ⟨absent, before, after, split, present⟩ := List.find?_eq_some_iff_append.mp missing
      constructor
      · rintro ⟨⟩
        exact ⟨before, key, after, split, by simpa using present, by simpa using absent, rfl⟩
      · rintro ⟨others, other, rest, otherSplit, otherPresent, otherAbsent, rfl⟩
        have same : keys.find? (fun key => !document.contains key) = some other :=
          List.find?_eq_some_iff_append.mpr
            ⟨by simpa using otherAbsent, others, rest, otherSplit, by simpa using otherPresent⟩
        rw [missing] at same
        cases same
        rfl

namespace Matcher

mutual

/-- The leaves of a tree, from left to right. -/
def scanners : Matcher → List Scanner
  | scan scanner => [scanner]
  | intersection components _ => scannersOfAll components
  | union components => scannersOfAll components
  | concatenation components => scannersOfAll components
  | gap components _ _ => scannersOfAll components
  | layerMatch components => scannersOfAll components
  | negation child => scanners child

def scannersOfAll : List Matcher → List Scanner
  | [] => []
  | component :: rest => scanners component ++ scannersOfAll rest

end

mutual

theorem keys_eq_map_scanners : ∀ matcher : Matcher, matcher.keys = matcher.scanners.map Scanner.key
  | scan _ => rfl
  | intersection components _ => keysOfAll_eq_map_scanners components
  | union components => keysOfAll_eq_map_scanners components
  | concatenation components => keysOfAll_eq_map_scanners components
  | gap components _ _ => keysOfAll_eq_map_scanners components
  | layerMatch components => keysOfAll_eq_map_scanners components
  | negation child => keys_eq_map_scanners child

theorem keysOfAll_eq_map_scanners : ∀ components : List Matcher,
    keysOfAll components = (scannersOfAll components).map Scanner.key
  | [] => rfl
  | component :: rest => by
      rw [keysOfAll, scannersOfAll, List.map_append, keys_eq_map_scanners component,
        keysOfAll_eq_map_scanners rest]

end

/-- Evaluation fails exactly if the layer of a scanner is missing, and the error is about the first
scanner of which it is; nothing that a scanner looks up in a text is ever out of range. -/
theorem find_error_iff (document : Document) (matcher : Matcher) :
    ((∃ error, (matcher.find document).outcome = .error error) ↔
      ∃ scanner ∈ matcher.scanners, document.contains scanner.key = false) ∧
    (∀ error, (matcher.find document).outcome = .error error ↔
      ∃ before scanner after, matcher.scanners = before ++ scanner :: after ∧
        (∀ other ∈ before, document.contains other.key = true) ∧
        document.contains scanner.key = false ∧ error = .unknownLayer scanner.key ∧
        error.message = "No such layer: " ++ scanner.key.display) ∧
    ∀ scanner ∈ matcher.scanners, ∀ text, scanner.InRange text := by
  have blame (error : Error) : (matcher.find document).outcome = .error error ↔
      ∃ before scanner after, matcher.scanners = before ++ scanner :: after ∧
        (∀ other ∈ before, document.contains other.key = true) ∧
        document.contains scanner.key = false ∧ error = .unknownLayer scanner.key ∧
        error.message = "No such layer: " ++ scanner.key.display := by
    rw [find_outcome, keys_eq_map_scanners, Document.require_eq_error_iff]
    constructor
    · rintro ⟨keys, key, others, split, present, absent, rfl⟩
      obtain ⟨before, rest, scanners, rfl, restSplit⟩ := List.map_eq_append_iff.mp split
      obtain ⟨scanner, after, rfl, rfl, rfl⟩ := List.map_eq_cons_iff.mp restSplit
      exact ⟨before, scanner, after, scanners, List.forall_mem_map.mp present, absent, rfl, rfl⟩
    · rintro ⟨before, scanner, after, scanners, present, absent, rfl, -⟩
      refine ⟨before.map Scanner.key, scanner.key, after.map Scanner.key, ?_,
        List.forall_mem_map.mpr present, absent, rfl⟩
      rw [scanners, List.map_append, List.map_cons]
  refine ⟨⟨?_, ?_⟩, blame, fun scanner _ text => scanner.inRange text⟩
  · rintro ⟨error, failed⟩
    obtain ⟨before, scanner, after, scanners, -, absent, -⟩ := (blame error).mp failed
    exact ⟨scanner, scanners ▸ List.mem_append_right before List.mem_cons_self, absent⟩
  · rintro ⟨scanner, member, absent⟩
    rcases find_outcome_cases document matcher with ⟨key, failed⟩ | succeeded
    · exact ⟨_, failed⟩
    · rw [find_outcome, Document.require_eq_ok_iff] at succeeded
      have present := succeeded.1 scanner.key
        (keys_eq_map_scanners matcher ▸ List.mem_map_of_mem member)
      rw [absent] at present
      cases present

end Matcher

/-! A document of blanks that lacks the layers of two scanners: the first of them is to blame,
although nothing is found before it. -/

def Document.blank : Document :=
  Document.empty.insertPath "text" "  "

def Scanner.redIn (path : String) : Scanner :=
  .ofTerms ["red"] path true true

theorem Matcher.find_error_iff_blank :
    ((gap [scan (.redIn "text"), union [negation (scan (.redIn "text_mlp.lemmas"))],
        scan (.redIn "tags")] (some 1) true).find .blank).outcome =
      .error (.unknownLayer ⟨"text_mlp", some "lemmas"⟩) :=
  ((find_error_iff .blank _).2.1 _).mpr
    ⟨[.redIn "text"], .redIn "text_mlp.lemmas", [.redIn "tags"], rfl,
      List.forall_mem_singleton.mpr rfl, rfl, rfl, rfl⟩

end Concordance
