import Concordance.Matcher.Scanner
import Concordance.Proofs.Layer.TokenIndex
import Concordance.Proofs.Match.Combine
import Concordance.Proofs.Pattern.Ends
import Concordance.Proofs.Text.Folding

/-!
What scanners find.  In a document with its layer a scanner never fails: every occurrence keeps a
character that is not blank, so its bytes belong to tokens.  A scanner of several terms finds
something exactly if a scanner of one of them does.
-/

namespace Concordance

open Text Pattern

namespace Scanner

/-! Trimming. -/

private theorem length_takeWhile_le {list : List Char} {p : Char → Bool} {k : Nat} {c : Char}
    (read : list[k]? = some c) (stops : p c = false) : (list.takeWhile p).length ≤ k := by
  induction list generalizing k with
  | nil => cases read
  | cons d rest ih =>
      rw [List.takeWhile_cons]
      split
      · next goesOn =>
        cases k with
        | zero =>
            rw [List.getElem?_cons_zero, Option.some.injEq] at read
            rw [read, stops] at goesOn
            cases goesOn
        | succ k =>
            rw [List.getElem?_cons_succ] at read
            exact Nat.succ_le_succ (ih read)
      · exact Nat.zero_le k

private theorem takeWhile_eq_of_forall {list : List Char} {p : Char → Bool}
    (all : ∀ c ∈ list, p c = true) : list.takeWhile p = list := by
  have whole := @List.takeWhile_append_of_pos _ p list [] all
  rwa [List.append_nil, List.takeWhile_nil, List.append_nil] at whole

theorem bounds_of_trim? {chars : List Char} {found part : Regex.Found}
    (trimmed : trim? chars found = some part) :
    found.start ≤ part.start ∧ part.start < part.stop ∧ part.stop ≤ found.stop := by
  rw [trim?] at trimmed
  split at trimmed
  · next less =>
    cases trimmed
    exact ⟨Nat.le_add_right _ _, less, Nat.sub_le _ _⟩
  · cases trimmed

/-- Something is left only of an occurrence with a character that is not blank. -/
theorem exists_solid_of_trim? {chars : List Char} {found part : Regex.Found}
    (within : found.stop ≤ chars.length) (trimmed : trim? chars found = some part) :
    ∃ c ∈ chars, isBlank c = false := by
  apply Decidable.byContradiction
  intro none
  have blank : ∀ c ∈ (chars.drop found.start).take (found.stop - found.start),
      isBlank c = true := by
    intro c member
    apply Decidable.byContradiction
    intro solid
    exact none ⟨c, List.mem_of_mem_drop (List.mem_of_mem_take member), Bool.not_eq_true _ ▸ solid⟩
  rw [trim?] at trimmed
  split at trimmed
  · next less =>
    rw [takeWhile_eq_of_forall blank,
      takeWhile_eq_of_forall (fun c member => blank c (List.mem_reverse.mp member)),
      List.length_reverse, List.length_take, List.length_drop] at less
    omega
  · cases trimmed

/-- A character that is not blank is left, with something around it. -/
theorem exists_trim? {chars : List Char} {found : Regex.Found} {k : Nat} {c : Char}
    (low : found.start ≤ k) (high : k < found.stop) (read : chars[k]? = some c)
    (solid : isBlank c = false) :
    ∃ part, trim? chars found = some part ∧ part.start ≤ k ∧ k < part.stop := by
  have shorter := List.length_take_le (found.stop - found.start) (chars.drop found.start)
  have partRead :
      ((chars.drop found.start).take (found.stop - found.start))[k - found.start]? = some c := by
    rw [List.getElem?_take_of_lt (by omega), List.getElem?_drop, Nat.add_sub_cancel' low, read]
  rw [trim?]
  generalize (chars.drop found.start).take (found.stop - found.start) = part at *
  obtain ⟨inside, -⟩ := List.getElem?_eq_some_iff.mp partRead
  have lead := length_takeWhile_le partRead solid
  have reverseRead : part.reverse[part.length - 1 - (k - found.start)]? = some c := by
    rw [List.getElem?_reverse (by omega),
      Nat.sub_sub_self (Nat.le_sub_one_of_lt inside), partRead]
  have trail := length_takeWhile_le reverseRead solid
  have after : found.start + (part.takeWhile isBlank).length ≤ k := by omega
  have before : k < found.stop - (part.reverse.takeWhile isBlank).length := by omega
  exact ⟨_, if_pos (Nat.lt_of_le_of_lt after before), after, before⟩

/-! Occurrences. -/

/-- An occurrence has at least one byte, all its bytes are in the text, and the text has tokens. -/
theorem bounds_of_mem_occurrences {scanner : Scanner} {text : String} {bytes : Span}
    (member : bytes ∈ scanner.occurrences text) :
    bytes.start < bytes.stop ∧ bytes.stop ≤ byteLength text.toList ∧
      (TokenIndex.build text).spans ≠ [] := by
  rw [occurrences] at member
  obtain ⟨part, trimmed, rfl⟩ := List.mem_map.mp member
  obtain ⟨found, spanned, trimmed⟩ := List.mem_filterMap.mp trimmed
  have spanBounds := Regex.bounds_of_mem_spans spanned
  rw [List.size_toArray] at spanBounds
  have partBounds := bounds_of_trim? trimmed
  obtain ⟨c, solidMember, solid⟩ := exists_solid_of_trim? spanBounds.2 trimmed
  exact ⟨byteOffset_lt partBounds.2.1 (by omega), byteOffset_le _ _,
    TokenIndex.spansFrom_ne_nil solidMember solid 0 none⟩

theorem mem_longestFirst {term : String} {terms : List String} :
    term ∈ longestFirst terms ↔ term ∈ terms :=
  List.mem_mergeSort

theorem eq_of_mem_ends_edge {wholeWord : Bool} {side : Option Char} {text : Array Char} {i j : Nat}
    (member : j ∈ (edge wholeWord side).ends text i) : j = i := by
  rw [edge] at member
  split at member
  · rw [Regex.ends] at member
    split at member
    · exact List.mem_singleton.mp member
    · cases member
  · rw [Regex.ends] at member
    exact List.mem_singleton.mp member

theorem spelled_of_mem_ends_termRegex {caseSensitive wholeWord : Bool} {term : String}
    {text : Array Char} {i j : Nat}
    (member : j ∈ (termRegex caseSensitive wholeWord term).ends text i) :
    j = i + term.toList.length ∧ Regex.Spelled caseSensitive text term.toList i := by
  simp only [termRegex, Regex.ends, List.mem_eraseDups, List.mem_flatMap] at member
  obtain ⟨last, ⟨first, before, literal⟩, after⟩ := member
  obtain rfl := eq_of_mem_ends_edge before
  obtain rfl := eq_of_mem_ends_edge after
  exact Regex.mem_ends_literal.mp literal

theorem toList_ne_nil_of_solid {term : String} (solid : isBlankText term = false) :
    term.toList ≠ [] := by
  intro empty
  rw [isBlankText, empty] at solid
  cases solid

theorem spelled_iff {text term : List Char} {i : Nat} :
    Regex.Spelled true text.toArray term i ↔ term <+: text.drop i := by
  induction term generalizing i with
  | nil => simp [Regex.Spelled]
  | cons c rest ih =>
      rw [Regex.Spelled, ih, ← List.tail_drop, List.getElem?_toArray]
      simp only [CharSet.literal, if_true, CharSet.contains_single]
      rw [show text[i]? = (text.drop i).head? by rw [List.head?_drop]]
      cases text.drop i with
      | nil => simp
      | cons d others => simp [List.cons_prefix_cons, eq_comm]

theorem mem_ends_ofTerms {terms : List String} {path : String} {caseSensitive wholeWord : Bool}
    {text : Array Char} {i j : Nat} :
    j ∈ (ofTerms terms path caseSensitive wholeWord).regex.ends text i ↔
      ∃ term ∈ terms, j ∈ (termRegex caseSensitive wholeWord term).ends text i := by
  rw [ofTerms, Regex.mem_ends_firstOf]
  constructor
  · intro given
    obtain ⟨regex, member, ended⟩ := given
    obtain ⟨term, termMember, rfl⟩ := List.mem_map.mp member
    exact ⟨term, mem_longestFirst.mp termMember, ended⟩
  · intro given
    obtain ⟨term, member, ended⟩ := given
    exact ⟨_, List.mem_map_of_mem (mem_longestFirst.mpr member), ended⟩

theorem exists_trim?_of_mem_ends {caseSensitive wholeWord : Bool} {term : String}
    {chars : List Char} {found : Regex.Found} (solid : isBlankText term = false)
    (member : found.stop ∈
      (termRegex caseSensitive wholeWord term).ends chars.toArray found.start) :
    ∃ part, trim? chars found = some part := by
  obtain ⟨stop, spelled⟩ := spelled_of_mem_ends_termRegex member
  obtain ⟨c, charMember, charSolid⟩ := List.all_eq_false.mp solid
  obtain ⟨k, d, low, high, read, contained⟩ := spelled.exists_contains charMember
  have blank := CharSet.isBlank_eq_of_contains_literal contained
  rw [Bool.not_eq_true] at charSolid
  rw [List.getElem?_toArray] at read
  obtain ⟨part, trimmed, -⟩ := exists_trim? low (stop ▸ high) read (blank.trans charSolid)
  exact ⟨part, trimmed⟩

/-- Terms that are not blank occur in a text if one of them matches somewhere. -/
theorem occurrences_ofTerms_ne_nil_iff {terms : List String} {path text : String}
    {caseSensitive wholeWord : Bool} (solid : ∀ term ∈ terms, isBlankText term = false) :
    (ofTerms terms path caseSensitive wholeWord).occurrences text ≠ [] ↔
      ∃ term ∈ terms, ∃ i j, i ≤ text.toList.toArray.size ∧
        j ∈ (termRegex caseSensitive wholeWord term).ends text.toList.toArray i := by
  constructor
  · intro found
    obtain ⟨bytes, member⟩ := List.exists_mem_of_ne_nil _ found
    obtain ⟨part, trimmed, -⟩ := List.mem_map.mp member
    obtain ⟨span, spanned, -⟩ := List.mem_filterMap.mp trimmed
    obtain ⟨i, j, within, ended⟩ := Regex.spans_ne_nil_iff.mp (List.ne_nil_of_mem spanned)
    obtain ⟨term, termMember, ended⟩ := mem_ends_ofTerms.mp ended
    exact ⟨term, termMember, i, j, within, ended⟩
  · intro given
    obtain ⟨term, termMember, i, j, within, ended⟩ := given
    have scanned := Regex.spans_ne_nil_iff.mpr
      ⟨i, j, within, @mem_ends_ofTerms terms path _ _ _ _ _ |>.mpr ⟨term, termMember, ended⟩⟩
    obtain ⟨span, spanned⟩ := List.exists_mem_of_ne_nil _ scanned
    obtain ⟨found, foundMember, foundEnded⟩ :=
      mem_ends_ofTerms.mp (Regex.mem_ends_of_mem_spans spanned)
    obtain ⟨part, trimmed⟩ := exists_trim?_of_mem_ends (solid found foundMember) foundEnded
    exact List.ne_nil_of_mem
      (List.mem_map_of_mem (List.mem_filterMap.mpr ⟨span, spanned, trimmed⟩))

theorem occurrences_ofTerms_ne_nil_iff_single {terms : List String} {path text : String}
    {caseSensitive wholeWord : Bool} (solid : ∀ term ∈ terms, isBlankText term = false) :
    (ofTerms terms path caseSensitive wholeWord).occurrences text ≠ [] ↔
      ∃ term ∈ terms, (ofTerms [term] path caseSensitive wholeWord).occurrences text ≠ [] := by
  rw [occurrences_ofTerms_ne_nil_iff solid]
  have single (term : String) (member : term ∈ terms) :=
    @occurrences_ofTerms_ne_nil_iff [term] path text caseSensitive wholeWord
      (by simpa using solid term member)
  constructor
  · intro given
    obtain ⟨term, member, ended⟩ := given
    exact ⟨term, member, (single term member).mpr ⟨term, List.mem_singleton_self term, ended⟩⟩
  · intro given
    obtain ⟨term, member, found⟩ := given
    obtain ⟨other, otherMember, ended⟩ := (single term member).mp found
    rw [List.mem_singleton.mp otherMember] at ended
    exact ⟨term, member, ended⟩

end Scanner

/-! Matches. -/

namespace Layer

/-- The match of the tokens that some bytes belong to. -/
def matchOver (layer : Layer) (feature : String) (bytes : Span) : Match :=
  let first := layer.tokenOf bytes.start
  let tokens := List.range' first (layer.tokenOf (bytes.stop - 1) + 1 - first)
  ⟨tokens, List.replicate tokens.length feature, tokens.map layer.textOf⟩

theorem matchOf_eq {layer : Layer} {bytes : Span} (key : LayerKey)
    (spans : (TokenIndex.build layer.text).spans ≠ []) (less : bytes.start < bytes.stop)
    (within : bytes.stop ≤ byteLength layer.text.toList) :
    layer.matchOf key bytes = .ok (layer.matchOver key.feature bytes) := by
  have lastWithin : bytes.stop - 1 < byteLength layer.text.toList := by omega
  have texts := @mapM_eq_ok_map _ _ _ (layer.tokenText key) layer.textOf
    (List.range' (layer.tokenOf bytes.start)
      (layer.tokenOf (bytes.stop - 1) + 1 - layer.tokenOf bytes.start)) (by
        intro token member
        have last := tokenOf_lt spans lastWithin
        obtain ⟨low, high⟩ := List.mem_range'_1.mp member
        exact tokenText_eq key (by omega))
  rw [matchOf, tokenAt_eq key spans (by omega), ok_bind, tokenAt_eq key spans lastWithin, ok_bind]
  dsimp only
  rw [texts]
  rfl

end Layer

namespace Scanner

/-- All matches in a document, none if it lacks the layer. -/
def results (scanner : Scanner) (document : Document) : List Match :=
  match document.layers.get? scanner.key with
  | none => []
  | some layer =>
    Match.keepLast ((scanner.occurrences layer.text).map (layer.matchOver scanner.key.feature))

/-- The only error is that of a layer that the document lacks. -/
theorem find_outcome (scanner : Scanner) (document : Document) :
    (scanner.find document).outcome =
      if document.contains scanner.key then .ok (scanner.results document)
      else .error (.unknownLayer scanner.key) := by
  rw [find, results, Document.contains, Entries.contains, Document.layer]
  cases present : document.layers.get? scanner.key with
  | none => rfl
  | some layer =>
      have built := @mapM_eq_ok_map _ _ _ (layer.matchOf scanner.key)
        (layer.matchOver scanner.key.feature) (scanner.occurrences layer.text) (by
          intro bytes member
          obtain ⟨less, within, spans⟩ := bounds_of_mem_occurrences member
          exact Layer.matchOf_eq scanner.key spans less within)
      rw [Traced.outcome_bind, Traced.outcome_liftM, ok_bind]
      cases found : scanner.occurrences layer.text with
      | nil => simp [found, Match.keepLast]
      | cons first rest =>
          rw [found] at built
          simp [built, found]

theorem results_ne_nil_iff {scanner : Scanner} {document : Document} :
    scanner.results document ≠ [] ↔
      ∃ layer, document.layers.get? scanner.key = some layer ∧
        scanner.occurrences layer.text ≠ [] := by
  rw [results]
  cases document.layers.get? scanner.key with
  | none => simp
  | some layer => simp [Match.keepLast_ne_nil_iff]

theorem results_eq_nil_of_missing {scanner : Scanner} {document : Document}
    (missing : document.contains scanner.key = false) : scanner.results document = [] := by
  rw [Document.contains, Entries.contains, Option.isSome_eq_false_iff,
    Option.isNone_iff_eq_none] at missing
  rw [results, missing]

theorem exists_of_mem_results {scanner : Scanner} {document : Document} {found : Match}
    (member : found ∈ scanner.results document) :
    ∃ layer, document.layers.get? scanner.key = some layer ∧
      ∃ bytes ∈ scanner.occurrences layer.text,
        layer.matchOver scanner.key.feature bytes = found := by
  rw [results] at member
  cases present : document.layers.get? scanner.key with
  | none =>
      rw [present] at member
      cases member
  | some layer =>
      rw [present] at member
      exact ⟨layer, rfl, List.mem_map.mp (Match.mem_of_mem_keepLast member)⟩

theorem tokens_of_mem_results {scanner : Scanner} {document : Document} {found : Match}
    (member : found ∈ scanner.results document) :
    ∃ first count, found.tokens = List.range' first count := by
  obtain ⟨layer, -, bytes, -, rfl⟩ := exists_of_mem_results member
  exact ⟨_, _, rfl⟩

/-- Terms that are not blank are found in a document exactly if one of them is. -/
theorem results_ofTerms_ne_nil_iff {terms : List String} {path : String} {document : Document}
    {caseSensitive wholeWord : Bool} (solid : ∀ term ∈ terms, isBlankText term = false) :
    (ofTerms terms path caseSensitive wholeWord).results document ≠ [] ↔
      ∃ term ∈ terms, (ofTerms [term] path caseSensitive wholeWord).results document ≠ [] := by
  simp only [results_ne_nil_iff, occurrences_ofTerms_ne_nil_iff_single solid]
  constructor
  · intro given
    obtain ⟨layer, present, term, member, found⟩ := given
    exact ⟨term, member, layer, present, found⟩
  · intro given
    obtain ⟨term, member, layer, present, found⟩ := given
    exact ⟨layer, present, term, member, found⟩

end Scanner

end Concordance
