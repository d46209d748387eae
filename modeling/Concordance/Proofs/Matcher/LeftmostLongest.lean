import Concordance.Proofs.Matcher.Scanner

/-!
The scan for literal terms.  The terms are tried from the longest to the shortest, so the first one
that is matched at a position is the longest one that stands there, and the scan goes on behind it.
That is a scan described without any order of the terms, so neither their order nor repeated terms
change what is found.
-/

namespace Concordance.Scanner

open Text Pattern

def StandsAt (text : List Char) (i : Nat) (term : String) : Prop :=
  term.toList <+: text.drop i

structure Longest (terms : List String) (text : List Char) (i : Nat) (term : String) : Prop where
  member : term ∈ terms
  stands : StandsAt text i term
  longest : ∀ other ∈ terms, StandsAt text i other → other.toList.length ≤ term.toList.length

/-- The spans of a scan from a position on: the leftmost place where a term stands, there the
longest of them, and so on from its end. -/
inductive LeftmostLongest (terms : List String) (text : List Char) :
    (start : Nat) → List Regex.Found → Prop
  | done {start : Nat} (absent : ∀ i, start ≤ i → ∀ term ∈ terms, ¬StandsAt text i term) :
      LeftmostLongest terms text start []
  | next {start i : Nat} {term : String} {rest : List Regex.Found} (later : start ≤ i)
      (leftmost : ∀ j, start ≤ j → j < i → ∀ term ∈ terms, ¬StandsAt text j term)
      (longest : Longest terms text i term)
      (after : LeftmostLongest terms text (i + term.toList.length) rest) :
      LeftmostLongest terms text start (⟨i, i + term.toList.length⟩ :: rest)

variable {terms others : List String} {path : String} {text : List Char} {i j : Nat}

/-! One scan at most fits the description, and the order of the terms is not part of it. -/

theorem Longest.length_eq {term other : String} (one : Longest terms text i term)
    (another : Longest terms text i other) : term.toList.length = other.toList.length :=
  Nat.le_antisymm (another.longest term one.member one.stands)
    (one.longest other another.member another.stands)

theorem LeftmostLongest.unique {start : Nat} {found other : List Regex.Found}
    (one : LeftmostLongest terms text start found)
    (another : LeftmostLongest terms text start other) : found = other := by
  induction one generalizing other with
  | done absent =>
      cases another with
      | done => rfl
      | next later _ longest _ => exact absurd longest.stands (absent _ later _ longest.member)
  | @next start i term rest later leftmost longest _ ih =>
      cases another with
      | done absent => exact absurd longest.stands (absent i later term longest.member)
      | @next _ j _ _ otherLater otherLeftmost otherLongest otherAfter =>
          obtain rfl : i = j := by
            rcases Nat.lt_trichotomy i j with before | same | behind
            · exact absurd longest.stands (otherLeftmost i later before term longest.member)
            · exact same
            · exact absurd otherLongest.stands
                (leftmost j otherLater behind _ otherLongest.member)
          rw [← longest.length_eq otherLongest] at otherAfter ⊢
          rw [ih otherAfter]

theorem LeftmostLongest.congr (same : ∀ term, term ∈ others ↔ term ∈ terms) {start : Nat}
    {found : List Regex.Found} (scan : LeftmostLongest terms text start found) :
    LeftmostLongest others text start found := by
  induction scan with
  | done absent =>
      exact .done fun i later term member => absent i later term ((same term).mp member)
  | next later leftmost longest _ ih =>
      obtain ⟨member, stands, longest⟩ := longest
      refine .next later ?_ ⟨(same _).mpr member, stands, ?_⟩ ih
      · exact fun j beyond before term member =>
          leftmost j beyond before term ((same term).mp member)
      · exact fun other member => longest other ((same other).mp member)

/-! The scan of the expression. -/

theorem mem_ends_termRegex_inside {term : String} :
    j ∈ (termRegex true false term).ends text.toArray i ↔
      j = i + term.toList.length ∧ StandsAt text i term := by
  constructor
  · intro ended
    obtain ⟨stop, spelled⟩ := spelled_of_mem_ends_termRegex ended
    exact ⟨stop, spelled_iff.mp spelled⟩
  · rintro ⟨stop, stands⟩
    have literal := Regex.mem_ends_literal.mpr ⟨stop, spelled_iff.mpr stands⟩
    simp [termRegex, edge, Regex.ends, literal]

theorem head?_ends_eq_none_iff {term : String} :
    ((termRegex true false term).ends text.toArray i).head? = none ↔ ¬StandsAt text i term := by
  rw [List.head?_eq_none_iff, List.eq_nil_iff_forall_not_mem]
  simp [mem_ends_termRegex_inside]

theorem end?_ofTerms_eq_findSome? :
    (ofTerms terms path true false).regex.end? text.toArray i =
      (longestFirst terms).findSome? fun term =>
        ((termRegex true false term).ends text.toArray i).head? := by
  rw [Regex.end?, ofTerms, Regex.ends_firstOf, List.flatMap_map, List.head?_flatMap]

theorem end?_ofTerms_eq_none_iff :
    (ofTerms terms path true false).regex.end? text.toArray i = none ↔
      ∀ term ∈ terms, ¬StandsAt text i term := by
  simp only [end?_ofTerms_eq_findSome?, List.findSome?_eq_none_iff, mem_longestFirst,
    head?_ends_eq_none_iff]

theorem pairwise_longestFirst (terms : List String) :
    (longestFirst terms).Pairwise fun one later =>
      byteLength later.toList ≤ byteLength one.toList := by
  let le (one later : String) : Bool := byteLength later.toList ≤ byteLength one.toList
  have trans (one later last : String) (first : le one later = true)
      (second : le later last = true) : le one last = true :=
    decide_eq_true (Nat.le_trans (of_decide_eq_true second) (of_decide_eq_true first))
  have total (one later : String) : (le one later || le later one) = true := by
    simpa [le] using Nat.le_total _ _
  exact (List.pairwise_mergeSort trans total terms).imp of_decide_eq_true

/-- Of two terms at one position the one with more bytes has more characters. -/
theorem length_le_of_byteLength_le {list one other : List Char} (oneStands : one <+: list)
    (otherStands : other <+: list) (bytes : byteLength other ≤ byteLength one) :
    other.length ≤ one.length := by
  rcases Nat.le_total other.length one.length with shorter | longer
  · exact shorter
  · obtain ⟨rest, rfl⟩ := List.prefix_of_prefix_length_le oneStands otherStands longer
    cases rest with
    | nil => simp
    | cons c rest =>
        have positive := c.utf8Size_pos
        rw [byteLength_append, byteLength_cons] at bytes
        omega

theorem longest_of_end?_ofTerms
    (ended : (ofTerms terms path true false).regex.end? text.toArray i = some j) :
    ∃ term, Longest terms text i term ∧ j = i + term.toList.length := by
  rw [end?_ofTerms_eq_findSome?] at ended
  obtain ⟨before, term, after, split, head, passed⟩ := List.findSome?_eq_some_iff.mp ended
  obtain ⟨stop, stands⟩ := mem_ends_termRegex_inside.mp (List.mem_of_head? head)
  have ordered := pairwise_longestFirst terms
  rw [split, List.pairwise_append, List.pairwise_cons] at ordered
  refine ⟨term, ⟨mem_longestFirst.mp (by simp [split]), stands, ?_⟩, stop⟩
  intro other member otherStands
  rw [← mem_longestFirst, split, List.mem_append, List.mem_cons] at member
  rcases member with member | rfl | member
  · exact absurd otherStands (head?_ends_eq_none_iff.mp (passed other member))
  · exact Nat.le_refl _
  · exact length_le_of_byteLength_le stands otherStands (ordered.2.1.1 other member)

/-- The positions before `first` are done: no term stands there that starts behind the last span. -/
theorem leftmostLongest_spansFrom (solid : ∀ term ∈ terms, isBlankText term = false)
    (count first : Nat) (last : Option Nat) (reach : first + count = text.length + 1)
    (passed : ∀ i, last.getD 0 ≤ i → i < first → ∀ term ∈ terms, ¬StandsAt text i term) :
    LeftmostLongest terms text (last.getD 0)
      ((ofTerms terms path true false).regex.spansFrom text.toArray (List.range' first count)
        last) := by
  induction count generalizing first last with
  | zero =>
      refine .done fun i later term member stands => ?_
      rcases Nat.lt_or_ge i first with inside | beyond
      · exact passed i later inside term member stands
      · rw [StandsAt, List.drop_eq_nil_of_le (by omega), List.prefix_nil] at stands
        exact toList_ne_nil_of_solid (solid term member) stands
  | succ count ih =>
      have onward {last : Option Nat} := @ih (first + 1) last (by omega)
      -- A position from which no span starts joins those that are done.
      have step (here : ∀ term ∈ terms, last.getD 0 ≤ first → ¬StandsAt text first term) :
          LeftmostLongest terms text (last.getD 0)
            ((ofTerms terms path true false).regex.spansFrom text.toArray
              (List.range' (first + 1) count) last) := by
        refine onward fun i later inside term member => ?_
        rcases Nat.lt_succ_iff_lt_or_eq.mp inside with inside | rfl
        · exact passed i later inside term member
        · exact here term member later
      rw [List.range'_succ, Regex.spansFrom]
      split
      · next behind => exact step fun term member later => absurd behind (Nat.not_lt.mpr later)
      · next later =>
        split
        · next never =>
          exact step fun term member _ => end?_ofTerms_eq_none_iff.mp never term member
        · next j ended =>
          obtain ⟨term, longest, rfl⟩ := longest_of_end?_ofTerms ended
          have positive := List.length_pos_iff.mpr
            (toList_ne_nil_of_solid (solid term longest.member))
          rw [if_neg (by omega)]
          refine .next (Nat.not_lt.mp later) passed longest ?_
          apply @onward (some (first + term.toList.length))
          intro i behind inside
          rw [Option.getD_some] at behind
          omega

theorem leftmostLongest_spans (path : String) (text : List Char)
    (solid : ∀ term ∈ terms, isBlankText term = false) :
    LeftmostLongest terms text 0 ((ofTerms terms path true false).regex.spans text.toArray) := by
  rw [Regex.spans, List.range_eq_range', List.size_toArray]
  exact leftmostLongest_spansFrom solid _ 0 none (Nat.zero_add _) fun i _ => nofun

theorem find_eq_of_occurrences_eq {one other : Scanner} (keys : one.key = other.key)
    (same : ∀ text, one.occurrences text = other.occurrences text) (document : Document) :
    one.find document = other.find document := by
  simp only [find, keys, same]

/-- The scan for terms that are not blank takes, again and again, the leftmost place where one of
them stands and there the longest.  Terms in another order or repeated are found as before. -/
theorem scan_leftmostLongest (solid : ∀ term ∈ terms, isBlankText term = false) :
    (∀ text found, (ofTerms terms path true false).regex.spans text.toArray = found ↔
      LeftmostLongest terms text 0 found) ∧
    ∀ others, (∀ term, term ∈ others ↔ term ∈ terms) → ∀ document,
      (ofTerms others path true false).find document =
        (ofTerms terms path true false).find document := by
  have scan (text : List Char) := leftmostLongest_spans path text solid
  constructor
  · intro text found
    constructor
    · rintro rfl
      exact scan text
    · exact (scan text).unique
  · intro others same document
    have otherSolid : ∀ term ∈ others, isBlankText term = false :=
      fun term member => solid term ((same term).mp member)
    refine find_eq_of_occurrences_eq (by rfl) (fun text => ?_) document
    have spans := (leftmostLongest_spans path text.toList otherSolid).unique
      ((scan text.toList).congr same)
    rw [occurrences, occurrences, spans]

/-- The longer of two terms with a common start is taken, a blank within a term is as any character,
and a bracket is no group. -/
theorem scan_leftmostLongest_abc :
    let terms := ["abc", "c d", "(c)", "ab"]
    (∀ term ∈ terms, isBlankText term = false) ∧
      LeftmostLongest terms "xabc d(c)".toList 0 [⟨1, 4⟩, ⟨6, 9⟩] ∧
      ∀ document, (ofTerms ["(c)", "ab", "c d", "ab", "abc"] "text" true false).find document =
        (ofTerms terms "text" true false).find document := by
  intro terms
  have solid : ∀ term ∈ terms, isBlankText term = false := by decide
  obtain ⟨scan, order⟩ := @scan_leftmostLongest terms "text" solid
  refine ⟨solid, (scan _ _).mp ?_, order _ ?_⟩
  · have sorted : longestFirst terms = terms := List.mergeSort_of_pairwise (by decide)
    rw [ofTerms, sorted]
    decide +kernel
  · intro term
    simp only [terms, List.mem_cons, List.not_mem_nil, or_false]
    grind

end Concordance.Scanner
