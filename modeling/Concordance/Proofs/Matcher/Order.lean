import Concordance.Proofs.Match.Order
import Concordance.Proofs.Matcher.Results

/-!
The order of results.  Occurrences follow each other in a text, and their tokens with them, so the
matches of a scanner are in order before repeats are dropped; what a tree of matchers finds is
strictly increasing at its root.
-/

namespace Concordance

open Text Pattern

/-! Scanners. -/

theorem Scanner.pairwise_occurrences (scanner : Scanner) (text : String) :
    (scanner.occurrences text).Pairwise fun first second => first.stop ≤ second.start := by
  rw [occurrences, List.pairwise_map]
  apply (Regex.pairwise_spans scanner.regex _).filterMap
  intro first second apart part trimmed other otherTrimmed
  have bounds := bounds_of_trim? trimmed
  have otherBounds := bounds_of_trim? otherTrimmed
  exact byteOffset_mono (by omega)

/-- Runs of which one ends where the other starts, at the latest, are in lexicographic order. -/
private theorem not_range'_lt_range' {first last next final : Nat} (run : first ≤ last)
    (follows : last ≤ next) (other : next ≤ final) :
    ¬List.range' next (final + 1 - next) < List.range' first (last + 1 - first) := by
  obtain ⟨count, rfl⟩ := Nat.exists_eq_add_of_le run
  obtain ⟨others, rfl⟩ := Nat.exists_eq_add_of_le other
  rw [Nat.add_assoc, Nat.add_sub_cancel_left, Nat.add_assoc, Nat.add_sub_cancel_left,
    List.range'_succ, List.range'_succ, List.not_lt, List.cons_le_cons_iff]
  rcases Nat.lt_or_eq_of_le (Nat.le_trans run follows) with less | rfl
  · exact .inl less
  · obtain rfl : count = 0 := by omega
    exact .inr ⟨rfl, List.nil_le _⟩

theorem Layer.matchOver_features (layer : Layer) (feature : String) (bytes : Span) :
    (layer.matchOver feature bytes).features =
      List.replicate (layer.matchOver feature bytes).tokens.length feature := rfl

theorem Layer.matchOver_le {layer : Layer} {first second : Span} (feature : String)
    (firstSome : first.start < first.stop) (apart : first.stop ≤ second.start)
    (secondSome : second.start < second.stop)
    (within : second.stop ≤ byteLength layer.text.toList) :
    (layer.matchOver feature first).le (layer.matchOver feature second) = true := by
  have tokens :
      ¬(layer.matchOver feature second).tokens < (layer.matchOver feature first).tokens :=
    not_range'_lt_range' (tokenOf_le_tokenOf (by omega) (by omega))
      (tokenOf_le_tokenOf (by omega) (by omega)) (tokenOf_le_tokenOf (by omega) (by omega))
  rw [Match.le_iff]
  rcases List.le_iff_lt_or_eq.mp (List.not_lt.mp tokens) with less | equal
  · exact .inl less
  · refine .inr ⟨equal, ?_⟩
    rw [matchOver_features, matchOver_features, equal]
    exact List.lt_irrefl _

theorem Scanner.increasing_results (scanner : Scanner) (document : Document) :
    Match.Increasing (scanner.results document) := by
  rw [results]
  cases document.layers.get? scanner.key with
  | none => exact .nil
  | some layer =>
      apply Match.increasing_keepLast
      rw [List.pairwise_map]
      apply (scanner.pairwise_occurrences layer.text).imp_of_mem
      intro first second firstMember secondMember apart
      have firstBounds := bounds_of_mem_occurrences firstMember
      have secondBounds := bounds_of_mem_occurrences secondMember
      exact Layer.matchOver_le scanner.key.feature firstBounds.1 apart secondBounds.1
        secondBounds.2.1

/-! Matchers. -/

namespace Matcher

/-- No induction is needed: every combinator puts what it gives in order. -/
theorem increasing_results (document : Document) (matcher : Matcher) :
    Match.Increasing (matcher.results document) := by
  cases matcher with
  | scan scanner => exact scanner.increasing_results document
  | intersection components matchFirst =>
      exact Match.increasing_finish (Match.increasing_merged _ _)
  | union components => exact Match.increasing_union _
  | concatenation components => exact Match.increasing_merged _ _
  | gap components slop matchFirst => exact Match.increasing_finish (Match.increasing_merged _ _)
  | layerMatch components => exact Match.increasing_merged _ _
  | negation child => exact Match.increasing_negation _

/-- What is found is strictly increasing, and so no two matches in it are the same. -/
theorem find_increasing {document : Document} {matcher : Matcher} {found : List Match}
    (finds : (matcher.find document).outcome = .ok found) :
    Match.Increasing found ∧
      found.Pairwise fun earlier later =>
        earlier.compare later = .lt ∧ earlier.same later = false := by
  rw [find_outcome, Document.require_eq_ok_iff] at finds
  obtain ⟨-, rfl⟩ := finds
  have increasing := increasing_results document matcher
  refine ⟨increasing, increasing.imp ?_⟩
  intro earlier later precedes
  exact ⟨Match.compare_eq_lt_iff.mpr precedes, precedes.not_same⟩

end Matcher

/-! A pair of tokens comes after its first token and before its second one. -/

def Document.redHen : Document :=
  Document.empty.insertPath "text" "red hen"

namespace Matcher

def word (term : String) : Matcher :=
  .scan (.ofTerms [term] "text" true false)

def pairOrWord : Matcher :=
  .union [word "hen", .concatenation [word "red", word "hen"], word "red"]

def pairOrWordFound : List Match :=
  [⟨[0], ["text"], ["red"]⟩, ⟨[0, 1], ["text", "text"], ["red", "hen"]⟩, ⟨[1], ["text"], ["hen"]⟩]

private theorem pairOrWord_finds : (pairOrWord.find .redHen).outcome = .ok pairOrWordFound := by
  have parts : (resultsOfAll .redHen [word "hen", .concatenation [word "red", word "hen"],
      word "red"]).flatten.reverse = pairOrWordFound := by decide +kernel
  have sorted : pairOrWordFound.Pairwise fun first second => first.le second = true := by decide
  rw [find_outcome, Document.require_eq_ok_iff]
  refine ⟨by decide, ?_⟩
  rw [pairOrWord, results, Match.union, Match.canonicalFirst, Match.canonical, parts,
    List.mergeSort_of_pairwise sorted]
  rfl

theorem find_increasing_redHen :
    (pairOrWord.find .redHen).outcome = .ok pairOrWordFound ∧
      Match.Increasing pairOrWordFound ∧
      pairOrWordFound.Pairwise fun earlier later =>
        earlier.compare later = .lt ∧ earlier.same later = false :=
  ⟨pairOrWord_finds, find_increasing pairOrWord_finds⟩

end Matcher

end Concordance
