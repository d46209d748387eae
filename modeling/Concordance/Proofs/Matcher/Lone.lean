import Concordance.Proofs.Match.Members
import Concordance.Proofs.Matcher.Order

/-!
Lone components.  Every combinator that keeps all matches gives back what it finds in one list, if
that is in order and passes its test.  The matches of a scanner are runs of tokens, one at least, so
they pass every test of positions, however many combinators stand around the scanner.
-/

namespace Concordance

namespace Match

variable {list : List Match}

/-! One list. -/

theorem merged_singleton {keep : List Match → Bool} (increasing : Increasing list)
    (kept : ∀ found ∈ list, keep [found] = true) : merged [list] keep = list := by
  have merges : merge ∘ (fun found => [found]) = id := funext merge_singleton
  have all : ∀ parts ∈ list.map fun found => [found], keep parts = true :=
    List.forall_mem_map.mpr kept
  rw [merged, combinations_singleton, List.filter_eq_self.mpr all, List.map_map, merges,
    List.map_id, canonical_eq_self increasing]

theorem canonicalFirst_eq_self (increasing : Increasing list) : canonicalFirst list = list := by
  apply (increasing_canonicalFirst list).eq_of_mem_iff increasing
  intro found
  refine ⟨mem_of_mem_canonicalFirst, fun member => ?_⟩
  obtain ⟨kept, keptMember, same⟩ := exists_same_of_mem_canonicalFirst member
  rwa [← increasing.eq_of_same (mem_of_mem_canonicalFirst keptMember) member same]

theorem union_singleton (increasing : Increasing list) : union [list] = list := by
  rw [union, List.flatten_singleton, canonicalFirst_eq_self increasing]

theorem intersection_singleton (increasing : Increasing list) :
    intersection false [list] = list :=
  merged_singleton increasing fun _ _ => rfl

theorem layerMatch_singleton (increasing : Increasing list) : layerMatch [list] = list :=
  merged_singleton increasing fun found _ => isAligned_singleton found

theorem concatenation_singleton (increasing : Increasing list)
    (runs : ∀ found ∈ list, ∃ first count, found.tokens = List.range' first count) :
    concatenation [list] = list := by
  apply merged_singleton increasing
  intro found member
  obtain ⟨first, count, tokens⟩ := runs found member
  rw [merge_singleton]
  exact isContiguous_of_range' tokens

theorem gap_singleton {slop : Option Nat} (positive : slop ≠ some 0) (increasing : Increasing list)
    (runs : ∀ found ∈ list, ∃ first count, found.tokens = List.range' first count) :
    gap slop false [list] = list := by
  apply merged_singleton increasing
  intro found member
  obtain ⟨first, count, tokens⟩ := runs found member
  rw [merge_singleton]
  exact isWithin_of_range' positive tokens

end Match

namespace Matcher

variable {scanner : Scanner} {matcher : Matcher}

/-- A scanner with any number of combinators around it, each over a single component and keeping all
matches. -/
inductive Wraps (scanner : Scanner) : Matcher → Prop
  | scan : Wraps scanner (.scan scanner)
  | intersection {matcher : Matcher} (inner : Wraps scanner matcher) :
      Wraps scanner (.intersection [matcher] false)
  | union {matcher : Matcher} (inner : Wraps scanner matcher) : Wraps scanner (.union [matcher])
  | concatenation {matcher : Matcher} (inner : Wraps scanner matcher) :
      Wraps scanner (.concatenation [matcher])
  | gap {matcher : Matcher} {slop : Option Nat} (inner : Wraps scanner matcher)
      (positive : slop ≠ some 0) : Wraps scanner (.gap [matcher] slop false)
  | layerMatch {matcher : Matcher} (inner : Wraps scanner matcher) :
      Wraps scanner (.layerMatch [matcher])

theorem Wraps.keys_eq (wraps : Wraps scanner matcher) : matcher.keys = [scanner.key] := by
  induction wraps with
  | scan => rfl
  | intersection _ ih | union _ ih | concatenation _ ih | gap _ _ ih | layerMatch _ ih =>
      rw [keys, keysOfAll, keysOfAll, List.append_nil, ih]

theorem Wraps.results_eq (wraps : Wraps scanner matcher) (document : Document) :
    matcher.results document = scanner.results document := by
  have increasing := scanner.increasing_results document
  have runs := fun found => @Scanner.tokens_of_mem_results scanner document found
  induction wraps with
  | scan => rw [results]
  | intersection _ ih =>
      rw [results, resultsOfAll, resultsOfAll, ih, Match.intersection_singleton increasing]
  | union _ ih => rw [results, resultsOfAll, resultsOfAll, ih, Match.union_singleton increasing]
  | concatenation _ ih =>
      rw [results, resultsOfAll, resultsOfAll, ih, Match.concatenation_singleton increasing runs]
  | gap _ positive ih =>
      rw [results, resultsOfAll, resultsOfAll, ih, Match.gap_singleton positive increasing runs]
  | layerMatch _ ih =>
      rw [results, resultsOfAll, resultsOfAll, ih, Match.layerMatch_singleton increasing]

theorem Wraps.find_outcome_eq (wraps : Wraps scanner matcher) (document : Document) :
    (matcher.find document).outcome = (scanner.find document).outcome := by
  rw [find_outcome, scanner.find_outcome_eq_require, wraps.keys_eq, wraps.results_eq document]

/-- Over a single scanner every combinator that keeps all matches finds what the scanner finds,
texts included, and fails as it fails; and so does every nest of such combinators. -/
theorem find_lone (scanner : Scanner) (document : Document) :
    ((concatenation [scan scanner]).find document).outcome = (scanner.find document).outcome ∧
    (∀ slop : Option Nat, (∀ most ∈ slop, 1 ≤ most) →
      ((gap [scan scanner] slop false).find document).outcome =
        (scanner.find document).outcome) ∧
    ((layerMatch [scan scanner]).find document).outcome = (scanner.find document).outcome ∧
    ((intersection [scan scanner] false).find document).outcome =
      (scanner.find document).outcome ∧
    ((union [scan scanner]).find document).outcome = (scanner.find document).outcome ∧
    ∀ matcher, Wraps scanner matcher →
      (matcher.find document).outcome = (scanner.find document).outcome := by
  refine ⟨?_, ?_, ?_, ?_, ?_, fun matcher wraps => wraps.find_outcome_eq document⟩
  · exact (Wraps.concatenation .scan).find_outcome_eq document
  · intro slop positive
    have notZero : slop ≠ some 0 := by
      rintro rfl
      exact absurd (positive 0 rfl) (by decide)
    exact (Wraps.gap .scan notZero).find_outcome_eq document
  · exact (Wraps.layerMatch .scan).find_outcome_eq document
  · exact (Wraps.intersection .scan).find_outcome_eq document
  · exact (Wraps.union .scan).find_outcome_eq document

/-- A match of two tokens, the ends of both words, passes on. -/
theorem find_lone_redHen :
    ((gap [word "d h"] (some 1) false).find .redHen).outcome =
        .ok [⟨[0, 1], ["text", "text"], ["red", "hen"]⟩] ∧
      ((layerMatch [concatenation [word "d h"]]).find .redHen).outcome =
        .ok [⟨[0, 1], ["text", "text"], ["red", "hen"]⟩] := by
  let scanner : Scanner := .ofTerms ["d h"] "text" true false
  have found : (scanner.find .redHen).outcome =
      .ok [⟨[0, 1], ["text", "text"], ["red", "hen"]⟩] := by
    rw [Scanner.find_outcome, if_pos (by decide)]
    exact congrArg Except.ok (by decide +kernel)
  obtain ⟨-, apart, -, -, -, nested⟩ := find_lone scanner .redHen
  constructor
  · exact (apart (some 1) (by simp)).trans found
  · exact (nested _ (.layerMatch (.concatenation .scan))).trans found

end Matcher

end Concordance
