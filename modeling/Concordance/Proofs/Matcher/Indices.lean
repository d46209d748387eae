import Concordance.Proofs.Layer.Texts
import Concordance.Proofs.Matcher.Errors
import Concordance.Proofs.Query.Meaning
import Mathlib.Data.List.TakeWhile

/-!
Indices in evaluation.  Matchers and queries read nothing of a document but its texts.  Every
component of a matcher is evaluated, found or not, so an evaluation that succeeds needs the index of
the layer of every scanner that has a match, and no other.
-/

namespace Concordance

variable {left right : Document}

/-! What is kept does not show. -/

theorem Layer.matchOf_congr {first second : Layer} (same : first.text = second.text)
    (key : LayerKey) (bytes : Span) : first.matchOf key bytes = second.matchOf key bytes := by
  have texts : first.tokenText key = second.tokenText key := funext (tokenText_congr same key)
  rw [matchOf, matchOf, tokenAt_congr same, tokenAt_congr same, texts]

theorem Scanner.find_congr (same : left.texts = right.texts) (scanner : Scanner) :
    scanner.find left = scanner.find right := by
  apply Document.bind_layer_congr same scanner.key
  intro first second text
  rw [text, funext (Layer.matchOf_congr text scanner.key)]

namespace Matcher

mutual

theorem find_congr (same : left.texts = right.texts) : ∀ matcher : Matcher,
    matcher.find left = matcher.find right
  | scan scanner => by rw [find, find, scanner.find_congr same]
  | intersection components matchFirst => by rw [find, find, findAll_congr same components]
  | union components => by rw [find, find, findAll_congr same components]
  | concatenation components => by rw [find, find, findAll_congr same components]
  | gap components slop matchFirst => by rw [find, find, findAll_congr same components]
  | layerMatch components => by rw [find, find, findAll_congr same components]
  | negation child => by rw [find, find, find_congr same child]

theorem findAll_congr (same : left.texts = right.texts) : ∀ components : List Matcher,
    findAll left components = findAll right components
  | [] => rfl
  | component :: rest => by
      rw [findAll, findAll, find_congr same component, findAll_congr same rest]

end

theorem isMatch_congr (same : left.texts = right.texts) (matcher : Matcher) :
    matcher.isMatch left = matcher.isMatch right := by
  rw [isMatch, isMatch, find_congr same]

end Matcher

namespace PreparedClause

mutual

theorem holds_congr (same : left.texts = right.texts) : ∀ clause : PreparedClause,
    clause.holds left = clause.holds right
  | scan scanner => by
      rw [holds, holds, Document.contains_congr same, scanner.find_congr same]
  | bool should must mustNot minimum => by
      rw [holds, holds, holdsAll_congr same must, holdsAny_congr same mustNot,
        holdsAtLeast_congr same should minimum]
  | const value => rfl

theorem holdsAll_congr (same : left.texts = right.texts) : ∀ clauses : List PreparedClause,
    holdsAll left clauses = holdsAll right clauses
  | [] => rfl
  | clause :: rest => by
      rw [holdsAll, holdsAll, holds_congr same clause, holdsAll_congr same rest]

theorem holdsAny_congr (same : left.texts = right.texts) : ∀ clauses : List PreparedClause,
    holdsAny left clauses = holdsAny right clauses
  | [] => rfl
  | clause :: rest => by
      rw [holdsAny, holdsAny, holds_congr same clause, holdsAny_congr same rest]

theorem holdsAtLeast_congr (same : left.texts = right.texts) :
    ∀ (clauses : List PreparedClause) (minimum : Nat),
      holdsAtLeast left minimum clauses = holdsAtLeast right minimum clauses
  | [], _ => rfl
  | clause :: rest, minimum => by
      rw [holdsAtLeast, holdsAtLeast, holds_congr same clause,
        holdsAtLeast_congr same rest (minimum - 1), holdsAtLeast_congr same rest minimum]

end

end PreparedClause

theorem Query.holds_congr (same : left.texts = right.texts) (query : Query) :
    query.holds left = query.holds right := by
  rw [holds, holds, funext (PreparedClause.holds_congr same)]

/-! What an evaluation needs. -/

variable {document : Document}

/-- The layers of the scanners that have a match, from left to right. -/
def matchedKeys (document : Document) (scanners : List Scanner) : List LayerKey :=
  (scanners.filter fun scanner => !(scanner.results document).isEmpty).map Scanner.key

theorem matchedKeys_append (scanners others : List Scanner) :
    matchedKeys document (scanners ++ others) =
      matchedKeys document scanners ++ matchedKeys document others := by
  rw [matchedKeys, List.filter_append, List.map_append]
  rfl

theorem mem_matchedKeys_iff {scanners : List Scanner} {key : LayerKey} :
    key ∈ matchedKeys document scanners ↔
      ∃ scanner ∈ scanners, scanner.key = key ∧ scanner.Finds document := by
  simp only [matchedKeys, List.mem_map, List.mem_filter, Bool.not_eq_true',
    List.isEmpty_eq_false_iff, Scanner.finds_iff]
  constructor
  · rintro ⟨scanner, ⟨member, some⟩, same⟩
    exact ⟨scanner, member, same, some⟩
  · rintro ⟨scanner, member, same, some⟩
    exact ⟨scanner, ⟨member, some⟩, same⟩

theorem matchedKeys_singleton (scanner : Scanner) :
    matchedKeys document [scanner] =
      if (scanner.results document).isEmpty then [] else [scanner.key] := by
  rw [matchedKeys, List.filter_cons]
  cases (scanner.results document).isEmpty with
  | true => rfl
  | false => rfl

theorem Scanner.needed_find (scanner : Scanner) (document : Document) :
    (scanner.find document).needed = matchedKeys document [scanner] := by
  rw [matchedKeys_singleton, find, Document.layer]
  cases present : document.layers.get? scanner.key with
  | none =>
      rw [results, present]
      rfl
  | some layer =>
      have same := @results_ne_nil_iff scanner document
      simp only [present, Option.some.injEq, exists_eq_left', ne_eq, not_iff_not] at same
      rw [Traced.liftM_ok_bind]
      split
      · next nowhere =>
        rw [same.mpr nowhere]
        rfl
      · next somewhere =>
        rw [List.isEmpty_eq_false_iff.mpr (mt same.mp somewhere),
          Traced.needed_bind (Traced.outcome_needIndex scanner.key),
          Traced.needed_bind_of_nil _ fun _ => Traced.needed_pure _]
        simp

namespace Matcher

theorem find_eq_results_iff {matcher : Matcher} :
    (matcher.find document).outcome = .ok (matcher.results document) ↔
      ∀ scanner ∈ matcher.scanners, document.contains scanner.key = true := by
  rw [find_outcome, Document.require_eq_ok_iff, keys_eq_map_scanners, List.forall_mem_map]
  exact and_iff_left rfl

theorem needed_combine (combinator : List (List Match) → List Match) (lists : List (List Match)) :
    (combine combinator lists).needed = [] := by
  rw [combine, Traced.needed_bind (Traced.outcome_report _)]
  simp

mutual

/-- Evaluation comes to the scanners one by one, up to the first whose layer is missing. -/
theorem needed_find : ∀ matcher : Matcher, (matcher.find document).needed =
    matchedKeys document (matcher.scanners.takeWhile fun scanner => document.contains scanner.key)
  | scan scanner => by
      rw [find, scanner.needed_find, scanners, List.takeWhile_cons]
      cases present : document.contains scanner.key with
      | true => rfl
      | false =>
          rw [matchedKeys_singleton, Scanner.results_eq_nil_of_missing present]
          rfl
  | intersection components _ => by
      rw [find, scanners, Traced.needed_bind_of_nil _ (needed_combine _), needed_findAll components]
  | union components => by
      rw [find, scanners, Traced.needed_bind_of_nil _ fun _ => Traced.needed_pure _,
        needed_findAll components]
  | concatenation components => by
      rw [find, scanners, Traced.needed_bind_of_nil _ (needed_combine _), needed_findAll components]
  | gap components _ _ => by
      rw [find, scanners, Traced.needed_bind_of_nil _ (needed_combine _), needed_findAll components]
  | layerMatch components => by
      rw [find, scanners, Traced.needed_bind_of_nil _ (needed_combine _), needed_findAll components]
  | negation child => by
      rw [find, scanners, Traced.needed_bind_of_nil _ fun _ => Traced.needed_pure _,
        needed_find child]

theorem needed_findAll : ∀ components : List Matcher, (findAll document components).needed =
    matchedKeys document
      ((scannersOfAll components).takeWhile fun scanner => document.contains scanner.key)
  | [] => rfl
  | component :: rest => by
      rw [findAll, scannersOfAll]
      rcases find_outcome_cases document component with ⟨key, failed⟩ | succeeded
      · have stops : (component.scanners.takeWhile fun scanner =>
            document.contains scanner.key).length ≠ component.scanners.length := by
          intro all
          have present := List.takeWhile_eq_self_iff.mp
            ((List.takeWhile_prefix _).eq_of_length all)
          rw [find_eq_results_iff.mpr present] at failed
          cases failed
        -- The scanners of the rest come after one that stops the evaluation.
        rw [Traced.needed_bind_error failed, List.takeWhile_append, if_neg stops,
          needed_find component]
      · have present := find_eq_results_iff.mp succeeded
        rw [Traced.needed_bind succeeded, Traced.needed_bind_of_nil _ fun _ => Traced.needed_pure _,
          needed_find component, needed_findAll rest, List.takeWhile_append_of_pos present,
          List.takeWhile_eq_self_iff.mpr present, matchedKeys_append]

end

/-- An evaluation that succeeds keeps the index of the layer of every scanner with a match. -/
theorem isIndexed_after_find_iff {matcher : Matcher} {found : List Match} {key : LayerKey}
    (finds : (matcher.find document).outcome = .ok found) :
    (document.after (matcher.find document)).isIndexed key = .ok true ↔
      document.isIndexed key = .ok true ∨
        ∃ scanner ∈ matcher.scanners, scanner.key = key ∧ scanner.Finds document := by
  rw [Document.after, Document.isIndexed_remember_iff, needed_find]
  have present : ∀ scanner ∈ matcher.scanners, document.contains scanner.key = true := by
    rcases find_outcome_cases document matcher with ⟨key, failed⟩ | succeeded
    · rw [finds] at failed
      cases failed
    · exact find_eq_results_iff.mp succeeded
  rw [List.takeWhile_eq_self_iff.mpr present, mem_matchedKeys_iff]
  refine or_congr_right ?_
  constructor
  · exact And.right
  · rintro ⟨scanner, member, rfl, some⟩
    exact ⟨some.1, scanner, member, rfl, some⟩

end Matcher

end Concordance
