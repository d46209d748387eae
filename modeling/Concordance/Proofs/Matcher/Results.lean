import Concordance.Matcher.Basic
import Concordance.Proofs.Matcher.Scanner

/-!
What matchers find.  The matches of a tree are those of its scanners, combined, and only a missing
layer keeps them from being found.
-/

namespace Concordance

namespace Document

/-- A value for which some layers are needed: the first of them that is missing gives the error. -/
def require {α : Type} (document : Document) (keys : List LayerKey) (value : α) : Except Error α :=
  match keys.find? fun key => !document.contains key with
  | some key => .error (.unknownLayer key)
  | none => .ok value

variable {α β : Type} {document : Document}

theorem require_eq_ok_iff {keys : List LayerKey} {value other : α} :
    document.require keys value = .ok other ↔
      (∀ key ∈ keys, document.contains key = true) ∧ value = other := by
  rw [require]
  cases missing : keys.find? fun key => !document.contains key with
  | none =>
      have present : ∀ key ∈ keys, document.contains key = true := by simpa using missing
      simp only [Except.ok.injEq]
      exact ⟨fun same => ⟨present, same⟩, And.right⟩
  | some key =>
      have absent := List.find?_some missing
      have member := List.mem_of_find?_eq_some missing
      constructor
      · exact nofun
      · intro given
        obtain ⟨present, -⟩ := given
        rw [present key member] at absent
        cases absent

theorem require_eq_ok {keys : List LayerKey} (value : α)
    (present : ∀ key ∈ keys, document.contains key = true) :
    document.require keys value = .ok value :=
  require_eq_ok_iff.mpr ⟨present, rfl⟩

theorem require_bind {keys others : List LayerKey} {value : α} {result : β}
    {next : α → Except Error β} (continued : next value = document.require others result) :
    (document.require keys value >>= next) = document.require (keys ++ others) result := by
  rw [require, require, List.find?_append]
  cases keys.find? fun key => !document.contains key with
  | none => exact continued
  | some key => rfl

end Document

/-- A step that cannot fail needs nothing. -/
theorem Traced.outcome_bind_eq_require {α β : Type} {document : Document} {keys : List LayerKey}
    {value : α} {result : β} {first : Traced Error α} {next : α → Traced Error β}
    (needed : first.outcome = document.require keys value)
    (pure : (next value).outcome = .ok result) :
    (first >>= next).outcome = document.require keys result := by
  rw [outcome_bind, needed]
  have sum := @Document.require_bind _ _ document keys [] value result
    (fun value => (next value).outcome) pure
  rwa [List.append_nil] at sum

theorem Scanner.find_outcome_eq_require (scanner : Scanner) (document : Document) :
    (scanner.find document).outcome =
      document.require [scanner.key] (scanner.results document) := by
  rw [Scanner.find_outcome, Document.require, List.find?_singleton]
  cases document.contains scanner.key with
  | true => rfl
  | false => rfl

namespace Matcher

variable (document : Document)

mutual

/-- All matches in a document that has the layers of the scanners. -/
def results : Matcher → List Match
  | scan scanner => scanner.results document
  | intersection components matchFirst => Match.intersection matchFirst (resultsOfAll components)
  | union components => Match.union (resultsOfAll components)
  | concatenation components => Match.concatenation (resultsOfAll components)
  | gap components slop matchFirst => Match.gap slop matchFirst (resultsOfAll components)
  | layerMatch components => Match.layerMatch (resultsOfAll components)
  | negation child => Match.negation (results child)

def resultsOfAll : List Matcher → List (List Match)
  | [] => []
  | component :: rest => results component :: resultsOfAll rest

end

mutual

def keys : Matcher → List LayerKey
  | scan scanner => [scanner.key]
  | intersection components _ => keysOfAll components
  | union components => keysOfAll components
  | concatenation components => keysOfAll components
  | gap components _ _ => keysOfAll components
  | layerMatch components => keysOfAll components
  | negation child => keys child

def keysOfAll : List Matcher → List LayerKey
  | [] => []
  | component :: rest => keys component ++ keysOfAll rest

end

theorem resultsOfAll_eq_map (components : List Matcher) :
    resultsOfAll document components = components.map (results document) := by
  induction components with
  | nil => rfl
  | cons component rest ih => rw [resultsOfAll, ih, List.map_cons]

theorem combine_outcome (combinator : List (List Match) → List Match) (lists : List (List Match)) :
    (combine combinator lists).outcome = .ok (combinator lists) := rfl

mutual

/-- The only error is that of the first scanner whose layer a document lacks. -/
theorem find_outcome : ∀ matcher : Matcher,
    (matcher.find document).outcome = document.require matcher.keys (matcher.results document)
  | scan scanner => by
      rw [find, keys, results, Scanner.find_outcome_eq_require]
  | intersection components matchFirst => by
      rw [find, keys, results]
      exact Traced.outcome_bind_eq_require (findAll_outcome components) (combine_outcome _ _)
  | union components => by
      rw [find, keys, results]
      exact Traced.outcome_bind_eq_require (findAll_outcome components) rfl
  | concatenation components => by
      rw [find, keys, results]
      exact Traced.outcome_bind_eq_require (findAll_outcome components) (combine_outcome _ _)
  | gap components slop matchFirst => by
      rw [find, keys, results]
      exact Traced.outcome_bind_eq_require (findAll_outcome components) (combine_outcome _ _)
  | layerMatch components => by
      rw [find, keys, results]
      exact Traced.outcome_bind_eq_require (findAll_outcome components) (combine_outcome _ _)
  | negation child => by
      rw [find, keys, results]
      exact Traced.outcome_bind_eq_require (find_outcome child) rfl

theorem findAll_outcome : ∀ components : List Matcher,
    (findAll document components).outcome =
      document.require (keysOfAll components) (resultsOfAll document components)
  | [] => rfl
  | component :: rest => by
      rw [findAll, keysOfAll, resultsOfAll, Traced.outcome_bind, find_outcome component]
      exact Document.require_bind (Traced.outcome_bind_eq_require (findAll_outcome rest) rfl)

end

/-- A matcher finds all matches or misses a layer. -/
theorem find_outcome_cases (matcher : Matcher) :
    (∃ key, (matcher.find document).outcome = .error (.unknownLayer key)) ∨
      (matcher.find document).outcome = .ok (matcher.results document) := by
  rw [find_outcome, Document.require]
  cases matcher.keys.find? fun key => !document.contains key with
  | none => exact .inr rfl
  | some key => exact .inl ⟨key, rfl⟩

theorem isMatch_outcome (matcher : Matcher) :
    (matcher.isMatch document).outcome =
      document.require matcher.keys (!(matcher.results document).isEmpty) :=
  Traced.outcome_bind_eq_require (find_outcome document matcher) rfl

end Matcher

end Concordance
