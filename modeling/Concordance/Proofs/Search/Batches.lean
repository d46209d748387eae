import Concordance.Proofs.Query.Compile
import Concordance.Search.Basic

/-!
Searching in batches.  A source that answers every id by itself may be asked for the ids in pieces
of any size: what is verified is the list as a whole.
-/

namespace Concordance

theorem flatten_batchesFrom {α : Type} (size : Nat) (list piece : List α) :
    (batchesFrom size list piece).flatten = piece.reverse ++ list := by
  induction list generalizing piece with
  | nil =>
      cases piece with
      | nil => rfl
      | cons last others => rw [batchesFrom, List.flatten_cons, List.flatten_nil]; exact nofun
  | cons first rest ih =>
      rw [batchesFrom]
      split
      · rw [List.flatten_cons, ih, List.reverse_cons]
        simp
      · rw [ih, List.reverse_cons]
        simp

theorem flatten_batches {α : Type} (size : Nat) (list : List α) :
    (batches size list).flatten = list :=
  flatten_batchesFrom size list []

/-- A source that never fails and answers every id by itself. -/
def LayerSource.Pointwise (source : LayerSource) (lookup : String → Option Document) : Prop :=
  ∀ ids, source ids = .ok (ids.map lookup)

variable {source : LayerSource} {lookup : String → Option Document}

theorem fetch_eq_ok (pointwise : source.Pointwise lookup) (ids : List String) :
    fetch source ids = .ok (ids.map fun id => (id, lookup id)) := by
  rw [fetch, pointwise ids]
  dsimp only
  rw [if_pos (List.length_map lookup), ← List.map_prod_left_eq_zip]

namespace Verifier

variable {verifier : Verifier} {options : SearchOptions}

theorem steps_append (results : SearchResults) (first second : List (String × Option Document)) :
    (verifier.steps options results (first ++ second)).outcome =
      (verifier.steps options results first).outcome >>= fun next =>
        (verifier.steps options next second).outcome := by
  induction first generalizing results with
  | nil => rfl
  | cons entry rest ih =>
      rw [List.cons_append, steps, steps, Traced.outcome_bind, Traced.outcome_bind]
      cases (verifier.step options results entry.1 entry.2).outcome with
      | error error => rfl
      | ok next => exact ih next

end Verifier

/-- Verifying batches is verifying their documents one by one. -/
theorem verifyBatches_outcome {verifier : Verifier} {options : SearchOptions}
    (pointwise : source.Pointwise lookup) (number : Nat) (results : SearchResults)
    (pieces : List (List String)) :
    (verifyBatches verifier source options number results pieces).outcome =
      (verifier.steps options results
        (pieces.flatten.map fun id => (id, lookup id))).outcome := by
  induction pieces generalizing number results with
  | nil => rfl
  | cons piece rest ih =>
      rw [verifyBatches, List.flatten_cons, List.map_append, Verifier.steps_append]
      simp only [Traced.outcome_bind, Traced.outcome_report, Traced.outcome_reportFetch,
        Traced.outcome_liftM, ok_bind, fetch_eq_ok pointwise, ih]

theorem mapM_ofGrammar {exclusive : Option Grammar}
    (valid : ∀ grammar ∈ exclusive, grammar.WellFormed) :
    exclusive.mapM Matcher.ofGrammar = .ok (exclusive.map Grammar.matcher) := by
  cases exclusive with
  | none => rfl
  | some grammar =>
      rw [Option.mapM_some, Grammar.ofGrammar_eq_ok (valid grammar rfl)]
      rfl

/-- A search with valid grammars verifies what its client answers. -/
theorem searchCorpus_outcome {client : SearchClient} {compiler : CompilerOptions}
    {inclusive : Grammar} {exclusive : Option Grammar} {ids : List String}
    (pointwise : source.Pointwise lookup) (inclusiveValid : inclusive.WellFormed)
    (exclusiveValid : ∀ grammar ∈ exclusive, grammar.WellFormed)
    (answers : (client (compiler.query (some inclusive) exclusive)).outcome = .ok ids)
    (options : SearchOptions) :
    (searchCorpus client source compiler inclusive exclusive options).outcome =
      (Verifier.steps ⟨inclusive.matcher, exclusive.map Grammar.matcher⟩ options
        (.start ids.length) (ids.map fun id => (id, lookup id))).outcome := by
  have someValid : ∀ grammar ∈ some inclusive, grammar.WellFormed := by simpa using inclusiveValid
  have compiled := @CompilerOptions.compile_outcome compiler _ _ someValid exclusiveValid
  simp only [searchCorpus, Traced.outcome_bind, Traced.outcome_mapError, Traced.outcome_liftM,
    Traced.outcome_report, Traced.outcome_pure, ok_bind, ok_mapError, compiled, answers,
    Grammar.ofGrammar_eq_ok inclusiveValid, mapM_ofGrammar exclusiveValid,
    verifyBatches_outcome pointwise, flatten_batches]
  cases (Verifier.steps _ options _ _).outcome with
  | error error => rfl
  | ok results => rfl

end Concordance
