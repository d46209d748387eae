import Concordance.Proofs.Search.Scan
import Concordance.Proofs.Search.Verdict

/-!
Candidates verified one by one.  The relation says what becomes of every candidate and what ends the
search early, and knows of no batches.
-/

namespace Concordance

namespace Verifier

section

variable (verifier : Verifier) (lookup : String → Option Document) (skipping : Bool)

/-- The outcome of verifying ids in their order, from the results so far. -/
inductive OneByOne : List String → SearchResults → Except SearchError SearchResults → Prop where
  | done {results : SearchResults} : OneByOne [] results (.ok results)
  | missing {id : String} {ids : List String} {results : SearchResults}
      {outcome : Except SearchError SearchResults} (absent : lookup id = none)
      (rest : OneByOne ids
        { results with report.skipped := results.report.skipped + 1 } outcome) :
      OneByOne (id :: ids) results outcome
  | lacking {id : String} {ids : List String} {results : SearchResults}
      {outcome : Except SearchError SearchResults} {document : Document} {key : LayerKey}
      (present : lookup id = some document) (lacks : verifier.Lacks document key)
      (skips : skipping = true)
      (rest : OneByOne ids
        { results with report.skipped := results.report.skipped + 1 } outcome) :
      OneByOne (id :: ids) results outcome
  | stopped {id : String} {ids : List String} {results : SearchResults} {document : Document}
      {key : LayerKey} (present : lookup id = some document) (lacks : verifier.Lacks document key)
      (stops : skipping = false) :
      OneByOne (id :: ids) results (.error (.grammar (.unknownLayer key)))
  | refused {id : String} {ids : List String} {results : SearchResults}
      {outcome : Except SearchError SearchResults} {document : Document}
      (present : lookup id = some document) (refuses : verifier.Refuses document)
      (rest : OneByOne ids results outcome) :
      OneByOne (id :: ids) results outcome
  | accepted {id : String} {ids : List String} {results : SearchResults}
      {outcome : Except SearchError SearchResults} {document : Document} {found : List Match}
      (present : lookup id = some document) (qualifies : verifier.Qualifies document found)
      (rest : OneByOne ids
        { results with
          found := results.found ++ [⟨id, found⟩]
          report.verified := results.report.verified + 1 } outcome) :
      OneByOne (id :: ids) results outcome

theorem exists_oneByOne (ids : List String) (results : SearchResults) :
    ∃ outcome, OneByOne verifier lookup skipping ids results outcome := by
  induction ids generalizing results with
  | nil => exact ⟨_, .done⟩
  | cons id rest ih =>
      cases present : lookup id with
      | none =>
          obtain ⟨outcome, run⟩ := ih _
          exact ⟨outcome, .missing present run⟩
      | some document =>
          rcases verifier.exists_verdict document with ⟨found, qualifies⟩ | refuses | ⟨key, lacks⟩
          · obtain ⟨outcome, run⟩ := ih _
            exact ⟨outcome, .accepted present qualifies run⟩
          · obtain ⟨outcome, run⟩ := ih _
            exact ⟨outcome, .refused present refuses run⟩
          · cases skips : skipping with
            | false => exact ⟨_, .stopped present lacks rfl⟩
            | true =>
                rw [skips] at ih
                obtain ⟨outcome, run⟩ := ih _
                exact ⟨outcome, .lacking present lacks rfl run⟩

end

variable {verifier : Verifier} {lookup : String → Option Document} {options : SearchOptions}
  {id : String} {ids : List String} {results : SearchResults}
  {outcome : Except SearchError SearchResults} {document : Document}

/-! The loop of verification computes the relation. -/

theorem step_outcome_of_ok {found : Option (List Match)}
    (verified : (verifier.verify document).outcome = .ok found) :
    (verifier.step options results id (some document)).outcome =
      .ok (found.elim results (results.accept id)) := by
  rw [step, Traced.outcome_bind, Traced.outcome_attempt, ok_bind, verified]
  cases found with
  | none => rfl
  | some found => rfl

theorem step_outcome_of_lacks {key : LayerKey} (lacks : verifier.Lacks document key) :
    (verifier.step options results id (some document)).outcome =
      if options.skipMissingLayers then .ok results.skip
      else .error (.grammar (.unknownLayer key)) := by
  rw [step, Traced.outcome_bind, Traced.outcome_attempt, ok_bind, lacks.verify_outcome]
  dsimp only
  split
  · rfl
  · rfl

private theorem steps_cons {found : Option Document} (present : lookup id = found) :
    (verifier.steps options results ((id :: ids).map fun id => (id, lookup id))).outcome =
      (verifier.step options results id found).outcome >>= fun next =>
        (verifier.steps options next (ids.map fun id => (id, lookup id))).outcome := by
  rw [List.map_cons, steps, Traced.outcome_bind, present]

theorem OneByOne.steps_outcome
    (run : OneByOne verifier lookup options.skipMissingLayers ids results outcome) :
    (verifier.steps options results (ids.map fun id => (id, lookup id))).outcome = outcome := by
  induction run with
  | done => rfl
  | missing absent _ ih =>
      rw [steps_cons absent]
      exact ih
  | lacking present lacks skips _ ih =>
      rw [steps_cons present, step_outcome_of_lacks lacks, if_pos skips]
      exact ih
  | stopped present lacks stops =>
      rw [steps_cons present, step_outcome_of_lacks lacks, if_neg (by simp [stops])]
      rfl
  | refused present refuses _ ih =>
      rw [steps_cons present, step_outcome_of_ok refuses.verify_outcome]
      exact ih
  | accepted present qualifies _ ih =>
      rw [steps_cons present, step_outcome_of_ok qualifies.verify_outcome]
      exact ih

/-- Since there is an outcome one by one, the loop has no other. -/
theorem oneByOne_iff :
    OneByOne verifier lookup options.skipMissingLayers ids results outcome ↔
      (verifier.steps options results (ids.map fun id => (id, lookup id))).outcome = outcome := by
  constructor
  · exact OneByOne.steps_outcome
  · intro steps
    obtain ⟨other, run⟩ := exists_oneByOne verifier lookup options.skipMissingLayers ids results
    rw [run.steps_outcome] at steps
    exact steps ▸ run

/-! The counts of the report. -/

/-- No candidate is counted twice. -/
theorem OneByOne.counts {skipping : Bool}
    (run : OneByOne verifier lookup skipping ids results outcome)
    {final : SearchResults} (succeeds : outcome = .ok final) :
    final.report.candidates = results.report.candidates ∧
      final.report.verified + results.found.length =
        results.report.verified + final.found.length ∧
      final.report.verified + final.report.skipped ≤
        results.report.verified + results.report.skipped + ids.length := by
  induction run with
  | done =>
      cases succeeds
      exact ⟨rfl, rfl, Nat.le_refl _⟩
  | missing _ _ ih | lacking _ _ _ _ ih =>
      obtain ⟨candidates, verified, bounded⟩ := ih succeeds
      refine ⟨candidates, verified, ?_⟩
      rw [List.length_cons]
      dsimp only at bounded
      omega
  | stopped => cases succeeds
  | refused _ _ _ ih =>
      obtain ⟨candidates, verified, bounded⟩ := ih succeeds
      refine ⟨candidates, verified, ?_⟩
      rw [List.length_cons]
      omega
  | accepted _ _ _ ih =>
      obtain ⟨candidates, verified, bounded⟩ := ih succeeds
      dsimp only at candidates verified bounded
      rw [List.length_append, List.length_singleton] at verified
      rw [List.length_cons]
      exact ⟨candidates, by omega, by omega⟩

end Verifier

/-! The search. -/

/-- A search whose client and source never fail gives the same results for every size of a batch:
those of verifying its candidates one by one. -/
theorem searchCorpus_oneByOne {client : SearchClient} {source : LayerSource}
    {answer : Query → List String} {lookup : String → Option Document} {compiler : CompilerOptions}
    {inclusive : Grammar} {exclusive : Option Grammar}
    (answers : ∀ query, (client query).outcome = .ok (answer query))
    (pointwise : source.Pointwise lookup) (inclusiveValid : inclusive.validate = .ok ())
    (exclusiveValid : ∀ grammar ∈ exclusive, grammar.validate = .ok ())
    (options : SearchOptions) :
    ∃ query wanted unwanted, (compiler.compile (some inclusive) exclusive).outcome = .ok query ∧
      Matcher.ofGrammar inclusive = .ok wanted ∧ exclusive.mapM Matcher.ofGrammar = .ok unwanted ∧
      (∀ size, (searchCorpus client source compiler inclusive exclusive
          { options with batchSize := size }).outcome =
        (searchCorpus client source compiler inclusive exclusive options).outcome) ∧
      (∀ outcome, (searchCorpus client source compiler inclusive exclusive options).outcome =
          outcome ↔
        Verifier.OneByOne ⟨wanted, unwanted⟩ lookup options.skipMissingLayers (answer query)
          ⟨[], ⟨(answer query).length, 0, 0⟩⟩ outcome) ∧
      ∀ results, (searchCorpus client source compiler inclusive exclusive options).outcome =
          .ok results →
        results.report.verified = results.found.length ∧
          results.report.candidates = (answer query).length ∧
          results.report.verified + results.report.skipped ≤ results.report.candidates := by
  simp only [Grammar.validate_eq_ok_iff] at inclusiveValid exclusiveValid
  have compiled : (compiler.compile (some inclusive) exclusive).outcome =
      .ok (compiler.query (some inclusive) exclusive) := by
    apply CompilerOptions.compile_outcome
    · simpa using inclusiveValid
    · exact exclusiveValid
  have searched := @searchCorpus_outcome _ _ _ compiler _ _ _ pointwise inclusiveValid
    exclusiveValid (answers _)
  obtain ⟨outcome, run⟩ := Verifier.exists_oneByOne
    ⟨inclusive.matcher, exclusive.map Grammar.matcher⟩ lookup options.skipMissingLayers
    (answer (compiler.query (some inclusive) exclusive)) (.start _)
  refine ⟨_, _, _, compiled, Grammar.ofGrammar_eq_ok inclusiveValid, mapM_ofGrammar exclusiveValid,
    ?_, ?_, ?_⟩
  · intro size
    rw [searched, searched, run.steps_outcome]
    exact @Verifier.OneByOne.steps_outcome _ _ { options with batchSize := size } _ _ _ run
  · intro given
    rw [searched]
    exact Verifier.oneByOne_iff.symm
  · intro results succeeds
    rw [searched, run.steps_outcome] at succeeds
    obtain ⟨candidates, verified, bounded⟩ := run.counts succeeds
    refine ⟨by simpa [SearchResults.start] using verified, candidates, ?_⟩
    rw [candidates]
    simpa [SearchResults.start] using bounded

/-- A client that repeats an id, and names one that is not stored. -/
def Corpus.foxesClient : SearchClient := fun _ => pure ["red", "lost", "hidden", "red"]

theorem searchCorpus_oneByOne_foxes :
    ∃ query wanted unwanted,
      (CompilerOptions.compile {} (some (.terminal .colour))
        (some (.combine .not [.terminal .colour]))).outcome = .ok query ∧
      Matcher.ofGrammar (.terminal .colour) = .ok wanted ∧
      (some (Grammar.combine .not [.terminal .colour])).mapM Matcher.ofGrammar = .ok unwanted ∧
      (∀ size, (searchCorpus Corpus.foxesClient Corpus.foxes.source {} (.terminal .colour)
          (some (.combine .not [.terminal .colour])) { batchSize := size }).outcome =
        (searchCorpus Corpus.foxesClient Corpus.foxes.source {} (.terminal .colour)
          (some (.combine .not [.terminal .colour])) { batchSize := 0 }).outcome) ∧
      (∀ outcome, (searchCorpus Corpus.foxesClient Corpus.foxes.source {} (.terminal .colour)
          (some (.combine .not [.terminal .colour])) { batchSize := 0 }).outcome = outcome ↔
        Verifier.OneByOne ⟨wanted, unwanted⟩ Corpus.foxes.get? true
          ["red", "lost", "hidden", "red"] ⟨[], ⟨4, 0, 0⟩⟩ outcome) ∧
      ∀ results, (searchCorpus Corpus.foxesClient Corpus.foxes.source {} (.terminal .colour)
          (some (.combine .not [.terminal .colour])) { batchSize := 0 }).outcome = .ok results →
        results.report.verified = results.found.length ∧ results.report.candidates = 4 ∧
          results.report.verified + results.report.skipped ≤ results.report.candidates := by
  have pointwise : Corpus.foxes.source.Pointwise Corpus.foxes.get? := fun _ => rfl
  have exclusiveValid : ∀ grammar ∈ some (Grammar.combine .not [.terminal .colour]),
      grammar.validate = .ok () := by
    intro grammar member
    cases member
    rfl
  exact @searchCorpus_oneByOne Corpus.foxesClient Corpus.foxes.source
    (fun _ => ["red", "lost", "hidden", "red"]) Corpus.foxes.get? {} (.terminal .colour) _
    (fun _ => rfl) pointwise rfl exclusiveValid { batchSize := 0 }

end Concordance
