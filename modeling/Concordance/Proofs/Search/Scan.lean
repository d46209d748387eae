import Concordance.Proofs.Query.Recall
import Concordance.Proofs.Search.Batches
import Concordance.Proofs.Search.Corpus

/-!
Searching against scanning.  A search of a corpus finds what looking at every document with the
matchers would find.
-/

namespace Concordance

/-! The plain scan. -/

/-- Whether a matcher finds nothing in a document that has its layers. -/
def Matcher.findsNothing (document : Document) (matcher : Matcher) : Bool :=
  match (matcher.find document).outcome with
  | .ok [] => true
  | _ => false

namespace Verifier

variable {verifier : Verifier} {options : SearchOptions}

/-- What a plain scan says of a document: all its matches, if there are any and the other matcher
finds nothing. -/
def scan? (verifier : Verifier) (entry : String × Document) : Option DocumentMatch :=
  match (verifier.wanted.find entry.2).outcome with
  | .ok (first :: rest) =>
    if verifier.unwanted.all (Matcher.findsNothing entry.2) then
      some ⟨entry.1, first :: rest⟩
    else none
  | _ => none

/-- A verification agrees with the scan, and fails for missing layers only. -/
theorem verify_outcome (entry : String × Document) :
    (∃ found, (verifier.verify entry.2).outcome = .ok found ∧
      verifier.scan? entry = found.map (DocumentMatch.mk entry.1)) ∨
    ∃ key, (verifier.verify entry.2).outcome = .error (.unknownLayer key) ∧
      verifier.scan? entry = none := by
  obtain ⟨wanted, unwanted⟩ := verifier
  rw [verify, scan?, Traced.outcome_bind]
  dsimp only
  rcases Matcher.find_outcome_cases entry.2 wanted with ⟨key, missing⟩ | found
  · rw [missing]
    exact .inr ⟨key, rfl, rfl⟩
  · rw [found, ok_bind]
    cases wanted.results entry.2 with
    | nil => exact .inl ⟨none, rfl, rfl⟩
    | cons first rest =>
        cases unwanted with
        | none => exact .inl ⟨_, rfl, rfl⟩
        | some other =>
            dsimp only
            rw [if_neg (by simp), Traced.outcome_bind, Matcher.isMatch, Traced.outcome_bind,
              Option.all_some, Matcher.findsNothing]
            rcases Matcher.find_outcome_cases entry.2 other with ⟨key, missing⟩ | otherFound
            · rw [missing]
              exact .inr ⟨key, rfl, rfl⟩
            · rw [otherFound]
              cases other.results entry.2 with
              | nil => exact .inl ⟨_, rfl, rfl⟩
              | cons _ _ => exact .inl ⟨none, rfl, rfl⟩

/-- One step adds what the scan says of its document. -/
theorem step_outcome (skipping : options.skipMissingLayers = true) (results : SearchResults)
    (entry : String × Document) :
    ∃ next, (verifier.step options results entry.1 (some entry.2)).outcome = .ok next ∧
      next.found = results.found ++ (verifier.scan? entry).toList ∧
      next.report.verified = results.report.verified + (verifier.scan? entry).toList.length := by
  rw [step, Traced.outcome_bind, Traced.outcome_attempt, ok_bind]
  rcases verifier.verify_outcome entry with ⟨found, verified, scanned⟩ | ⟨key, missing, scanned⟩
  · rw [verified, scanned]
    cases found with
    | none => exact ⟨_, rfl, (List.append_nil _).symm, rfl⟩
    | some found => exact ⟨_, rfl, rfl, rfl⟩
  · rw [missing, scanned]
    dsimp only
    rw [if_pos skipping]
    exact ⟨_, rfl, (List.append_nil _).symm, rfl⟩

theorem steps_outcome (skipping : options.skipMissingLayers = true) (results : SearchResults)
    (documents : List (String × Document)) :
    ∃ final, (verifier.steps options results
        (documents.map fun entry => (entry.1, some entry.2))).outcome = .ok final ∧
      final.found = results.found ++ documents.filterMap verifier.scan? ∧
      final.report.verified =
        results.report.verified + (documents.filterMap verifier.scan?).length := by
  induction documents generalizing results with
  | nil => exact ⟨results, rfl, (List.append_nil _).symm, rfl⟩
  | cons entry rest ih =>
      obtain ⟨next, stepped, nextFound, nextVerified⟩ :=
        @step_outcome verifier options skipping results entry
      obtain ⟨final, ran, finalFound, finalVerified⟩ := ih next
      have split : (entry :: rest).filterMap verifier.scan? =
          (verifier.scan? entry).toList ++ rest.filterMap verifier.scan? := by
        rw [List.filterMap_cons]
        cases verifier.scan? entry with
        | none => rfl
        | some found => rfl
      refine ⟨final, ?_, ?_, ?_⟩
      · rw [List.map_cons, steps, Traced.outcome_bind, stepped, ok_bind, ran]
      · rw [finalFound, nextFound, split, List.append_assoc]
      · rw [finalVerified, nextVerified, split, List.length_append, Nat.add_assoc]

theorem results_of_scan? {inclusive : Grammar} {exclusive : Option Grammar}
    {entry : String × Document} {found : DocumentMatch}
    (admitted : scan? ⟨inclusive.matcher, exclusive.map Grammar.matcher⟩ entry = some found) :
    inclusive.results entry.2 ≠ [] ∧ ∀ grammar ∈ exclusive, grammar.results entry.2 = [] := by
  rw [scan?] at admitted
  dsimp only at admitted
  rcases Matcher.find_outcome_cases entry.2 inclusive.matcher with ⟨key, missing⟩ | wanted
  · rw [missing] at admitted
    cases admitted
  · rw [wanted] at admitted
    rw [Grammar.results]
    cases results : inclusive.matcher.results entry.2 with
    | nil =>
        rw [results] at admitted
        cases admitted
    | cons first rest =>
        rw [results] at admitted
        dsimp only at admitted
        split at admitted
        · next nothing =>
          refine ⟨List.cons_ne_nil first rest, ?_⟩
          intro grammar member
          subst member
          rw [Option.map_some, Option.all_some, Matcher.findsNothing] at nothing
          rw [Grammar.results]
          rcases Matcher.find_outcome_cases entry.2 grammar.matcher with ⟨key, missing⟩ | unwanted
          · rw [missing] at nothing
            cases nothing
          · rw [unwanted] at nothing
            cases others : grammar.matcher.results entry.2 with
            | nil => rfl
            | cons _ _ =>
                rw [others] at nothing
                cases nothing
        · cases admitted

end Verifier

/-! The search. -/

private theorem filterMap_filter_of_none {α β : Type} {p : α → Bool} {f : α → Option β}
    {list : List α} (none : ∀ a ∈ list, p a = false → f a = none) :
    (list.filter p).filterMap f = list.filterMap f := by
  induction list with
  | nil => rfl
  | cons a rest ih =>
      rw [List.forall_mem_cons] at none
      rw [List.filter_cons]
      split
      · rw [List.filterMap_cons, List.filterMap_cons, ih none.2]
      · next refused =>
        rw [List.filterMap_cons, none.1 (Bool.eq_false_iff.mpr refused)]
        exact ih none.2

/-- The query loses nothing that the scan finds. -/
theorem Corpus.filterMap_candidates {corpus : Corpus} {compiler : CompilerOptions}
    {inclusive : Grammar} {exclusive : Option Grammar}
    (required : compiler.threshold = .requiredTerminals) (inclusiveValid : inclusive.WellFormed)
    (exclusiveValid : ∀ grammar ∈ exclusive, grammar.WellFormed) :
    (corpus.candidates (compiler.query (some inclusive) exclusive)).filterMap
        (Verifier.scan? ⟨inclusive.matcher, exclusive.map Grammar.matcher⟩) =
      corpus.documents.toList.filterMap
        (Verifier.scan? ⟨inclusive.matcher, exclusive.map Grammar.matcher⟩) := by
  apply filterMap_filter_of_none
  intro entry _ refused
  cases scanned : Verifier.scan? ⟨inclusive.matcher, exclusive.map Grammar.matcher⟩ entry with
  | none => rfl
  | some found =>
      obtain ⟨wanted, unwanted⟩ := Verifier.results_of_scan? scanned
      have holds := @CompilerOptions.truth_query_of_results compiler entry.2 (some inclusive)
        exclusive required (by simpa using inclusiveValid) exclusiveValid (by simpa using wanted)
        unwanted
      rw [holds] at refused
      cases refused

/-- A search of a corpus never fails if documents without a layer are skipped, and it finds, in the
order of the corpus, exactly what a scan of all documents finds. -/
theorem searchCorpus_finds_scan {corpus : Corpus} {compiler : CompilerOptions}
    {inclusive : Grammar} {exclusive : Option Grammar} {options : SearchOptions}
    (required : compiler.threshold = .requiredTerminals)
    (skipping : options.skipMissingLayers = true) (inclusiveValid : inclusive.validate = .ok ())
    (exclusiveValid : ∀ grammar ∈ exclusive, grammar.validate = .ok ()) :
    ∃ wanted unwanted results, Matcher.ofGrammar inclusive = .ok wanted ∧
      exclusive.mapM Matcher.ofGrammar = .ok unwanted ∧
      (searchCorpus corpus.client corpus.source compiler inclusive exclusive options).outcome =
        .ok results ∧
      results.found = corpus.documents.toList.filterMap (Verifier.scan? ⟨wanted, unwanted⟩) ∧
      results.report.verified = results.found.length := by
  simp only [Grammar.validate_eq_ok_iff] at inclusiveValid exclusiveValid
  have someValid : ∀ grammar ∈ some inclusive, grammar.WellFormed := by simpa using inclusiveValid
  have compiled := @CompilerOptions.compile_outcome compiler _ _ someValid exclusiveValid
  have compiles := @CompilerOptions.compiles_query compiler _ _ required someValid exclusiveValid
  have pointwise : corpus.source.Pointwise corpus.get? := fun ids => rfl
  obtain ⟨results, ran, found, verified⟩ :=
    @Verifier.steps_outcome ⟨inclusive.matcher, exclusive.map Grammar.matcher⟩ options skipping
      (.start (corpus.candidates (compiler.query (some inclusive) exclusive)).length)
      (corpus.candidates (compiler.query (some inclusive) exclusive))
  rw [Corpus.filterMap_candidates required inclusiveValid exclusiveValid] at found verified
  refine ⟨_, _, results, Grammar.ofGrammar_eq_ok inclusiveValid, mapM_ofGrammar exclusiveValid, ?_,
    found, ?_⟩
  · simp only [searchCorpus, Traced.outcome_bind, Traced.outcome_mapError, Traced.outcome_liftM,
      compiled, Grammar.ofGrammar_eq_ok inclusiveValid, mapM_ofGrammar exclusiveValid, ok_mapError,
      ok_bind, Corpus.client_outcome compiles, Traced.outcome_report, Traced.outcome_pure,
      verifyBatches_outcome pointwise, flatten_batches, Corpus.get?_candidates, List.length_map,
      ran]
  · rw [verified, found]
    exact Nat.zero_add _

/-! A corpus in which one document has a colour, and one lacks the layer. -/

def Corpus.foxes : Corpus :=
  (empty.insert "hidden" .empty).insert "red" .redFox

theorem searchCorpus_finds_scan_foxes :
    ∃ wanted unwanted results, Matcher.ofGrammar (.terminal .colour) = .ok wanted ∧
      (some (Grammar.combine .not [.terminal .colour])).mapM Matcher.ofGrammar = .ok unwanted ∧
      (searchCorpus Corpus.foxes.client Corpus.foxes.source {} (.terminal .colour)
        (some (.combine .not [.terminal .colour])) { batchSize := 0 }).outcome = .ok results ∧
      results.found =
        Corpus.foxes.documents.toList.filterMap (Verifier.scan? ⟨wanted, unwanted⟩) ∧
      results.report.verified = results.found.length := by
  apply searchCorpus_finds_scan rfl rfl rfl
  intro grammar member
  cases member
  rfl

end Concordance
