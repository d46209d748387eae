import Concordance.Proofs.Cache
import Concordance.Proofs.Grammar.FirstFault
import Concordance.Proofs.Query.Branches

/-!
Validation as the only gate.  A matcher, a cached matcher or a query is built exactly if its grammars
are valid, and the error is that of the first one that is not.  What is built after validation never
fails, and every query can be evaluated.
-/

namespace Concordance

/-- An outcome that fails exactly where a check does, and with the error of the check. -/
structure GatedBy {α : Type} (check : Except Error Unit) (outcome : Except Error α) : Prop where
  succeeds : (∃ a, outcome = .ok a) ↔ check = .ok ()
  fails : ∀ error, outcome = .error error ↔ check = .error error

namespace GatedBy

variable {α β : Type} {check : Except Error Unit}

theorem bind {next : Unit → Except Error α}
    (passes : check = .ok () → ∃ a, next () = .ok a) : GatedBy check (check >>= next) := by
  cases check with
  | error fault => exact ⟨by simp, by simp⟩
  | ok passed =>
      obtain ⟨a, built⟩ := passes rfl
      rw [ok_bind, built]
      exact ⟨by simp, by simp⟩

theorem map {outcome : Except Error α} (gated : GatedBy check outcome) (f : α → β) :
    GatedBy check (outcome >>= fun a => .ok (f a)) := by
  obtain ⟨succeeds, fails⟩ := gated
  cases outcome with
  | error fault => exact ⟨by simpa using succeeds, by simpa using fails⟩
  | ok a => exact ⟨by simpa using succeeds, by simpa using fails⟩

end GatedBy

/-! Matchers. -/

theorem Matcher.gated_ofGrammar (grammar : Grammar) :
    GatedBy grammar.validate (ofGrammar grammar) := by
  rw [ofGrammar]
  apply GatedBy.bind
  intro valid
  exact ⟨_, Grammar.build_eq_ok grammar (Grammar.validate_eq_ok_iff.mp valid)⟩

theorem MatcherCache.gated_getOrBuild {cache : MatcherCache} {key : String}
    (missing : cache.get? key = none) (grammar : Grammar) :
    GatedBy grammar.validate (cache.getOrBuild key grammar).outcome := by
  rw [getOrBuild_of_none missing]
  exact (Matcher.gated_ofGrammar grammar).map _

/-! Queries. -/

/-- Validates the first grammar, and then the second. -/
def Grammar.validateBoth (first second : Option Grammar) : Except Error Unit := do
  first.forM validate
  second.forM validate

theorem Grammar.forM_validate_eq_ok_iff {grammar : Option Grammar} :
    grammar.forM validate = .ok () ↔ ∀ node ∈ grammar, node.validate = .ok () := by
  cases grammar with
  | none => exact iff_of_true rfl nofun
  | some node => simp

theorem Grammar.forM_validate_eq_error_iff {grammar : Option Grammar} {error : Error} :
    grammar.forM validate = .error error ↔ ∃ node ∈ grammar, node.validate = .error error := by
  cases grammar with
  | none => exact iff_of_false nofun (by simp)
  | some node => simp

theorem Grammar.validateBoth_eq_ok_iff {first second : Option Grammar} :
    validateBoth first second = .ok () ↔
      (∀ node ∈ first, node.validate = .ok ()) ∧ ∀ node ∈ second, node.validate = .ok () := by
  rw [← forM_validate_eq_ok_iff, ← forM_validate_eq_ok_iff, validateBoth]
  cases first.forM validate with
  | error fault => simp
  | ok valid => simp

theorem Grammar.validateBoth_eq_error_iff {first second : Option Grammar} {error : Error} :
    validateBoth first second = .error error ↔
      (∃ node ∈ first, node.validate = .error error) ∨
        (∀ node ∈ first, node.validate = .ok ()) ∧ ∃ node ∈ second, node.validate = .error error := by
  rw [← forM_validate_eq_error_iff, ← forM_validate_eq_ok_iff, ← forM_validate_eq_error_iff,
    validateBoth]
  cases first.forM validate with
  | error fault => simp
  | ok valid => simp

namespace CompilerOptions

variable {options : CompilerOptions} {inclusive exclusive : Option Grammar}

theorem gated_compile (options : CompilerOptions) (inclusive exclusive : Option Grammar) :
    GatedBy (Grammar.validateBoth inclusive exclusive)
      (options.compile inclusive exclusive).outcome := by
  have compiled : (options.compile inclusive exclusive).outcome =
      Grammar.validateBoth inclusive exclusive >>= fun _ =>
        .ok (options.query inclusive exclusive) := by
    rw [compile_outcome_eq_validate, Grammar.validateBoth]
    cases inclusive.forM Grammar.validate with
    | error error => rfl
    | ok valid => rfl
  rw [compiled]
  apply GatedBy.bind
  intro valid
  exact ⟨_, rfl⟩

theorem exists_prepare_of_compile {query : Query}
    (compiled : (options.compile inclusive exclusive).outcome = .ok query) :
    ∃ prepared, query.prepare = .ok prepared := by
  have valid := (gated_compile options inclusive exclusive).succeeds.mp ⟨query, compiled⟩
  obtain ⟨wanted, unwanted⟩ := Grammar.validateBoth_eq_ok_iff.mp valid
  have wantedWell : ∀ grammar ∈ inclusive, grammar.WellFormed :=
    fun grammar member => Grammar.validate_eq_ok_iff.mp (wanted grammar member)
  have unwantedWell : ∀ grammar ∈ exclusive, grammar.WellFormed :=
    fun grammar member => Grammar.validate_eq_ok_iff.mp (unwanted grammar member)
  rw [compile_outcome wantedWell unwantedWell] at compiled
  cases compiled
  exact ⟨_, Clause.prepare_eq_ok _ (compiles_query_of_wellFormed wantedWell unwantedWell)⟩

end CompilerOptions

/-- A matcher, whether or not it is to be cached, is built exactly if its grammar is valid, and the
error is that of validation.  A query is compiled exactly if both grammars are valid, and the error
is that of the inclusive one if it is not valid, else of the exclusive one; the scanners of all its
clauses can be built. -/
theorem validation_is_only_gate (options : CompilerOptions) :
    (∀ grammar : Grammar, GatedBy grammar.validate (Matcher.ofGrammar grammar)) ∧
    (∀ (cache : MatcherCache) (key : String) (grammar : Grammar), cache.get? key = none →
      GatedBy grammar.validate (cache.getOrBuild key grammar).outcome) ∧
    ∀ inclusive exclusive : Option Grammar,
      ((∃ query, (options.compile inclusive exclusive).outcome = .ok query) ↔
        (∀ grammar ∈ inclusive, grammar.validate = .ok ()) ∧
          ∀ grammar ∈ exclusive, grammar.validate = .ok ()) ∧
      (∀ error, (options.compile inclusive exclusive).outcome = .error error ↔
        (∃ grammar ∈ inclusive, grammar.validate = .error error) ∨
          (∀ grammar ∈ inclusive, grammar.validate = .ok ()) ∧
            ∃ grammar ∈ exclusive, grammar.validate = .error error) ∧
      ∀ query, (options.compile inclusive exclusive).outcome = .ok query →
        ∃ prepared, query.prepare = .ok prepared := by
  refine ⟨Matcher.gated_ofGrammar, ?_, ?_⟩
  · intro cache key grammar missing
    exact MatcherCache.gated_getOrBuild missing grammar
  · intro inclusive exclusive
    obtain ⟨succeeds, fails⟩ := CompilerOptions.gated_compile options inclusive exclusive
    refine ⟨succeeds.trans Grammar.validateBoth_eq_ok_iff, ?_, ?_⟩
    · intro error
      exact (fails error).trans Grammar.validateBoth_eq_error_iff
    · intro query compiled
      exact CompilerOptions.exists_prepare_of_compile compiled

/-- A valid grammar beside one with a blank term, which no cache takes up and no query excludes. -/
theorem validation_is_only_gate_blankTerm :
    MatcherCache.empty.get? "foxes" = none ∧
      (MatcherCache.empty.getOrBuild "foxes" .blankTermBeforeNegation).outcome =
        .error (.malformed (.node [0, 1]) (.blankTerm 1)) ∧
      (({} : CompilerOptions).compile (some .henWithoutFox)
        (some .blankTermBeforeNegation)).outcome =
        .error (.malformed (.node [0, 1]) (.blankTerm 1)) ∧
      (({} : CompilerOptions).compile (some .henWithoutFox) none).outcome =
        .ok .ofHenWithoutFox ∧
      ∃ prepared, Query.ofHenWithoutFox.prepare = .ok prepared := by
  have refused : Grammar.blankTermBeforeNegation.validate =
      .error (.malformed (.node [0, 1]) (.blankTerm 1)) := rfl
  have valid : Grammar.henWithoutFox.validate = .ok () := rfl
  have compiled : (({} : CompilerOptions).compile (some .henWithoutFox) none).outcome =
      .ok .ofHenWithoutFox := by cbv
  obtain ⟨-, cached, queries⟩ := validation_is_only_gate {}
  refine ⟨rfl, ((cached .empty "foxes" _ rfl).fails _).mpr refused, ?_, compiled, ?_⟩
  · refine ((queries _ _).2.1 _).mpr (.inr ⟨?_, _, rfl, refused⟩)
    intro grammar member
    cases member
    exact valid
  · exact (queries _ _).2.2 _ compiled

end Concordance
