import Concordance.Proofs.Matcher.Results
import Concordance.Search.Basic

/-!
What the two matchers of a search say of a document.  It qualifies, or is refused, or lacks a layer,
and verification tells which; the other matcher has no say where nothing wanted is found.
-/

namespace Concordance.Verifier

variable {verifier : Verifier} {document : Document}

/-- Something wanted is found, and nothing unwanted. -/
structure Qualifies (verifier : Verifier) (document : Document) (found : List Match) : Prop where
  finds : (verifier.wanted.find document).outcome = .ok found
  nonempty : found ≠ []
  clear : ∀ unwanted ∈ verifier.unwanted, (unwanted.find document).outcome = .ok []

inductive Refuses (verifier : Verifier) (document : Document) : Prop where
  | nothing (finds : (verifier.wanted.find document).outcome = .ok [])
  | excluded {found others : List Match} {unwanted : Matcher}
      (finds : (verifier.wanted.find document).outcome = .ok found) (nonempty : found ≠ [])
      (given : unwanted ∈ verifier.unwanted)
      (otherFinds : (unwanted.find document).outcome = .ok others) (otherNonempty : others ≠ [])

inductive Lacks (verifier : Verifier) (document : Document) (key : LayerKey) : Prop where
  | wanted (missing : (verifier.wanted.find document).outcome = .error (.unknownLayer key))
  | unwanted {found : List Match} {unwanted : Matcher}
      (finds : (verifier.wanted.find document).outcome = .ok found) (nonempty : found ≠ [])
      (given : unwanted ∈ verifier.unwanted)
      (missing : (unwanted.find document).outcome = .error (.unknownLayer key))

/-- There is always a verdict, since only layers can be missing. -/
theorem exists_verdict (verifier : Verifier) (document : Document) :
    (∃ found, verifier.Qualifies document found) ∨ verifier.Refuses document ∨
      ∃ key, verifier.Lacks document key := by
  rcases Matcher.find_outcome_cases document verifier.wanted with ⟨key, missing⟩ | finds
  · exact .inr (.inr ⟨key, .wanted missing⟩)
  · by_cases nonempty : verifier.wanted.results document = []
    · exact .inr (.inl (.nothing (nonempty ▸ finds)))
    · cases given : verifier.unwanted with
      | none =>
          refine .inl ⟨_, finds, nonempty, ?_⟩
          rw [given]
          exact nofun
      | some unwanted =>
          have member : unwanted ∈ verifier.unwanted := given
          rcases Matcher.find_outcome_cases document unwanted with ⟨key, missing⟩ | otherFinds
          · exact .inr (.inr ⟨key, .unwanted finds nonempty member missing⟩)
          · by_cases otherNonempty : unwanted.results document = []
            · refine .inl ⟨_, finds, nonempty, ?_⟩
              intro other otherMember
              rw [given, Option.mem_some] at otherMember
              rw [← otherMember, otherFinds, otherNonempty]
            · exact .inr (.inl (.excluded finds nonempty member otherFinds otherNonempty))

/-! Verification gives the verdict. -/

private theorem verify_outcome_of_unwanted {found : List Match} {unwanted : Matcher}
    (finds : (verifier.wanted.find document).outcome = .ok found) (nonempty : found ≠ [])
    (given : unwanted ∈ verifier.unwanted) :
    (verifier.verify document).outcome = (unwanted.find document).outcome >>= fun others =>
      .ok (if others.isEmpty then some found else none) := by
  rw [verify, Traced.outcome_bind, finds, ok_bind, if_neg (by simpa using nonempty),
    Option.mem_def.mp given]
  dsimp only
  rw [Traced.outcome_bind, Matcher.isMatch, Traced.outcome_bind]
  cases (unwanted.find document).outcome with
  | error error => rfl
  | ok others =>
      cases others with
      | nil => rfl
      | cons first rest => rfl

theorem Qualifies.verify_outcome {found : List Match}
    (qualifies : verifier.Qualifies document found) :
    (verifier.verify document).outcome = .ok (some found) := by
  obtain ⟨finds, nonempty, clear⟩ := qualifies
  cases given : verifier.unwanted with
  | none =>
      rw [verify, Traced.outcome_bind, finds, ok_bind, if_neg (by simpa using nonempty), given]
      rfl
  | some unwanted =>
      rw [verify_outcome_of_unwanted finds nonempty given, clear unwanted given]
      rfl

theorem Refuses.verify_outcome (refuses : verifier.Refuses document) :
    (verifier.verify document).outcome = .ok none := by
  cases refuses with
  | nothing finds =>
      rw [verify, Traced.outcome_bind, finds]
      rfl
  | excluded finds nonempty given otherFinds otherNonempty =>
      rw [verify_outcome_of_unwanted finds nonempty given, otherFinds, ok_bind,
        if_neg (by simpa using otherNonempty)]

theorem Lacks.verify_outcome {key : LayerKey} (lacks : verifier.Lacks document key) :
    (verifier.verify document).outcome = .error (.unknownLayer key) := by
  cases lacks with
  | wanted missing =>
      rw [verify, Traced.outcome_bind, missing]
      rfl
  | unwanted finds nonempty given missing =>
      rw [verify_outcome_of_unwanted finds nonempty given, missing]
      rfl

end Concordance.Verifier
