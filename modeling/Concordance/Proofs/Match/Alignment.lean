import Concordance.Proofs.Match.Products

/-!
Alignment.  Matches are compared with one of the longest of them; this decides whether all of them
cover the same tokens once single tokens are repeated to the greatest length.
-/

namespace Concordance.Match

/-- The matches that have tokens. -/
def sized (parts : List Match) : List Match :=
  parts.filter fun part => !part.isEmpty

/-- A single token repeated to a length, and other tokens as they are. -/
def broadcast (count : Nat) : List Nat → List Nat
  | [token] => List.replicate count token
  | tokens => tokens

/-- Matches of one token or of a given length that, broadcast to it, cover the same tokens. -/
structure AlignedTo (count : Nat) (parts : List Match) : Prop where
  lengths : ∀ part ∈ parts, part.length = 1 ∨ part.length = count
  tokens : ∀ left ∈ parts, ∀ right ∈ parts,
    broadcast count left.tokens = broadcast count right.tokens

/-- Matches whose tokens, where they have any, align to those of the longest. -/
def Aligned (parts : List Match) : Prop :=
  ∀ most ∈ ((sized parts).map length).max?, AlignedTo most (sized parts)

theorem aligned_of_tokenless {parts : List Match} (tokenless : ∀ part ∈ parts, part.isEmpty = true) :
    Aligned parts := by
  have none : sized parts = [] := by simpa [sized] using tokenless
  rw [Aligned, none]
  nofun

theorem broadcast_length (tokens : List Nat) : broadcast tokens.length tokens = tokens := by
  match tokens with
  | [] => rfl
  | [token] => rfl
  | _ :: _ :: _ => rfl

/-- It is enough to compare all matches with one that has the length aligned to. -/
theorem alignedTo_iff {parts : List Match} {reference : Match} (member : reference ∈ parts) :
    AlignedTo reference.length parts ↔ ∀ part ∈ parts,
      (part.length = 1 ∨ part.length = reference.length) ∧
        broadcast reference.length part.tokens = reference.tokens := by
  have own : broadcast reference.length reference.tokens = reference.tokens :=
    broadcast_length reference.tokens
  constructor
  · intro aligned part partMember
    have same := aligned.tokens part partMember reference member
    exact ⟨aligned.lengths part partMember, same.trans own⟩
  · intro each
    constructor
    · exact fun part partMember => (each part partMember).1
    · intro left leftMember right rightMember
      exact (each left leftMember).2.trans (each right rightMember).2.symm

/-- The test of one match against a longest one. -/
theorem fits_iff {part reference : Match} :
    (if part.length == reference.length then part.tokens == reference.tokens
      else part.length == 1 && reference.tokens.all fun token => part.tokens.head? == some token) =
        true ↔
      (part.length = 1 ∨ part.length = reference.length) ∧
        broadcast reference.length part.tokens = reference.tokens := by
  by_cases same : part.length = reference.length
  · have own : broadcast reference.length part.tokens = part.tokens :=
      same ▸ broadcast_length part.tokens
    rw [if_pos (beq_iff_eq.mpr same), own, beq_iff_eq, and_iff_right (.inr same)]
  · rw [if_neg (by simpa using same), Bool.and_eq_true, beq_iff_eq, or_iff_left same]
    apply and_congr_right
    intro single
    obtain ⟨token, tokens⟩ := List.length_eq_one_iff.mp single
    rw [tokens, broadcast, @eq_comm _ (List.replicate _ _), List.eq_replicate_iff,
      List.all_eq_true]
    simp only [List.head?_cons, beq_iff_eq, Option.some.injEq, length, true_and, @eq_comm _ token]

theorem isAligned_iff {parts : List Match} : isAligned parts = true ↔ Aligned parts := by
  rw [isAligned, Aligned, ← sized]
  cases longest : ((sized parts).map length).max? with
  | none =>
      have none : sized parts = [] := by simpa using longest
      simp [none]
  | some most =>
      have member : most ∈ (sized parts).map length := List.max?_mem longest
      have folded : ((sized parts).map length).foldl max 0 = most := by
        rw [List.foldl_max, longest]
        exact Nat.zero_max most
      rw [folded]
      cases search : (sized parts).find? fun part => part.length == most with
      | none =>
          obtain ⟨part, partMember, rfl⟩ := List.mem_map.mp member
          simpa using List.find?_eq_none.mp search part partMember
      | some reference =>
          obtain rfl : reference.length = most := by simpa using List.find?_some search
          simp only [List.all_eq_true, fits_iff, Option.mem_def, Option.some.injEq, forall_eq',
            alignedTo_iff (List.mem_of_find?_eq_some search)]

/-- A choice of one match of each list, of at least one list, that is aligned. -/
structure Alignment (lists : List (List Match)) (parts : List Match) : Prop where
  some : lists ≠ []
  each : List.Forall₂ (· ∈ ·) parts lists
  aligned : Aligned parts

theorem isMergeOf_layerMatch {lists : List (List Match)}
    (increasing : ∀ list ∈ lists, Increasing list) :
    IsMergeOf (Alignment lists) (layerMatch lists) := by
  apply isMergeOf_merged increasing
  intro parts
  rw [List.mem_filter, mem_combinations_iff, isAligned_iff]
  constructor
  · rintro ⟨⟨some, each⟩, aligned⟩
    exact ⟨some, each, aligned⟩
  · rintro ⟨some, each, aligned⟩
    exact ⟨⟨some, each⟩, aligned⟩

end Concordance.Match
