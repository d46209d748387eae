import Concordance.Proofs.Match.Alignment
import Concordance.Proofs.Matcher.Products

/-!
Alignment of components.  What is found is what the aligned choices of one match of each component
merge to; matches without tokens do not keep a choice from being aligned.
-/

namespace Concordance

namespace Matcher

/-- Where all components find their matches, an alignment finds the merges of the choices that are
aligned, in strictly increasing order and each once; a choice of matches without tokens is one of
them. -/
theorem find_layerMatch {document : Document} {components : List Matcher}
    {lists : List (List Match)} (each : AllFind document components lists) :
    ∃ found, ((layerMatch components).find document).outcome = .ok found ∧
      Match.IsMergeOf (Match.Alignment lists) found ∧
      ∀ parts, components ≠ [] → List.Forall₂ (· ∈ ·) parts lists →
        (∀ part ∈ parts, part.isEmpty = true) → ∃ one ∈ found, one.same (.merge parts) = true := by
  have product := Match.isMergeOf_layerMatch each.increasing
  refine ⟨_, combines_layerMatch document each, product, ?_⟩
  intro parts some chosen tokenless
  exact product.complete parts
    ⟨each.ne_nil some, chosen, Match.aligned_of_tokenless tokenless⟩

/-! A word beside its tag and itself: its single token covers both tokens of the pair, the other
word does not, and the negation takes no part. -/

def tagged : List Matcher := [
  pieces "mlp.lemmas" "red" "fox",
  intersection [pieces "mlp.tags" "ADJ" "DET", pieces "mlp.lemmas" "red" "be"] false,
  negation (pieces "mlp.tags" "ADV" "DET")]

def taggedLists : List (List Match) := [
  [⟨[1], ["mlp"], ["red"]⟩, ⟨[2], ["mlp"], ["fox"]⟩],
  [⟨[1, 0], ["mlp", "mlp"], ["ADJ", "be"]⟩, ⟨[1, 1], ["mlp", "mlp"], ["ADJ", "red"]⟩],
  [.empty]]

def taggedChoice : List Match :=
  [⟨[1], ["mlp"], ["red"]⟩, ⟨[1, 1], ["mlp", "mlp"], ["ADJ", "red"]⟩, .empty]

private theorem tagged_allFind : AllFind .phrase tagged taggedLists := by
  refine .cons ?_ (.cons ?_ (.cons ?_ .nil))
  · rw [find_outcome, Document.require_eq_ok _ (by decide)]
    exact congrArg Except.ok (by decide +kernel)
  · rw [find_outcome, Document.require_eq_ok _ (by decide), results, resultsOfAll_eq_map]
    have sorted : Match.Increasing taggedLists[1] := List.pairwise_pair.mpr (.inl (by decide))
    have parts : Match.combinations ([pieces "mlp.tags" "ADJ" "DET",
        pieces "mlp.lemmas" "red" "be"].map (results .phrase)) =
          [[⟨[1], ["mlp"], ["ADJ"]⟩, ⟨[0], ["mlp"], ["be"]⟩],
            [⟨[1], ["mlp"], ["ADJ"]⟩, ⟨[1], ["mlp"], ["red"]⟩]] := by decide +kernel
    rw [Match.intersection, Match.merged, parts]
    exact congrArg Except.ok (Match.canonical_eq_self sorted)
  · rw [find_outcome, Document.require_eq_ok _ (by decide)]
    exact congrArg Except.ok (by decide +kernel)

private theorem alignment_tagged_iff {parts : List Match} :
    Match.Alignment taggedLists parts ↔ parts = taggedChoice := by
  constructor
  · rintro ⟨-, each, aligned⟩
    have passes := Match.isAligned_iff.mpr aligned
    have choice := Match.mem_choices_iff.mpr each
    simp only [taggedLists, Match.choices, List.flatMap_cons, List.flatMap_nil, List.map_cons,
      List.map_nil, List.append_nil, List.cons_append, List.nil_append, List.mem_cons,
      List.not_mem_nil, or_false] at choice
    rcases choice with rfl | rfl | rfl | rfl
    · cases passes
    · rfl
    · cases passes
    · cases passes
  · rintro rfl
    exact ⟨by decide, by simp [taggedLists, taggedChoice], Match.isAligned_iff.mp rfl⟩

theorem find_layerMatch_tagged :
    AllFind .phrase tagged taggedLists ∧
      ∃ found, ((layerMatch tagged).find .phrase).outcome = .ok found ∧
        ∀ one, one ∈ found ↔ one = ⟨[1, 1, 1], ["mlp", "mlp", "mlp"], ["red", "ADJ", "red"]⟩ := by
  obtain ⟨found, outcome, product, -⟩ := find_layerMatch tagged_allFind
  refine ⟨tagged_allFind, found, outcome, fun one => ?_⟩
  rw [product.members]
  simp only [alignment_tagged_iff]
  constructor
  · rintro ⟨_, rfl, rfl, -⟩
    rfl
  · rintro rfl
    exact ⟨_, rfl, rfl, fun other same _ => .inl same⟩

end Matcher

end Concordance
