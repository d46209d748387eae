import Concordance.Proofs.Match.Nearest
import Concordance.Proofs.Match.Products
import Mathlib.Data.List.Chain

/-!
Products of products.  Where a rule on tokens passes on to the parts of a sequence, what a product of
some lists drops could not be completed to anything that a product of more lists keeps, so lists can
be combined in groups.  A list with nothing but the empty match is neutral in a product, and a list
without matches leaves nothing of it.
-/

namespace Concordance.Match

variable {rule : List Nat → Prop} {keep : List Match → Bool}
  {before inner after : List (List Match)} {keys : List Nat × List String}

/-! What is found, texts apart. -/

theorem mem_map_key_canonical_iff {list : List Match} :
    keys ∈ (canonical list).map key ↔ keys ∈ list.map key := by
  rw [List.mem_map, List.mem_map]
  constructor
  · rintro ⟨kept, member, rfl⟩
    exact ⟨kept, mem_of_mem_canonical member, rfl⟩
  · rintro ⟨found, member, rfl⟩
    obtain ⟨kept, keptMember, same⟩ := exists_same_of_mem_canonical member
    exact ⟨kept, keptMember, same_iff_key_eq.mp same⟩

theorem mem_map_key_union_iff {lists : List (List Match)} :
    keys ∈ (union lists).map key ↔ keys ∈ lists.flatten.map key := by
  rw [union, canonicalFirst, mem_map_key_canonical_iff, List.map_reverse, List.mem_reverse]

theorem mem_map_key_merged_iff {lists : List (List Match)} :
    keys ∈ (merged lists keep).map key ↔
      ∃ parts ∈ combinations lists, keep parts = true ∧ (merge parts).key = keys := by
  rw [merged, mem_map_key_canonical_iff, List.map_map]
  simp only [List.mem_map, List.mem_filter, and_assoc, Function.comp_apply]

theorem map_key_finish_congr {matchFirst : Bool} {candidates others : List Match}
    (same : candidates.map key = others.map key) :
    (finish matchFirst candidates).map key = (finish matchFirst others).map key := by
  cases matchFirst with
  | false => exact same
  | true =>
      have subset : candidates.map key ⊆ others.map key := same ▸ List.Subset.refl _
      have back : others.map key ⊆ candidates.map key := same ▸ List.Subset.refl _
      apply map_key_eq_of_increasing (increasing_nearest candidates) (increasing_nearest others)
      exact fun keys => ⟨mem_map_key_nearest_of_subset subset back,
        mem_map_key_nearest_of_subset back subset⟩

/-! Groups. -/

/-- A rule on tokens that holds of the parts of every sequence of which it holds. -/
def Hereditary (rule : List Nat → Prop) : Prop :=
  ∀ {part whole : List Nat}, part <:+: whole → rule whole → rule part

theorem hereditary_isChain (related : Nat → Nat → Prop) : Hereditary (List.IsChain related) :=
  fun part chain => chain.infix part

/-- Put between what two choices merge to, a match keeps the rule and gives these keys. -/
def Completes (rule : List Nat → Prop) (keys : List Nat × List String) (first last : List Match)
    (found : Match) : Prop :=
  rule (((merge first).append found).append (merge last)).tokens ∧
    (((merge first).append found).append (merge last)).key = keys

theorem Completes.congr {first last : List Match} {found other : Match}
    (completes : Completes rule keys first last found) (same : found.same other = true) :
    Completes rule keys first last other := by
  obtain ⟨tokens, features⟩ := same_iff.mp same
  simpa only [Completes, append, key, tokens, features] using completes

theorem mem_choices_append_iff {α : Type} {left right : List (List α)} {parts : List α} :
    parts ∈ choices (left ++ right) ↔
      ∃ first ∈ choices left, ∃ second ∈ choices right, first ++ second = parts := by
  simp only [choices_append, List.mem_flatMap, List.mem_map]

theorem mem_map_key_merged_append_iff {middle : List (List Match)} (some : middle ≠ [])
    (decides : ∀ parts, keep parts = true ↔ rule (merge parts).tokens) :
    keys ∈ (merged (before ++ middle ++ after) keep).map key ↔
      ∃ first ∈ choices before, ∃ last ∈ choices after, ∃ parts ∈ choices middle,
        Completes rule keys first last (merge parts) := by
  rw [mem_map_key_merged_iff, combinations_eq_choices (by simp [some])]
  constructor
  · rintro ⟨_, member, kept, rfl⟩
    obtain ⟨_, others, last, lastMember, rfl⟩ := mem_choices_append_iff.mp member
    obtain ⟨first, firstMember, parts, partsMember, rfl⟩ := mem_choices_append_iff.mp others
    rw [decides, merge_append, merge_append] at kept
    refine ⟨first, firstMember, last, lastMember, parts, partsMember, kept, ?_⟩
    rw [merge_append, merge_append]
  · rintro ⟨first, firstMember, last, lastMember, parts, partsMember, kept, rfl⟩
    refine ⟨first ++ parts ++ last, ?_, ?_, ?_⟩
    · have member := mem_choices_append_iff.mpr ⟨first, firstMember, parts, partsMember, rfl⟩
      exact mem_choices_append_iff.mpr ⟨_, member, last, lastMember, rfl⟩
    · rwa [decides, merge_append, merge_append]
    · rw [merge_append, merge_append]

theorem exists_mem_choices_singleton_iff {list : List Match} {Wanted : Match → Prop} :
    (∃ parts ∈ choices [list], Wanted (merge parts)) ↔ ∃ found ∈ list, Wanted found := by
  simp [choices]

/-- What a product of a group drops could not be completed anyway. -/
theorem exists_completes_iff {first last : List Match} (hereditary : Hereditary rule)
    (some : inner ≠ []) (decides : ∀ parts, keep parts = true ↔ rule (merge parts).tokens) :
    (∃ found ∈ merged inner keep, Completes rule keys first last found) ↔
      ∃ parts ∈ choices inner, Completes rule keys first last (merge parts) := by
  constructor
  · rintro ⟨found, member, completes⟩
    obtain ⟨parts, chosen, -, rfl⟩ := exists_of_mem_merged member
    exact ⟨parts, mem_choices_iff.mpr chosen, completes⟩
  · rintro ⟨parts, member, completes⟩
    have kept : keep parts = true :=
      (decides parts).mpr (hereditary (List.infix_append _ _ _) completes.1)
    have inside : (merge parts).key ∈ (merged inner keep).map key :=
      mem_map_key_merged_iff.mpr ⟨parts, combinations_eq_choices some ▸ member, kept, rfl⟩
    obtain ⟨found, foundMember, same⟩ := List.mem_map.mp inside
    exact ⟨found, foundMember, completes.congr (same_iff_key_eq.mpr same.symm)⟩

theorem map_key_merged_group (hereditary : Hereditary rule) (some : inner ≠ [])
    (decides : ∀ parts, keep parts = true ↔ rule (merge parts).tokens) :
    (merged (before ++ [merged inner keep] ++ after) keep).map key =
      (merged (before ++ inner ++ after) keep).map key := by
  apply map_key_eq_of_increasing (increasing_merged _ _) (increasing_merged _ _)
  intro keys
  rw [mem_map_key_merged_append_iff (List.cons_ne_nil _ _) decides,
    mem_map_key_merged_append_iff some decides]
  simp only [exists_mem_choices_singleton_iff, exists_completes_iff hereditary some decides]

theorem map_key_intersection_group (some : inner ≠ []) (matchFirst : Bool) :
    (intersection matchFirst (before ++ [intersection false inner] ++ after)).map key =
      (intersection matchFirst (before ++ inner ++ after)).map key := by
  have free : Hereditary fun _ => True := fun _ _ => trivial
  apply map_key_finish_congr
  exact map_key_merged_group free some fun _ => by simp

theorem map_key_concatenation_group (some : inner ≠ []) :
    (concatenation (before ++ [concatenation inner] ++ after)).map key =
      (concatenation (before ++ inner ++ after)).map key :=
  map_key_merged_group (hereditary_isChain _) some fun _ => isContiguous_iff

theorem map_key_gap_group (some : inner ≠ []) (slop : Option Nat) (matchFirst : Bool) :
    (gap slop matchFirst (before ++ [gap slop false inner] ++ after)).map key =
      (gap slop matchFirst (before ++ inner ++ after)).map key := by
  apply map_key_finish_congr
  exact map_key_merged_group (hereditary_isChain _) some fun _ => isWithin_iff

theorem map_key_union_group :
    (union (before ++ [union inner] ++ after)).map key =
      (union (before ++ inner ++ after)).map key := by
  apply map_key_eq_of_increasing (increasing_union _) (increasing_union _)
  intro keys
  simp only [mem_map_key_union_iff, List.flatten_append, List.flatten_singleton, List.map_append,
    List.mem_append]

/-! The empty match among others. -/

theorem merge_insert_empty (first last : List Match) :
    merge (first ++ empty :: last) = merge (first ++ last) := by
  rw [merge_append, merge_append, merge_cons, empty_append]

theorem isAligned_insert_empty (first last : List Match) :
    isAligned (first ++ empty :: last) = isAligned (first ++ last) := by
  have dropped : (first ++ empty :: last).filter (fun part => !part.isEmpty) =
      (first ++ last).filter fun part => !part.isEmpty := by
    simp [isEmpty, empty]
  rw [isAligned, isAligned, dropped]

/-- A test of choices that does not see empty matches. -/
def SkipsEmpty (keep : List Match → Bool) : Prop :=
  ∀ first last, keep (first ++ empty :: last) = keep (first ++ last)

theorem skipsEmpty_of_merge (test : Match → Bool) : SkipsEmpty fun parts => test (merge parts) :=
  fun first last => congrArg test (merge_insert_empty first last)

theorem choices_insert {α : Type} (left right : List (List α)) (only : α) :
    choices (left ++ [only] :: right) =
      (choices left).flatMap fun first =>
        (choices right).map fun last => first ++ only :: last := by
  simp only [choices_append, choices, List.flatMap_singleton, List.map_map]
  rfl

theorem merged_insert_empty (skips : SkipsEmpty keep) (some : before ++ after ≠ []) :
    merged (before ++ [empty] :: after) keep = merged (before ++ after) keep := by
  rw [merged, merged, combinations_eq_choices (by simp), combinations_eq_choices some,
    choices_insert, choices_append]
  simp only [List.filter_flatMap, List.map_flatMap, List.filter_map, List.map_map]
  congr 2
  funext first
  have kept : keep ∘ (fun last => first ++ empty :: last) = keep ∘ (first ++ ·) :=
    funext fun last => skips first last
  have merges : merge ∘ (fun last => first ++ empty :: last) = merge ∘ (first ++ ·) :=
    funext fun last => merge_insert_empty first last
  rw [kept, merges]

theorem merged_insert_negation (skips : SkipsEmpty keep) (some : before ++ after ≠ [])
    (found : List Match) :
    merged (before ++ negation found :: after) keep =
      if found.isEmpty then merged (before ++ after) keep else [] := by
  rw [negation]
  split
  · exact merged_insert_empty skips some
  · exact merged_eq_nil_of_mem (by simp)

theorem finish_insert_negation (matchFirst : Bool) (skips : SkipsEmpty keep)
    (some : before ++ after ≠ []) (found : List Match) :
    finish matchFirst (merged (before ++ negation found :: after) keep) =
      if found.isEmpty then finish matchFirst (merged (before ++ after) keep) else [] := by
  rw [merged_insert_negation skips some, apply_ite (finish matchFirst), finish_nil]

end Concordance.Match
