import Concordance.Proofs.Match.Grouping

/-!
Filtered matches.  A list filters another one if it has some of its matches and, where there are
any, at least one.  Intersections and unions of filtered lists filter those of the full lists.  A
negation sees no difference.
-/

namespace Concordance.Match

/-- Some of the matches of the second list, texts apart, and one at least if there are any. -/
structure Filters (found all : List Match) : Prop where
  subset : found.map key ⊆ all.map key
  ne_nil : all ≠ [] → found ≠ []

namespace Filters

variable {found all : List Match} {lists fullLists : List (List Match)}

theorem of_mem_iff (same : ∀ keys, keys ∈ found.map key ↔ keys ∈ all.map key) :
    Filters found all := by
  refine ⟨fun keys => (same keys).mp, ?_⟩
  rintro some rfl
  exact some (List.map_eq_nil_iff.mp (List.eq_nil_iff_forall_not_mem.mpr fun keys member =>
    List.not_mem_nil ((same keys).mpr member)))

theorem refl (list : List Match) : Filters list list :=
  of_mem_iff fun _ => Iff.rfl

theorem trans {middle : List Match} (first : Filters found middle) (second : Filters middle all) :
    Filters found all :=
  ⟨fun _ member => second.subset (first.subset member), first.ne_nil ∘ second.ne_nil⟩

theorem eq_nil_iff (filters : Filters found all) : found = [] ↔ all = [] := by
  refine ⟨not_imp_not.mp filters.ne_nil, ?_⟩
  rintro rfl
  exact List.map_eq_nil_iff.mp (List.subset_nil.mp filters.subset)

theorem isEmpty_eq (filters : Filters found all) : found.isEmpty = all.isEmpty := by
  rw [Bool.eq_iff_iff, List.isEmpty_iff, List.isEmpty_iff, filters.eq_nil_iff]

theorem exists_same (filters : Filters found all) {one : Match} (member : one ∈ found) :
    ∃ other ∈ all, one.same other = true := by
  obtain ⟨other, otherMember, sameKey⟩ :=
    List.mem_map.mp (filters.subset (List.mem_map_of_mem member))
  exact ⟨other, otherMember, same_iff_key_eq.mpr sameKey.symm⟩

theorem finish (matchFirst : Bool) (list : List Match) :
    Filters (finish matchFirst list) list :=
  ⟨List.map_subset key fun _ => mem_of_mem_finish, finish_ne_nil_iff.mpr⟩

/-! Products. -/

theorem exists_chosen (each : List.Forall₂ Filters lists fullLists) {parts : List Match}
    (chosen : List.Forall₂ (· ∈ ·) parts lists) :
    ∃ others, List.Forall₂ (· ∈ ·) others fullLists ∧ (merge others).key = (merge parts).key := by
  induction each generalizing parts with
  | nil =>
      cases chosen
      exact ⟨[], .nil, rfl⟩
  | cons filters _ ih =>
      cases chosen with
      | cons member later =>
          obtain ⟨other, otherMember, same⟩ := filters.exists_same member
          obtain ⟨tokens, features⟩ := same_iff.mp same
          obtain ⟨others, othersChosen, sameKey⟩ := ih later
          obtain ⟨restTokens, restFeatures⟩ := Prod.mk.inj sameKey
          refine ⟨other :: others, .cons otherMember othersChosen, ?_⟩
          simp only [merge_cons, append, key, tokens, features, restTokens, restFeatures]

theorem forall_ne_nil_iff (each : List.Forall₂ Filters lists fullLists) :
    (∀ list ∈ lists, list ≠ []) ↔ ∀ list ∈ fullLists, list ≠ [] := by
  induction each with
  | nil => exact Iff.rfl
  | cons filters _ ih =>
      rw [List.forall_mem_cons, List.forall_mem_cons, ih, ne_eq, filters.eq_nil_iff]

theorem intersection (matchFirst : Bool) (each : List.Forall₂ Filters lists fullLists) :
    Filters (intersection matchFirst lists) (intersection false fullLists) := by
  have given : lists ≠ [] ↔ fullLists ≠ [] := by cases each <;> simp
  constructor
  · intro keys member
    obtain ⟨found, foundMember, rfl⟩ := List.mem_map.mp member
    obtain ⟨parts, combined, -, sameKey⟩ :=
      mem_map_key_merged_iff.mp (List.mem_map_of_mem (mem_of_mem_finish foundMember))
    obtain ⟨some, chosen⟩ := mem_combinations_iff.mp combined
    obtain ⟨others, othersChosen, otherKey⟩ := exists_chosen each chosen
    exact mem_map_key_merged_iff.mpr ⟨others,
      mem_combinations_iff.mpr ⟨given.mp some, othersChosen⟩, rfl, otherKey.trans sameKey⟩
  · rw [intersection_ne_nil_iff, intersection_ne_nil_iff, given, forall_ne_nil_iff each]
    exact id

/-! Unions and negations. -/

theorem flatten (each : List.Forall₂ Filters lists fullLists) :
    Filters lists.flatten fullLists.flatten := by
  induction each with
  | nil => exact .refl []
  | cons filters _ ih =>
      simp only [List.flatten_cons]
      constructor
      · rw [List.map_append, List.map_append]
        exact List.append_subset.mpr ⟨List.subset_append_of_subset_left _ filters.subset,
          List.subset_append_of_subset_right _ ih.subset⟩
      · rw [ne_eq, ne_eq, List.append_eq_nil_iff, List.append_eq_nil_iff, filters.eq_nil_iff,
          ih.eq_nil_iff]
        exact id

theorem union (each : List.Forall₂ Filters lists fullLists) :
    Filters (union lists) (union fullLists) := by
  have ordered (lists : List (List Match)) : Filters (Match.union lists) lists.flatten :=
    of_mem_iff fun _ => mem_map_key_union_iff
  have unordered : Filters fullLists.flatten (Match.union fullLists) :=
    of_mem_iff fun _ => mem_map_key_union_iff.symm
  exact (ordered lists).trans ((flatten each).trans unordered)

theorem negation_eq (filters : Filters found all) : negation found = negation all := by
  rw [negation, negation, filters.isEmpty_eq]

end Filters

end Concordance.Match
