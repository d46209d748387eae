import Concordance.Proofs.Match.Choices

/-!
When combinations of matches are empty.  Product combinators need a match of every component, and
what their tests leave out is known for single components.
-/

namespace Concordance.Match

/-! Canonical lists. -/

theorem keepLast_ne_nil_iff {list : List Match} : keepLast list ≠ [] ↔ list ≠ [] := by
  induction list with
  | nil => simp [keepLast]
  | cons first rest ih =>
      cases rest with
      | nil => simp [keepLast]
      | cons second others =>
          rw [keepLast]
          split
          · rw [ih]
            simp
          · simp

theorem mem_of_mem_keepLast {found : Match} {list : List Match} (member : found ∈ keepLast list) :
    found ∈ list := by
  induction list with
  | nil => exact member
  | cons first rest ih =>
      cases rest with
      | nil => exact member
      | cons second others =>
          rw [keepLast] at member
          split at member
          · exact List.mem_cons_of_mem first (ih member)
          · rcases List.mem_cons.mp member with rfl | member
            · exact List.mem_cons_self
            · exact List.mem_cons_of_mem first (ih member)

private theorem mergeSort_ne_nil_iff {α : Type} {list : List α} {le : α → α → Bool} :
    list.mergeSort le ≠ [] ↔ list ≠ [] := by
  rw [← List.length_pos_iff, List.length_mergeSort, List.length_pos_iff]

theorem canonical_ne_nil_iff {found : List Match} : canonical found ≠ [] ↔ found ≠ [] := by
  rw [canonical, keepLast_ne_nil_iff, mergeSort_ne_nil_iff]

theorem canonicalFirst_ne_nil_iff {found : List Match} :
    canonicalFirst found ≠ [] ↔ found ≠ [] := by
  rw [canonicalFirst, canonical_ne_nil_iff, ne_eq, List.reverse_eq_nil_iff]

/-! The nearest matches. -/

theorem winnersFrom_ne_nil (list : List Spanned) (stop : Nat) (best : Spanned) :
    winnersFrom list stop best ≠ [] := by
  induction list generalizing stop best with
  | nil => exact List.cons_ne_nil _ _
  | cons next rest ih =>
      rw [winnersFrom]
      split
      · exact List.cons_ne_nil _ _
      · exact ih _ _

theorem winners_ne_nil {list : List Spanned} (spanned : list ≠ []) : winners list ≠ [] := by
  cases list with
  | nil => exact absurd rfl spanned
  | cons first rest => exact winnersFrom_ne_nil rest first.stop first

theorem nearest_ne_nil_iff {found : List Match} : nearest found ≠ [] ↔ found ≠ [] := by
  rw [nearest, canonicalFirst_ne_nil_iff]
  constructor
  · rintro some rfl
    exact some (by simp [winners])
  · intro some
    obtain ⟨first, member⟩ := List.exists_mem_of_ne_nil found some
    cases tokens : first.tokens with
    | nil =>
        have kept : first ∈ found.filter Match.isEmpty :=
          List.mem_filter.mpr ⟨member, by simp [isEmpty, tokens]⟩
        exact List.append_ne_nil_of_left_ne_nil (List.ne_nil_of_mem kept) _
    | cons token rest =>
        apply List.append_ne_nil_of_right_ne_nil
        apply winners_ne_nil
        rw [mergeSort_ne_nil_iff]
        have spanned : Spanned.ofMatch? first =
            Option.some ⟨rest.foldl min token, rest.foldl max token, first⟩ := by
          rw [Spanned.ofMatch?, span?, tokens]
          rfl
        exact List.ne_nil_of_mem (List.mem_filterMap.mpr ⟨first, member, spanned⟩)

theorem finish_ne_nil_iff {matchFirst : Bool} {found : List Match} :
    finish matchFirst found ≠ [] ↔ found ≠ [] := by
  cases matchFirst with
  | false => exact Iff.rfl
  | true => exact nearest_ne_nil_iff

theorem finish_nil (matchFirst : Bool) : finish matchFirst [] = [] :=
  Decidable.of_not_not fun found => finish_ne_nil_iff.mp found rfl

/-! Products. -/

theorem combinations_ne_nil_iff {α : Type} {lists : List (List α)} :
    combinations lists ≠ [] ↔ lists ≠ [] ∧ ∀ list ∈ lists, list ≠ [] := by
  rw [combinations_eq, ← choices_ne_nil_iff]
  cases lists with
  | nil => simp
  | cons list rest => simp

theorem merged_ne_nil_iff {lists : List (List Match)} {keep : List Match → Bool} :
    merged lists keep ≠ [] ↔ ∃ parts ∈ combinations lists, keep parts = true := by
  rw [merged, canonical_ne_nil_iff, ne_eq, List.map_eq_nil_iff, List.filter_eq_nil_iff]
  simp

theorem forall_ne_nil_of_merged {lists : List (List Match)} {keep : List Match → Bool}
    (found : merged lists keep ≠ []) : ∀ list ∈ lists, list ≠ [] := by
  obtain ⟨parts, member, -⟩ := merged_ne_nil_iff.mp found
  exact (combinations_ne_nil_iff.mp (List.ne_nil_of_mem member)).2

theorem merged_eq_nil_of_mem {lists : List (List Match)} {keep : List Match → Bool}
    (member : [] ∈ lists) : merged lists keep = [] := by
  apply Decidable.of_not_not
  intro found
  exact forall_ne_nil_of_merged found [] member rfl

theorem combinations_singleton {α : Type} (list : List α) :
    combinations [list] = list.map fun found => [found] := by
  simp [combinations_eq, choices, List.map_eq_flatMap]

theorem merged_singleton_ne_nil_iff {list : List Match} {keep : List Match → Bool} :
    merged [list] keep ≠ [] ↔ ∃ found ∈ list, keep [found] = true := by
  rw [merged_ne_nil_iff, combinations_singleton]
  constructor
  · intro given
    obtain ⟨parts, member, kept⟩ := given
    obtain ⟨found, foundMember, rfl⟩ := List.mem_map.mp member
    exact ⟨found, foundMember, kept⟩
  · intro given
    obtain ⟨found, member, kept⟩ := given
    exact ⟨[found], List.mem_map_of_mem member, kept⟩

theorem intersection_ne_nil_iff {matchFirst : Bool} {lists : List (List Match)} :
    intersection matchFirst lists ≠ [] ↔ lists ≠ [] ∧ ∀ list ∈ lists, list ≠ [] := by
  rw [intersection, finish_ne_nil_iff, merged_ne_nil_iff, ← combinations_ne_nil_iff]
  constructor
  · intro given
    obtain ⟨parts, member, -⟩ := given
    exact List.ne_nil_of_mem member
  · intro some
    obtain ⟨parts, member⟩ := List.exists_mem_of_ne_nil _ some
    exact ⟨parts, member, rfl⟩

theorem union_ne_nil_iff {lists : List (List Match)} :
    union lists ≠ [] ↔ ∃ list ∈ lists, list ≠ [] := by
  rw [union, canonicalFirst_ne_nil_iff, ne_eq, List.flatten_eq_nil_iff]
  simp

theorem negation_ne_nil_iff {found : List Match} : negation found ≠ [] ↔ found = [] := by
  cases found with
  | nil => simp [negation]
  | cons first rest => simp [negation]

/-! Single components. -/

theorem linked_range' {related : Nat → Nat → Bool} (next : ∀ n, related n (n + 1) = true)
    (first count : Nat) : linked related (List.range' first count) = true := by
  induction count generalizing first with
  | zero => rfl
  | succ count ih =>
      cases count with
      | zero => rfl
      | succ count =>
          rw [List.range'_succ, List.range'_succ, linked, next, Bool.true_and, ← List.range'_succ]
          exact ih (first + 1)

theorem isContiguous_of_range' {found : Match} {first count : Nat}
    (tokens : found.tokens = List.range' first count) : found.isContiguous = true := by
  rw [isContiguous, tokens]
  exact linked_range' (by simp) first count

theorem isWithin_of_range' {slop : Option Nat} {found : Match} {first count : Nat}
    (positive : slop ≠ some 0) (tokens : found.tokens = List.range' first count) :
    found.isWithin slop = true := by
  rw [isWithin, tokens]
  refine linked_range' (fun n => ?_) first count
  cases slop with
  | none => simp
  | some slop =>
      have least : slop ≠ 0 := fun zero => positive (congrArg some zero)
      simp
      omega

theorem isAligned_singleton (found : Match) : isAligned [found] = true := by
  cases empty : found.isEmpty with
  | true => simp [isAligned, empty]
  | false => simp [isAligned, empty]

theorem merged_singleton_ne_nil_iff_of_forall {list : List Match} {keep : List Match → Bool}
    (kept : ∀ found ∈ list, keep [found] = true) : merged [list] keep ≠ [] ↔ list ≠ [] := by
  rw [merged_singleton_ne_nil_iff]
  constructor
  · intro given
    obtain ⟨found, member, -⟩ := given
    exact List.ne_nil_of_mem member
  · intro some
    obtain ⟨found, member⟩ := List.exists_mem_of_ne_nil _ some
    exact ⟨found, member, kept found member⟩

/-- Runs of tokens pass every test of positions. -/
theorem concatenation_singleton_ne_nil_iff {list : List Match}
    (runs : ∀ found ∈ list, ∃ first count, found.tokens = List.range' first count) :
    concatenation [list] ≠ [] ↔ list ≠ [] := by
  apply merged_singleton_ne_nil_iff_of_forall
  intro found member
  obtain ⟨first, count, tokens⟩ := runs found member
  rw [merge_singleton]
  exact isContiguous_of_range' tokens

theorem gap_singleton_ne_nil_iff {slop : Option Nat} {matchFirst : Bool} {list : List Match}
    (positive : slop ≠ some 0)
    (runs : ∀ found ∈ list, ∃ first count, found.tokens = List.range' first count) :
    gap slop matchFirst [list] ≠ [] ↔ list ≠ [] := by
  rw [gap, finish_ne_nil_iff]
  apply merged_singleton_ne_nil_iff_of_forall
  intro found member
  obtain ⟨first, count, tokens⟩ := runs found member
  rw [merge_singleton]
  exact isWithin_of_range' positive tokens

theorem layerMatch_singleton_ne_nil_iff {list : List Match} :
    layerMatch [list] ≠ [] ↔ list ≠ [] :=
  merged_singleton_ne_nil_iff_of_forall fun found _ => isAligned_singleton found

end Concordance.Match
