import Concordance.Proofs.Match.Combine
import Mathlib.Data.List.Forall2

/-!
Where the members of combinations come from.  A member of a product merges one match of each list,
and putting lists in order or choosing the nearest matches brings nothing in; so what is true of the
empty match and kept by merging is true of a combination if it is of its parts.
-/

namespace Concordance.Match

theorem mem_of_mem_canonical {found : Match} {list : List Match} (member : found ∈ canonical list) :
    found ∈ list :=
  List.mem_mergeSort.mp (mem_of_mem_keepLast member)

theorem mem_of_mem_canonicalFirst {found : Match} {list : List Match}
    (member : found ∈ canonicalFirst list) : found ∈ list :=
  List.mem_reverse.mp (mem_of_mem_canonical member)

/-! The nearest matches. -/

theorem exists_of_mem_winnersFrom {found : Match} {list : List Spanned} {stop : Nat}
    {best : Spanned} (member : found ∈ winnersFrom list stop best) :
    ∃ spanned ∈ best :: list, spanned.found = found := by
  induction list generalizing stop best with
  | nil =>
      rw [winnersFrom, List.mem_singleton] at member
      exact ⟨best, List.mem_cons_self, member.symm⟩
  | cons next rest ih =>
      rw [winnersFrom] at member
      split at member
      · rcases List.mem_cons.mp member with rfl | member
        · exact ⟨best, List.mem_cons_self, rfl⟩
        · obtain ⟨spanned, inside, same⟩ := ih member
          exact ⟨spanned, List.mem_cons_of_mem best inside, same⟩
      · obtain ⟨spanned, inside, same⟩ := ih member
        refine ⟨spanned, ?_, same⟩
        rcases List.mem_cons.mp inside with rfl | inside
        · split <;> simp
        · exact List.mem_cons_of_mem best (List.mem_cons_of_mem next inside)

theorem exists_of_mem_winners {found : Match} {list : List Spanned}
    (member : found ∈ winners list) : ∃ spanned ∈ list, spanned.found = found := by
  cases list with
  | nil => cases member
  | cons first rest => exact exists_of_mem_winnersFrom member

theorem Spanned.found_of_ofMatch? {found : Match} {spanned : Spanned}
    (spans : ofMatch? found = some spanned) : spanned.found = found := by
  obtain ⟨_, -, rfl⟩ := Option.map_eq_some_iff.mp spans
  rfl

theorem mem_of_mem_nearest {found : Match} {list : List Match} (member : found ∈ nearest list) :
    found ∈ list := by
  rcases List.mem_append.mp (mem_of_mem_canonicalFirst member) with tokenless | won
  · exact List.mem_of_mem_filter tokenless
  · obtain ⟨spanned, inside, rfl⟩ := exists_of_mem_winners won
    obtain ⟨other, otherMember, spans⟩ := List.mem_filterMap.mp (List.mem_mergeSort.mp inside)
    rw [Spanned.found_of_ofMatch? spans]
    exact otherMember

theorem mem_of_mem_finish {matchFirst : Bool} {found : Match} {list : List Match}
    (member : found ∈ finish matchFirst list) : found ∈ list := by
  cases matchFirst with
  | false => exact member
  | true => exact mem_of_mem_nearest member

/-! Products. -/

theorem mem_choices_iff {α : Type} {lists : List (List α)} {parts : List α} :
    parts ∈ choices lists ↔ List.Forall₂ (· ∈ ·) parts lists := by
  induction lists generalizing parts with
  | nil => simp [choices]
  | cons list rest ih =>
      simp only [choices, List.mem_flatMap, List.mem_map, ih, List.forall₂_cons_right_iff]
      constructor
      · rintro ⟨first, member, others, chosen, rfl⟩
        exact ⟨first, others, member, chosen, rfl⟩
      · rintro ⟨first, others, member, chosen, rfl⟩
        exact ⟨first, member, others, chosen, rfl⟩

theorem mem_combinations_iff {α : Type} {lists : List (List α)} {parts : List α} :
    parts ∈ combinations lists ↔ lists ≠ [] ∧ List.Forall₂ (· ∈ ·) parts lists := by
  rw [combinations_eq, ← mem_choices_iff]
  cases lists <;> simp

theorem exists_of_mem_merged {found : Match} {lists : List (List Match)} {keep : List Match → Bool}
    (member : found ∈ merged lists keep) :
    ∃ parts, List.Forall₂ (· ∈ ·) parts lists ∧ keep parts = true ∧ merge parts = found := by
  obtain ⟨parts, kept, same⟩ := List.mem_map.mp (mem_of_mem_canonical member)
  obtain ⟨combined, keeps⟩ := List.mem_filter.mp kept
  exact ⟨parts, (mem_combinations_iff.mp combined).2, keeps, same⟩

theorem forall_mem_of_chosen {α : Type} {Kept : α → Prop} {lists : List (List α)} {parts : List α}
    (all : ∀ list ∈ lists, ∀ a ∈ list, Kept a) (chosen : List.Forall₂ (· ∈ ·) parts lists) :
    ∀ part ∈ parts, Kept part := by
  induction chosen with
  | nil => nofun
  | cons inside _ ih =>
      rw [List.forall_mem_cons] at all
      exact List.forall_mem_cons.mpr ⟨all.1 _ inside, ih all.2⟩

/-! What merging keeps. -/

structure MergeClosed (Kept : Match → Prop) : Prop where
  empty : Kept .empty
  append : ∀ {first second}, Kept first → Kept second → Kept (first.append second)

namespace MergeClosed

variable {Kept : Match → Prop} {lists : List (List Match)}

theorem merge (closed : MergeClosed Kept) {parts : List Match} (all : ∀ part ∈ parts, Kept part) :
    Kept (Match.merge parts) := by
  induction parts with
  | nil => exact closed.empty
  | cons first rest ih =>
      rw [List.forall_mem_cons] at all
      exact closed.append all.1 (ih all.2)

theorem merged (closed : MergeClosed Kept) {keep : List Match → Bool}
    (all : ∀ list ∈ lists, ∀ found ∈ list, Kept found) :
    ∀ found ∈ Match.merged lists keep, Kept found := by
  intro found member
  obtain ⟨parts, chosen, -, rfl⟩ := exists_of_mem_merged member
  exact closed.merge (forall_mem_of_chosen all chosen)

end MergeClosed

end Concordance.Match
