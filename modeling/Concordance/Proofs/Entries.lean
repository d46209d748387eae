import Concordance.Entries
import Mathlib.Data.Finset.Card
import Mathlib.Data.List.Basic
import Mathlib.Data.List.Induction

/-!
Tables filled one entry after the other.  The keys stand in the order of first occurrence, each of
them once, and the value of a key is the one that came last.
-/

namespace Concordance

/-! Order of first occurrence. -/

theorem idxOf_append_of_lt {α : Type} [BEq α] [LawfulBEq α] {list more : List α} {first second : α}
    (firstMember : first ∈ list) (before : list.idxOf first < list.idxOf second) :
    (list ++ more).idxOf first < (list ++ more).idxOf second := by
  rw [List.idxOf_append_of_mem firstMember]
  by_cases member : second ∈ list
  · rwa [List.idxOf_append_of_mem member]
  · rw [List.idxOf_append_of_notMem member]
    exact Nat.lt_add_right _ (List.idxOf_lt_length_of_mem firstMember)

theorem eraseDups_append_singleton {α : Type} [BEq α] [LawfulBEq α] (list : List α) (last : α) :
    (list ++ [last]).eraseDups =
      if last ∈ list then list.eraseDups else list.eraseDups ++ [last] := by
  rw [List.eraseDups_append, List.removeAll]
  split
  · next member => simp [member]
  · next fresh => simp [fresh, List.eraseDups_cons]

theorem pairwise_idxOf_eraseDups {α : Type} [BEq α] [LawfulBEq α] (list : List α) :
    list.eraseDups.Pairwise fun first second => list.idxOf first < list.idxOf second := by
  -- The table grows at its end, and what is known of the list before stays as it is.
  induction list using List.reverseRecOn with
  | nil => exact .nil
  | append_singleton list last ih =>
      have kept : list.eraseDups.Pairwise fun first second =>
          (list ++ [last]).idxOf first < (list ++ [last]).idxOf second := by
        refine ih.imp_of_mem fun firstMember _ before => ?_
        exact idxOf_append_of_lt (List.mem_eraseDups.mp firstMember) before
      rw [eraseDups_append_singleton]
      split
      · exact kept
      · next fresh =>
        refine List.pairwise_append.mpr ⟨kept, List.pairwise_singleton _ last, ?_⟩
        intro first member other lastMember
        rw [List.mem_singleton.mp lastMember, List.idxOf_append_of_notMem fresh,
          List.idxOf_append_of_mem (List.mem_eraseDups.mp member)]
        exact Nat.lt_add_right _ (List.idxOf_lt_length_of_mem (List.mem_eraseDups.mp member))

/-! Places in a list to which an element is added. -/

theorem getElem?_append_singleton_eq_last {α : Type} {list : List α} {last : α}
    (fresh : last ∉ list) {place : Nat} :
    (list ++ [last])[place]? = some last ↔ place = list.length := by
  rw [List.getElem?_append]
  split
  · next before =>
    refine iff_of_false ?_ (Nat.ne_of_lt before)
    exact fun there => fresh (List.mem_of_getElem? there)
  · next after =>
    rw [List.getElem?_singleton]
    split
    · exact iff_of_true rfl (by omega)
    · exact iff_of_false nofun (by omega)

theorem getElem?_append_singleton_ne {α : Type} {list : List α} {last other : α}
    (differ : other ≠ last) {place : Nat} :
    (list ++ [last])[place]? = some other ↔ list[place]? = some other := by
  rw [List.getElem?_append]
  split
  · rfl
  · next after =>
    rw [List.getElem?_eq_none (Nat.le_of_not_lt after), List.getElem?_singleton]
    simp [differ.symm]

namespace Entries

variable {κ α : Type} [DecidableEq κ]

theorem keys_put (entries : Entries κ α) (key : κ) (value : α) :
    (entries.put key value).keys =
      if key ∈ entries.keys then entries.keys else entries.keys ++ [key] :=
  keys_replace key value entries.toList

theorem get?_eq_none_iff {entries : Entries κ α} {key : κ} :
    entries.get? key = none ↔ key ∉ entries.keys := by
  rw [get?, keys]
  induction entries.toList with
  | nil => exact iff_of_true rfl (List.not_mem_nil)
  | cons entry rest ih =>
      obtain ⟨other, value⟩ := entry
      rw [find?, List.map_cons, List.mem_cons]
      split
      · next same => simp [same]
      · next differ => simp [ih, Ne.symm differ]

theorem mem_keys_iff {entries : Entries κ α} {key : κ} :
    key ∈ entries.keys ↔ ∃ value, entries.get? key = some value := by
  rw [← Option.ne_none_iff_exists', ne_eq, get?_eq_none_iff, not_not]

theorem contains_eq_true_iff {entries : Entries κ α} {key : κ} :
    entries.contains key = true ↔ key ∈ entries.keys := by
  rw [contains, ← Decidable.not_not (p := key ∈ entries.keys), ← get?_eq_none_iff,
    Option.isSome_iff_ne_none]

theorem mem_of_find?_eq_some {key : κ} {value : α} {list : List (κ × α)}
    (found : find? key list = some value) : (key, value) ∈ list := by
  induction list with
  | nil => cases found
  | cons entry rest ih =>
      obtain ⟨other, first⟩ := entry
      rw [find?] at found
      split at found
      · next same =>
        cases found
        rw [same]
        exact List.mem_cons_self
      · exact List.mem_cons_of_mem _ (ih found)

theorem get?_eq_some_iff {entries : Entries κ α} {key : κ} {value : α} :
    entries.get? key = some value ↔ (key, value) ∈ entries.toList :=
  ⟨mem_of_find?_eq_some, get?_eq_some_of_mem⟩

theorem size_eq_card_keys (entries : Entries κ α) : entries.size = entries.keys.toFinset.card := by
  have nodup : entries.keys.Nodup := entries.nodup
  rw [List.toFinset_card_of_nodup nodup, keys, List.length_map, size]

/-! An entry put into its place. -/

theorem replace_eq_append {key : κ} {list : List (κ × α)} (fresh : key ∉ list.map Prod.fst)
    (value : α) : replace key value list = list ++ [(key, value)] := by
  induction list with
  | nil => rfl
  | cons entry rest ih =>
      obtain ⟨other, old⟩ := entry
      rw [List.map_cons, List.mem_cons, not_or] at fresh
      rw [replace, if_neg (Ne.symm fresh.1), ih fresh.2, List.cons_append]

theorem replace_eq_modify {key : κ} {list : List (κ × α)} {place : Nat}
    (nodup : (list.map Prod.fst).Nodup) (there : (list.map Prod.fst)[place]? = some key)
    (value : α) :
    replace key value list = list.modify place fun entry => (entry.1, value) := by
  induction list generalizing place with
  | nil => cases there
  | cons entry rest ih =>
      obtain ⟨other, old⟩ := entry
      rw [List.map_cons, List.nodup_cons] at nodup
      cases place with
      | zero =>
          cases there
          exact if_pos rfl
      | succ place =>
          have later : (rest.map Prod.fst)[place]? = some key := there
          have differ : other ≠ key := fun same => nodup.1 (same ▸ List.mem_of_getElem? later)
          rw [replace, if_neg differ, ih nodup.2 later]
          rfl

/-! Entries put one after the other. -/

/-- A table with these entries; the last of those with one key counts. -/
def ofList (list : List (κ × α)) : Entries κ α :=
  list.foldl (fun entries entry => entries.put entry.1 entry.2) empty

@[simp] theorem ofList_append_singleton (list : List (κ × α)) (last : κ × α) :
    ofList (list ++ [last]) = (ofList list).put last.1 last.2 := by
  rw [ofList, List.foldl_append]
  rfl

theorem keys_ofList (list : List (κ × α)) :
    (ofList list).keys = (list.map Prod.fst).eraseDups := by
  induction list using List.reverseRecOn with
  | nil => rfl
  | append_singleton list last ih =>
      rw [ofList_append_singleton, keys_put, ih, List.map_append, List.map_singleton,
        eraseDups_append_singleton]
      simp only [List.mem_eraseDups]

theorem get?_ofList (list : List (κ × α)) (key : κ) :
    (ofList list).get? key = (list.reverse.find? fun entry => entry.1 = key).map Prod.snd := by
  induction list using List.reverseRecOn with
  | nil => rfl
  | append_singleton list last ih =>
      rw [ofList_append_singleton, get?_put, ih, List.reverse_append, List.reverse_singleton,
        List.singleton_append, List.find?_cons]
      by_cases same : last.1 = key
      · simp [same]
      · simp [same]

theorem get?_ofList_eq_some_iff {list : List (κ × α)} {key : κ} {value : α} :
    (ofList list).get? key = some value ↔
      ∃ before after, list = before ++ (key, value) :: after ∧ ∀ entry ∈ after, entry.1 ≠ key := by
  rw [get?_ofList, Option.map_eq_some_iff]
  constructor
  · rintro ⟨⟨other, found⟩, last, rfl⟩
    obtain ⟨same, after, before, split, none⟩ := List.find?_eq_some_iff_append.mp last
    cases of_decide_eq_true same
    refine ⟨before.reverse, after.reverse, ?_, ?_⟩
    · rw [← List.reverse_reverse list, split]
      simp
    · simpa using none
  · rintro ⟨before, after, rfl, none⟩
    refine ⟨(key, value), List.find?_eq_some_iff_append.mpr ?_, rfl⟩
    refine ⟨decide_eq_true rfl, after.reverse, before.reverse, by simp, ?_⟩
    simpa using none

theorem get?_ofList_eq_some_iff_mem {list : List (κ × α)} {key : κ} {value : α}
    (distinct : (list.map Prod.fst).Nodup) :
    (ofList list).get? key = some value ↔ (key, value) ∈ list := by
  rw [get?_ofList_eq_some_iff]
  constructor
  · rintro ⟨before, after, rfl, -⟩
    exact List.mem_append_cons_self
  · intro member
    obtain ⟨before, after, rfl⟩ := List.append_of_mem member
    refine ⟨before, after, rfl, ?_⟩
    rintro ⟨other, last⟩ memberAfter rfl
    rw [List.map_append, List.map_cons] at distinct
    exact (List.nodup_cons.mp (List.nodup_append.mp distinct).2.1).1
      (List.mem_map.mpr ⟨_, memberAfter, rfl⟩)

end Entries

end Concordance
