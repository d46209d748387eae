/-!
Tables with one entry for every key, in the order in which keys first came.  An entry put under a
known key takes the place of the old one.
-/

namespace Concordance

structure Entries (κ α : Type) where
  toList : List (κ × α)
  nodup : (toList.map Prod.fst).Nodup
deriving Repr

namespace Entries

variable {κ α : Type}

def empty : Entries κ α := ⟨[], .nil⟩

instance : Inhabited (Entries κ α) := ⟨empty⟩

def mapValues {β : Type} (f : κ → α → β) (entries : Entries κ α) : Entries κ β where
  toList := entries.toList.map fun entry => (entry.1, f entry.1 entry.2)
  nodup := by simpa [Function.comp_def] using entries.nodup

def keys (entries : Entries κ α) : List κ :=
  entries.toList.map Prod.fst

def size (entries : Entries κ α) : Nat :=
  entries.toList.length

def isEmpty (entries : Entries κ α) : Bool :=
  entries.toList.isEmpty

theorem ext {left right : Entries κ α} (same : left.toList = right.toList) : left = right := by
  cases left
  cases right
  cases same
  rfl

@[simp] theorem keys_mapValues {β : Type} (f : κ → α → β) (entries : Entries κ α) :
    (entries.mapValues f).keys = entries.keys := by
  simp [keys, mapValues]

@[simp] theorem mapValues_mapValues {β γ : Type} (f : κ → α → β) (g : κ → β → γ)
    (entries : Entries κ α) :
    (entries.mapValues f).mapValues g = entries.mapValues fun key value => g key (f key value) := by
  simp [mapValues]

variable [DecidableEq κ]

/-- The value of the first entry with this key. -/
def find? (key : κ) : List (κ × α) → Option α
  | [] => none
  | (other, value) :: rest => if other = key then some value else find? key rest

def get? (entries : Entries κ α) (key : κ) : Option α :=
  find? key entries.toList

def contains (entries : Entries κ α) (key : κ) : Bool :=
  (entries.get? key).isSome

/-- The entries with the one of this key replaced, or with a new one at the end. -/
def replace (key : κ) (value : α) : List (κ × α) → List (κ × α)
  | [] => [(key, value)]
  | (other, old) :: rest =>
    if other = key then (key, value) :: rest else (other, old) :: replace key value rest

/-- A key that is there keeps its place, and a new one comes last. -/
theorem keys_replace (key : κ) (value : α) (list : List (κ × α)) :
    (replace key value list).map Prod.fst =
      if key ∈ list.map Prod.fst then list.map Prod.fst else list.map Prod.fst ++ [key] := by
  induction list with
  | nil => rfl
  | cons entry rest ih =>
    obtain ⟨other, old⟩ := entry
    by_cases same : other = key
    · simp [replace, same]
    · have differ : ¬ key = other := fun h => same h.symm
      by_cases member : key ∈ rest.map Prod.fst <;>
        simp only [List.map_cons, List.mem_cons, replace, same, differ, ih, member, if_true,
          if_false, false_or, List.cons_append]

def put (entries : Entries κ α) (key : κ) (value : α) : Entries κ α where
  toList := replace key value entries.toList
  nodup := by
    rw [keys_replace]
    split
    · exact entries.nodup
    · next fresh =>
      rw [List.nodup_append]
      refine ⟨entries.nodup, by simp, ?_⟩
      intro other member last lastMember same
      rw [List.mem_singleton.mp lastMember] at same
      exact fresh (same ▸ member)

def erase (entries : Entries κ α) (key : κ) : Entries κ α where
  toList := entries.toList.filter fun entry => entry.1 ≠ key
  nodup := entries.nodup.sublist (List.filter_sublist.map Prod.fst)

theorem find?_replace (key other : κ) (value : α) (list : List (κ × α)) :
    find? other (replace key value list) =
      if key = other then some value else find? other list := by
  induction list with
  | nil => simp [replace, find?]
  | cons entry rest ih =>
    obtain ⟨k, old⟩ := entry
    by_cases hk : k = key
    · subst hk
      by_cases ho : k = other <;> simp [replace, find?, ho]
    · by_cases ho : k = other
      · subst ho
        have hne : ¬ key = k := fun h => hk h.symm
        simp [replace, find?, hk, hne]
      · simp [replace, find?, hk, ho, ih]

@[simp] theorem get?_put (entries : Entries κ α) (key other : κ) (value : α) :
    (entries.put key value).get? other = if key = other then some value else entries.get? other :=
  find?_replace key other value entries.toList

theorem find?_filter_ne (key other : κ) (list : List (κ × α)) :
    find? other (list.filter fun entry => entry.1 ≠ key) =
      if key = other then none else find? other list := by
  induction list with
  | nil => simp [find?]
  | cons entry rest ih =>
    obtain ⟨k, old⟩ := entry
    by_cases hk : k = key
    · subst hk
      by_cases ho : k = other
      · simpa [ho, find?] using ih
      · simpa [ho, find?] using ih
    · by_cases ho : k = other
      · subst ho
        have hne : ¬ key = k := fun h => hk h.symm
        simp [find?, hk, hne]
      · simpa [find?, hk, ho] using ih

@[simp] theorem get?_erase (entries : Entries κ α) (key other : κ) :
    (entries.erase key).get? other = if key = other then none else entries.get? other :=
  find?_filter_ne key other entries.toList

theorem find?_eq_some_of_mem {key : κ} {value : α} {list : List (κ × α)}
    (nodup : (list.map Prod.fst).Nodup) (member : (key, value) ∈ list) :
    find? key list = some value := by
  induction list with
  | nil => cases member
  | cons entry rest ih =>
      obtain ⟨other, first⟩ := entry
      rw [List.map_cons, List.nodup_cons] at nodup
      rcases List.mem_cons.mp member with same | member
      · cases same
        exact if_pos rfl
      · have differ : other ≠ key := fun same =>
          nodup.1 (same ▸ List.mem_map.mpr ⟨_, member, rfl⟩)
        rw [find?, if_neg differ]
        exact ih nodup.2 member

theorem get?_eq_some_of_mem {entries : Entries κ α} {key : κ} {value : α}
    (member : (key, value) ∈ entries.toList) : entries.get? key = some value :=
  find?_eq_some_of_mem entries.nodup member

/-! Values mapped. -/

variable {β : Type}

theorem find?_map (f : κ → α → β) (key : κ) (list : List (κ × α)) :
    find? key (list.map fun entry => (entry.1, f entry.1 entry.2)) =
      (find? key list).map (f key) := by
  induction list with
  | nil => rfl
  | cons entry rest ih =>
      rw [List.map_cons, find?, find?, ih]
      split
      · next same => rw [same, Option.map_some]
      · rfl

@[simp] theorem get?_mapValues (f : κ → α → β) (entries : Entries κ α) (key : κ) :
    (entries.mapValues f).get? key = (entries.get? key).map (f key) :=
  find?_map f key entries.toList

theorem map_replace (f : κ → α → β) (key : κ) (value : α) (list : List (κ × α)) :
    (replace key value list).map (fun entry => (entry.1, f entry.1 entry.2)) =
      replace key (f key value) (list.map fun entry => (entry.1, f entry.1 entry.2)) := by
  induction list with
  | nil => rfl
  | cons entry rest ih =>
      rw [List.map_cons, replace, replace]
      split
      · rfl
      · rw [List.map_cons, ih]

theorem mapValues_put (f : κ → α → β) (entries : Entries κ α) (key : κ) (value : α) :
    (entries.put key value).mapValues f = (entries.mapValues f).put key (f key value) :=
  ext (map_replace f key value entries.toList)

end Entries

end Concordance
