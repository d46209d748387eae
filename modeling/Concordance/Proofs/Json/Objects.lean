import Concordance.Json.Reader
import Mathlib.Data.List.Perm.Basic
import Mathlib.Data.String.Basic

/-!
Objects.  A field is found by its name, and in what is read from text no object has two fields of one
name.
-/

namespace Concordance

namespace Json

/-! Fields by name. -/

variable {name other : String} {value changed : Json} {before after : List (String × Json)}

theorem lookup?_append_cons (name other : String) (value : Json)
    (before after : List (String × Json)) :
    lookup? name (before ++ (other, value) :: after) =
      (lookup? name before).or (if other = name then some value else lookup? name after) := by
  rw [lookup?_append, lookup?_cons]

theorem lookup?_append_cons_of_ne (differ : other ≠ name) :
    lookup? name (before ++ (other, value) :: after) = lookup? name (before ++ after) := by
  rw [lookup?_append_cons, if_neg differ, lookup?_append]

theorem lookup?_eq_none_iff {fields : List (String × Json)} :
    lookup? name fields = none ↔ ∀ field ∈ fields, field.1 ≠ name := by
  simp [lookup?]

theorem lookup?_eq_some_iff {fields : List (String × Json)}
    (distinct : (fields.map Prod.fst).Nodup) :
    lookup? name fields = some value ↔ (name, value) ∈ fields := by
  induction fields with
  | nil => simp
  | cons field rest ih =>
      obtain ⟨first, firstValue⟩ := field
      rw [List.map_cons, List.nodup_cons] at distinct
      rw [lookup?_cons, List.mem_cons, Prod.mk.injEq]
      split
      · next same =>
        subst same
        have once : (first, value) ∉ rest :=
          fun member => distinct.1 (List.mem_map.mpr ⟨_, member, rfl⟩)
        simp [once, eq_comm]
      · next differ =>
        rw [ih distinct.2]
        simp [Ne.symm differ]

theorem lookup?_perm {fields others : List (String × Json)}
    (distinct : (fields.map Prod.fst).Nodup) (same : fields.Perm others) (name : String) :
    lookup? name fields = lookup? name others := by
  ext value
  rw [lookup?_eq_some_iff distinct, lookup?_eq_some_iff ((same.map _).nodup distinct),
    same.mem_iff]

/-- What is made of a field does not change with its value if nothing else is made of the new one. -/
theorem map_lookup?_congr {α : Type} {f : Json → α} (same : f value = f changed)
    (name : String) :
    (lookup? name (before ++ (other, value) :: after)).map f =
      (lookup? name (before ++ (other, changed) :: after)).map f := by
  rw [lookup?_append_cons, lookup?_append_cons]
  cases lookup? name before with
  | some found => rfl
  | none =>
      rw [Option.none_or, Option.none_or]
      split
      · rw [Option.map_some, Option.map_some, same]
      · rfl

/-! Names that stand once. -/

/-- In no object, however deep, do two fields have one name. -/
inductive NamesOnce : Json → Prop
  | null : NamesOnce null
  | bool (value : Bool) : NamesOnce (bool value)
  | number (value : Json.Number) : NamesOnce (number value)
  | string (text : String) : NamesOnce (string text)
  | array {items : List Json} (within : ∀ item ∈ items, NamesOnce item) : NamesOnce (array items)
  | object {fields : List (String × Json)} (distinct : (fields.map Prod.fst).Nodup)
    (within : ∀ field ∈ fields, NamesOnce field.2) : NamesOnce (object fields)

theorem NamesOnce.distinct {fields : List (String × Json)} (once : (Json.object fields).NamesOnce) :
    (fields.map Prod.fst).Nodup := by
  cases once with
  | object distinct within => exact distinct

theorem NamesOnce.within {fields : List (String × Json)} (once : (Json.object fields).NamesOnce)
    (member : (name, value) ∈ fields) : value.NamesOnce := by
  cases once with
  | object distinct within => exact within _ member

theorem mem_insertField {field : String × Json} {fields : List (String × Json)}
    (member : field ∈ insertField name value fields) :
    field = (name, value) ∨ field ∈ fields := by
  induction fields with
  | nil => exact .inl (List.mem_singleton.mp member)
  | cons first rest ih =>
      obtain ⟨other, kept⟩ := first
      rw [insertField] at member
      split at member
      · exact (List.mem_cons.mp member).imp_right (List.mem_cons_of_mem _)
      · split at member
        · exact List.mem_cons.mp member
        · rcases List.mem_cons.mp member with rfl | member
          · exact .inr List.mem_cons_self
          · exact (ih member).imp_right (List.mem_cons_of_mem _)

theorem pairwise_insertField {fields : List (String × Json)}
    (sorted : fields.Pairwise fun first second => first.1 < second.1) :
    (insertField name value fields).Pairwise fun first second => first.1 < second.1 := by
  induction fields with
  | nil => exact List.pairwise_singleton _ _
  | cons first rest ih =>
      obtain ⟨other, kept⟩ := first
      rw [List.pairwise_cons] at sorted
      rw [insertField]
      split
      · next same =>
        subst same
        exact List.pairwise_cons.mpr sorted
      · next differ =>
        split
        · next before =>
          refine List.pairwise_cons.mpr ⟨?_, List.pairwise_cons.mpr sorted⟩
          rw [List.forall_mem_cons]
          exact ⟨before, fun field member => lt_trans before (sorted.1 field member)⟩
        · next after =>
          refine List.pairwise_cons.mpr ⟨?_, ih sorted.2⟩
          intro field member
          rcases mem_insertField member with rfl | member
          · exact lt_of_le_of_ne (not_lt.mp after) (Ne.symm differ)
          · exact sorted.1 field member

theorem namesOnce_ofFields {fields : List (String × Json)}
    (within : ∀ field ∈ fields, field.2.NamesOnce) : (ofFields fields).NamesOnce := by
  -- The fields inserted so far are in the order of their names.
  suffices inserted : ∀ sorted : List (String × Json),
      (sorted.Pairwise fun first second => first.1 < second.1) →
      (∀ field ∈ sorted, field.2.NamesOnce) →
      (object (fields.foldl (fun sorted field => insertField field.1 field.2 sorted)
        sorted)).NamesOnce from inserted [] .nil nofun
  induction fields with
  | nil =>
      intro sorted ascending sortedWithin
      refine .object ?_ sortedWithin
      exact (List.pairwise_map.mpr ascending).imp ne_of_lt
  | cons field rest ih =>
      intro sorted ascending sortedWithin
      rw [List.forall_mem_cons] at within
      refine ih within.2 _ (pairwise_insertField ascending) ?_
      intro other member
      rcases mem_insertField member with rfl | member
      · exact within.1
      · exact sortedWithin other member

/-! What is read. -/

/-- Whatever this much fuel reads, no object in it has two fields of one name. -/
structure ReadsOnce (fuel : Nat) : Prop where
  value : ∀ {depth chars json rest}, value? fuel depth chars = some (json, rest) → json.NamesOnce
  items : ∀ {depth chars items rest}, items? fuel depth chars = some (items, rest) →
    ∀ item ∈ items, item.NamesOnce
  fields : ∀ {depth chars fields rest}, fields? fuel depth chars = some (fields, rest) →
    ∀ field ∈ fields, field.2.NamesOnce

theorem ReadsOnce.value_succ {fuel depth : Nat} {chars rest : List Char} {json : Json}
    (once : ReadsOnce fuel) (reads : value? (fuel + 1) depth chars = some (json, rest)) :
    json.NamesOnce := by
  rw [value?] at reads
  split at reads
  case h_1 =>
    obtain ⟨⟨text, _⟩, -, same⟩ := Option.map_eq_some_iff.mp reads
    cases same
    exact .string text
  case h_2 =>
    split at reads
    · cases reads
    · split at reads
      · cases reads
        exact .array nofun
      · obtain ⟨⟨items, _⟩, itemsRead, same⟩ := Option.map_eq_some_iff.mp reads
        cases same
        exact .array (once.items itemsRead)
  case h_3 =>
    split at reads
    · cases reads
    · split at reads
      · cases reads
        exact .object .nil nofun
      · obtain ⟨⟨fields, _⟩, fieldsRead, same⟩ := Option.map_eq_some_iff.mp reads
        cases same
        exact namesOnce_ofFields (once.fields fieldsRead)
  case h_4 =>
    obtain ⟨_, -, same⟩ := Option.map_eq_some_iff.mp reads
    cases same
    exact .null
  case h_5 =>
    obtain ⟨_, -, same⟩ := Option.map_eq_some_iff.mp reads
    cases same
    exact .bool true
  case h_6 =>
    obtain ⟨_, -, same⟩ := Option.map_eq_some_iff.mp reads
    cases same
    exact .bool false
  case h_7 =>
    simp only [Option.bind_eq_bind, Option.bind_eq_some_iff] at reads
    obtain ⟨_, -, value, -, same⟩ := reads
    cases same
    exact .number value

theorem ReadsOnce.items_succ {fuel depth : Nat} {chars rest : List Char} {items : List Json}
    (once : ReadsOnce fuel) (reads : items? (fuel + 1) depth chars = some (items, rest)) :
    ∀ item ∈ items, item.NamesOnce := by
  rw [items?, Option.bind_eq_bind, Option.bind_eq_some_iff] at reads
  obtain ⟨⟨first, afterFirst⟩, firstReads, reads⟩ := reads
  have firstOnce := once.value firstReads
  dsimp only at reads
  split at reads
  · rw [Option.map_eq_some_iff] at reads
    obtain ⟨⟨more, afterMore⟩, moreReads, same⟩ := reads
    cases same
    exact List.forall_mem_cons.mpr ⟨firstOnce, once.items moreReads⟩
  · cases reads
    exact List.forall_mem_singleton.mpr firstOnce
  · cases reads

theorem ReadsOnce.fields_succ {fuel depth : Nat} {chars rest : List Char}
    {fields : List (String × Json)} (once : ReadsOnce fuel)
    (reads : fields? (fuel + 1) depth chars = some (fields, rest)) :
    ∀ field ∈ fields, field.2.NamesOnce := by
  rw [fields?] at reads
  simp only [Option.bind_eq_bind, Option.bind_eq_some_iff] at reads
  obtain ⟨afterQuote, -, ⟨name, afterName⟩, -, afterColon, -, ⟨first, afterFirst⟩, firstReads,
    reads⟩ := reads
  have firstOnce := once.value firstReads
  split at reads
  · rw [Option.map_eq_some_iff] at reads
    obtain ⟨⟨more, afterMore⟩, moreReads, same⟩ := reads
    cases same
    exact List.forall_mem_cons.mpr ⟨firstOnce, once.fields moreReads⟩
  · cases reads
    exact List.forall_mem_singleton.mpr firstOnce
  · cases reads

theorem readsOnce (fuel : Nat) : ReadsOnce fuel := by
  induction fuel with
  | zero => exact ⟨fun reads => by simp [value?] at reads, fun reads => by simp [items?] at reads,
      fun reads => by simp [fields?] at reads⟩
  | succ fuel ih => exact ⟨ih.value_succ, ih.items_succ, ih.fields_succ⟩

theorem namesOnce_of_parse? {text : String} {json : Json} (reads : parse? text = some json) :
    json.NamesOnce := by
  rw [parse?] at reads
  simp only [Option.bind_eq_bind, Option.bind_eq_some_iff] at reads
  obtain ⟨⟨found, rest⟩, valueReads, reads⟩ := reads
  split at reads
  · cases reads
    exact (readsOnce _).value valueReads
  · cases reads

end Json

end Concordance
