import Concordance.Proofs.Grammar.Fields

/-!
Nulls in a grammar.  A null that may be left out is read as if it were, but for one thing: under the
first of two names it still hides what stands under the second.
-/

namespace Concordance.Grammar

/-! Fields by the order of their names. -/

section

variable {fields before after : Fields} {names earlier later : List String} {name other : String}
  {value : Json}

theorem field?_append_names (fields : Fields) (earlier : List String) (name : String)
    (later : List String) :
    field? fields (earlier ++ name :: later) =
      (field? fields earlier).or ((Json.lookup? name fields).or (field? fields later)) := by
  rw [← field?_cons, field?, List.findSome?_append]
  rfl

theorem exists_mem_of_field? (found : field? fields names = some value) :
    ∃ name ∈ names, (name, value) ∈ fields := by
  obtain ⟨name, named, looked⟩ := List.exists_of_findSome?_eq_some found
  obtain ⟨field, first, rfl⟩ := Option.map_eq_some_iff.mp looked
  have same : field.1 = name := by simpa using List.find?_some first
  exact ⟨name, named, same ▸ List.mem_of_find?_eq_some first⟩

theorem nodup_of_mem_fieldNames : ∀ names ∈ fieldNames, names.Nodup := by
  decide

theorem optional_subset_fieldNames : optionalNames ⊆ fieldNames := by
  decide

/-- A null with no more than nulls under the names after its own is as good as no field. -/
theorem optional?_of_null (distinct : (earlier ++ name :: later).Nodup)
    (single : ∀ field ∈ before ++ after, field.1 ≠ name)
    (bare : ∀ field ∈ before ++ after, field.1 ∈ later → field.2 = .null) :
    optional? (before ++ (name, .null) :: after) (earlier ++ name :: later) =
      optional? (before ++ after) (earlier ++ name :: later) := by
  have apart : name ∉ earlier := fun member =>
    (List.nodup_append.mp distinct).2.2 name member name List.mem_cons_self rfl
  have absent : Json.lookup? name (before ++ after) = none :=
    Json.lookup?_eq_none_iff.mpr single
  have null : Json.lookup? name (before ++ (name, .null) :: after) = some .null := by
    rw [Json.lookup?_append, Option.or_eq_none_iff] at absent
    rw [Json.lookup?_append_cons, absent.1, if_pos rfl, Option.none_or]
  rw [optional?, optional?, field?_append_names, field?_append_names, null, absent,
    field?_append_cons_of_notMem apart]
  cases field? (before ++ after) earlier with
  | some value => rfl
  | none =>
      rw [Option.none_or, Option.none_or, Option.some_or, Option.none_or]
      -- With the null the first name decides; without it, what is under the later names does.
      cases found : field? (before ++ after) later with
      | none => rfl
      | some value =>
          obtain ⟨other, listed, member⟩ := exists_mem_of_field? found
          obtain rfl : value = .null := bare _ member listed
          rfl

/-- A field is hidden by one with a name before its own. -/
theorem field?_of_hidden (distinct : (earlier ++ name :: later).Nodup)
    (covered : other ∈ later) (present : ∃ field ∈ before ++ after, field.1 = name) :
    field? (before ++ (other, value) :: after) (earlier ++ name :: later) =
      field? (before ++ after) (earlier ++ name :: later) := by
  rw [List.nodup_append, List.nodup_cons] at distinct
  have apart : other ∉ earlier := fun member =>
    distinct.2.2 other member other (List.mem_cons_of_mem _ covered) rfl
  have differ : other ≠ name := fun same => distinct.2.1.1 (same ▸ covered)
  have some : Json.lookup? name (before ++ after) ≠ none := by
    rw [ne_eq, Json.lookup?_eq_none_iff]
    intro absent
    obtain ⟨field, member, same⟩ := present
    exact absent field member same
  obtain ⟨kept, found⟩ := Option.ne_none_iff_exists'.mp some
  rw [field?_append_names, field?_append_names, Json.lookup?_append_cons_of_ne differ, found,
    field?_append_cons_of_notMem apart, Option.some_or, Option.some_or]

end

/-- A field that says nothing is taken out of an object: a null that may be left out, if no more than
nulls stand under the names that come after its own, or a field under a name that comes after the
name of another one. -/
inductive Idle : Fields → Fields → Prop
  | null {before after : Fields} {earlier later : List String} {name : String}
      (known : earlier ++ name :: later ∈ optionalNames)
      (single : ∀ field ∈ before ++ after, field.1 ≠ name)
      (bare : ∀ field ∈ before ++ after, field.1 ∈ later → field.2 = .null) :
      Idle (before ++ (name, .null) :: after) (before ++ after)
  | hidden {before after : Fields} {earlier later : List String} {name other : String}
      {value : Json} (known : earlier ++ name :: later ∈ fieldNames) (covered : other ∈ later)
      (present : ∃ field ∈ before ++ after, field.1 = name) :
      Idle (before ++ (other, value) :: after) (before ++ after)

variable {fields others : Fields}

theorem Idle.readAt_eq (idle : Idle fields others) (path : List Nat) :
    readAt path (.object fields) = readAt path (.object others) := by
  cases idle with
  | @null before after earlier later name known single bare =>
      have inside : earlier ++ name :: later ∈ fieldNames := optional_subset_fieldNames known
      -- No name is in two of the lists, so only the list of the null can find something else.
      have untouched : ∀ names ∈ fieldNames, names ≠ earlier ++ name :: later →
          field? (before ++ (name, .null) :: after) names = field? (before ++ after) names := by
        intro names looked different
        apply field?_append_cons_of_notMem
        intro member
        exact different (eq_of_mem_names names looked _ inside name member (by simp))
      have required : ∀ names ∈ fieldNames, names ∉ optionalNames →
          field? (before ++ (name, .null) :: after) names = field? (before ++ after) names :=
        fun names looked missing => untouched names looked fun same => missing (same ▸ known)
      have layer := required ["layer"] (by decide) (by decide)
      have terms := required ["terms"] (by decide) (by decide)
      rw [field?_singleton, field?_singleton] at layer terms
      have same : SameFields (before ++ (name, .null) :: after) (before ++ after) := by
        refine ⟨layer, terms, ?_⟩
        intro names optional
        by_cases same : names = earlier ++ name :: later
        · rw [same]
          exact optional?_of_null (nodup_of_mem_fieldNames _ inside) single bare
        · rw [optional?, optional?, untouched names (optional_subset_fieldNames optional) same]
      apply same.readAt_eq
      rw [required childrenNames (by decide) (by decide)]
  | @hidden before after earlier later name other value known covered present =>
      have untouched : ∀ names ∈ fieldNames,
          field? (before ++ (other, value) :: after) names = field? (before ++ after) names := by
        intro names looked
        by_cases same : names = earlier ++ name :: later
        · rw [same]
          exact field?_of_hidden (nodup_of_mem_fieldNames _ known) covered present
        · apply field?_append_cons_of_notMem
          intro member
          exact same (eq_of_mem_names names looked _ known other member (by simp [covered]))
      have same : SameFields (before ++ (other, value) :: after) (before ++ after) :=
        .of_field? fun names looked _ => untouched names looked
      apply same.readAt_eq
      rw [untouched childrenNames (by decide)]

/-- Fields that say nothing may be left out of the nodes of a grammar, as many as one likes: the
same grammar is read, or the same error is given. -/
theorem ofJson_eq_of_idle {json other : Json}
    (idle : Relation.EqvGen (AtNode Idle) json other) : ofJson json = ofJson other :=
  ofJson_eq_of_changes (fun changed path => changed.readAt_eq path) idle

/-! A union whose operation a null hides, over a terminal with a null for its name. -/

namespace Idle

def nameless : Json :=
  .object [("layer", .string "text"), ("terms", .strings ["red"])]

def nullNamed : Json :=
  .object [("layer", .string "text"), ("name", .null), ("terms", .strings ["red"])]

def unionUnderNull : Json :=
  .object [("children", .array [nullNamed]), ("op", .null), ("operation", .string "union")]

theorem idle_nullNamed : Relation.EqvGen (AtNode Idle) nullNamed nameless := by
  have dropped : Idle
      [("layer", .string "text"), ("name", .null), ("terms", .strings ["red"])]
      [("layer", .string "text"), ("terms", .strings ["red"])] :=
    @Idle.null [("layer", .string "text")] [("terms", .strings ["red"])] [] [] "name"
      (by decide) (by simp) (by simp)
  exact .rel _ _ (.here dropped)

theorem idle_unionUnderNull : Relation.EqvGen (AtNode Idle) unionUnderNull
    (.object [("children", .array [nameless])]) := by
  have below := @eqvGen_child "children" Idle _ _ (by decide) idle_nullNamed []
    [("op", .null), ("operation", .string "union")] [] []
  have uncovered : Idle
      [("children", .array [nameless]), ("op", .null), ("operation", .string "union")]
      [("children", .array [nameless]), ("op", .null)] :=
    @Idle.hidden [("children", .array [nameless]), ("op", .null)] [] [] ["operation"] "op"
      "operation" (.string "union") (by decide) (by decide) (by simp)
  have dropped : Idle [("children", .array [nameless]), ("op", .null)]
      [("children", .array [nameless])] :=
    @Idle.null [("children", .array [nameless])] [] [] ["operation"] "op" (by decide) (by simp)
      (by simp)
  refine .trans _ _ _ below ?_
  exact .trans _ _ _ (.rel _ _ (.here uncovered)) (.rel _ _ (.here dropped))

end Idle

theorem ofJson_eq_of_idle_unionUnderNull :
    Relation.EqvGen (AtNode Idle) Idle.unionUnderNull
        (.object [("children", .array [Idle.nameless])]) ∧
      ofJson Idle.unionUnderNull = ofJson (.object [("children", .array [Idle.nameless])]) :=
  ⟨Idle.idle_unionUnderNull, ofJson_eq_of_idle Idle.idle_unionUnderNull⟩

/-! The null is not as good as no field: without it, there is an operation. -/

/-- A null that may be missing is taken out of an object. -/
inductive WithoutNull : Fields → Fields → Prop
  | intro {before after : Fields} {names : List String} {name : String}
      (known : names ∈ optionalNames) (named : name ∈ names)
      (single : ∀ field ∈ before ++ after, field.1 ≠ name) :
      WithoutNull (before ++ (name, .null) :: after) (before ++ after)

theorem null_hides_operation :
    AtNode WithoutNull Idle.unionUnderNull
        (.object [("children", .array [Idle.nullNamed]), ("operation", .string "union")]) ∧
      ofJson Idle.unionUnderNull = .error (.malformed .root .missingOperation) ∧
      ofJson (.object [("children", .array [Idle.nullNamed]), ("operation", .string "union")]) =
        .ok (combine .union [exact "" "text" ["red"]]) := by
  have dropped : WithoutNull
      [("children", .array [Idle.nullNamed]), ("op", .null), ("operation", .string "union")]
      [("children", .array [Idle.nullNamed]), ("operation", .string "union")] :=
    @WithoutNull.intro [("children", .array [Idle.nullNamed])] [("operation", .string "union")]
      operationNames "op" (by decide) (by decide) (by simp)
  exact ⟨.here dropped, rfl, rfl⟩

end Concordance.Grammar
