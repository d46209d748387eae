import Concordance.Grammar.Reader
import Concordance.Proofs.Json.Objects
import Mathlib.Logic.Relation

/-!
What reading looks at.  The grammar read from an object depends only on what stands under the names
that reading knows, where a null counts for nothing under a name that may be missing.  A change that
reading does not see in the fields of one object, it does not see in any node of a tree.
-/

namespace Concordance

open Json

namespace Grammar

variable {fields others before after : Fields} {names : List String} {name other : String}
  {value : Json} {path : List Nat}

@[simp] theorem field?_nil (fields : Fields) : field? fields [] = none := rfl

theorem field?_cons (fields : Fields) (name : String) (names : List String) :
    field? fields (name :: names) = (lookup? name fields).or (field? fields names) := by
  rw [field?, List.findSome?_cons]
  cases lookup? name fields with
  | none => rfl
  | some found => rfl

theorem field?_singleton (fields : Fields) (name : String) :
    field? fields [name] = lookup? name fields := by
  rw [field?_cons, field?_nil, Option.or_none]

theorem field?_congr (same : ∀ name ∈ names, lookup? name fields = lookup? name others) :
    field? fields names = field? others names := by
  induction names with
  | nil => rfl
  | cons name names ih =>
      rw [List.forall_mem_cons] at same
      rw [field?_cons, field?_cons, same.1, ih same.2]

theorem field?_append_cons_of_notMem (unnamed : other ∉ names) :
    field? (before ++ (other, value) :: after) names = field? (before ++ after) names := by
  apply field?_congr
  intro name member
  exact lookup?_append_cons_of_ne fun same => unnamed (same ▸ member)

/-- A field that has no other field of its names beside it is the one that counts. -/
theorem field?_append_cons_of_alone (named : other ∈ names)
    (alone : ∀ field ∈ before ++ after, field.1 ∉ names) :
    field? (before ++ (other, value) :: after) names = some value := by
  induction names with
  | nil => cases named
  | cons name names ih =>
      have others : lookup? name (before ++ after) = none :=
        lookup?_eq_none_iff.mpr fun field member same =>
          alone field member (same ▸ List.mem_cons_self)
      rw [field?_cons]
      by_cases same : other = name
      · rw [lookup?_append, Option.or_eq_none_iff] at others
        rw [lookup?_append_cons, others.1, if_pos same]
        rfl
      · rw [lookup?_append_cons_of_ne same, others, Option.none_or]
        refine ih ((List.mem_cons.mp named).resolve_left same) ?_
        intro field member inside
        exact alone field member (List.mem_cons_of_mem _ inside)

theorem map_field?_congr {α : Type} {f : Json → α} {changed : Json} (same : f value = f changed)
    (names : List String) :
    (field? (before ++ (other, value) :: after) names).map f =
      (field? (before ++ (other, changed) :: after) names).map f := by
  induction names with
  | nil => rfl
  | cons name names ih =>
      rw [field?_cons, field?_cons, Option.map_or, Option.map_or, ih, map_lookup?_congr same]

/-! Fields that may be missing. -/

/-- The names of the fields that may be missing, or be null; those in one list are of one field. -/
def optionalNames : List (List String) :=
  [operationNames, patternNames, ["name"], ["slop"], ["case_sensitive"], ["whole_word"],
    ["match_first"]]

/-- The names of all fields. -/
def fieldNames : List (List String) :=
  ["layer"] :: ["terms"] :: childrenNames :: optionalNames

theorem eq_of_mem_names : ∀ names ∈ fieldNames, ∀ others ∈ fieldNames,
    ∀ name ∈ names, name ∈ others → names = others := by
  decide

/-- A value that is not null. -/
def given? : Json → Option Json
  | .null => none
  | value => some value

/-- The value of a field that may be missing. -/
def optional? (fields : Fields) (names : List String) : Option Json :=
  (field? fields names).bind given?

def textOf (path : List Nat) (names : List String) : Option Json → Except Error (Option String)
  | none => .ok none
  | some (.string text) => .ok (some text)
  | some _ => malformed path (.notAString (names.headD ""))

def flagOf (path : List Nat) (name : String) : Option Json → Except Error Bool
  | none => .ok false
  | some (.bool value) => .ok value
  | some _ => malformed path (.notABoolean name)

def slopOf (path : List Nat) : Option Json → Except Error (Option Nat)
  | none => .ok none
  | some (.number (.natural value)) => .ok (some value)
  | some _ => malformed path .slopNotNatural

theorem textField_eq (path : List Nat) (fields : Fields) (names : List String) :
    textField path fields names = textOf path names (optional? fields names) := by
  rw [textField, optional?]
  cases field? fields names with
  | none => rfl
  | some value => cases value <;> rfl

theorem flagField_eq (path : List Nat) (fields : Fields) (name : String) :
    flagField path fields name = flagOf path name (optional? fields [name]) := by
  rw [flagField, optional?, field?_singleton]
  cases lookup? name fields with
  | none => rfl
  | some value => cases value <;> rfl

theorem slopField_eq (path : List Nat) (fields : Fields) :
    slopField path fields = slopOf path (optional? fields ["slop"]) := by
  rw [slopField, optional?, field?_singleton]
  cases lookup? "slop" fields with
  | none => rfl
  | some value =>
      cases value with
      | number value => cases value <;> rfl
      | _ => rfl

/-! Nodes. -/

/-- What a value gives as the children of a node. -/
def readChildren (path : List Nat) : Json → ChildrenResult
  | .array items => readAll path 0 items
  | _ => malformed path .childrenNotArray

theorem lookup_childrenResults (path : List Nat) (name : String) (fields : Fields) :
    List.lookup name (childrenResults path fields) =
      (lookup? name fields).map (readChildren path) := by
  induction fields with
  | nil => rfl
  | cons field rest ih =>
      obtain ⟨first, value⟩ := field
      -- Every field is read as if it held children, whatever its name.
      have read : childrenResults path ((first, value) :: rest) =
          (first, readChildren path value) :: childrenResults path rest := by
        cases value <;> rfl
      rw [read, List.lookup_cons, lookup?_cons, ih]
      by_cases same : first = name
      · simp [same]
      · rw [if_neg same, beq_eq_false_iff_ne.mpr (Ne.symm same)]

theorem findSome?_childrenResults (path : List Nat) (fields : Fields) (names : List String) :
    names.findSome? (List.lookup · (childrenResults path fields)) =
      (field? fields names).map (readChildren path) := by
  induction names with
  | nil => rfl
  | cons name names ih =>
      rw [field?_cons, Option.map_or, List.findSome?_cons, ih, lookup_childrenResults]
      cases lookup? name fields with
      | none => rfl
      | some value => rfl

/-- Two objects in which reading finds the same, children apart. -/
structure SameFields (fields others : Fields) : Prop where
  layer : lookup? "layer" fields = lookup? "layer" others
  terms : lookup? "terms" fields = lookup? "terms" others
  optional : ∀ names ∈ optionalNames, optional? fields names = optional? others names

namespace SameFields

theorem of_field? (same : ∀ names ∈ fieldNames, names ≠ childrenNames →
    field? fields names = field? others names) : SameFields fields others where
  layer := by
    have found := same ["layer"] (by decide) (by decide)
    rwa [field?_singleton, field?_singleton] at found
  terms := by
    have found := same ["terms"] (by decide) (by decide)
    rwa [field?_singleton, field?_singleton] at found
  optional := by
    have apart : ∀ names ∈ optionalNames, names ∈ fieldNames ∧ names ≠ childrenNames := by decide
    intro names known
    rw [optional?, optional?, same names (apart names known).1 (apart names known).2]

variable (same : SameFields fields others)

include same

theorem text (path : List Nat) (names : List String) (known : names ∈ optionalNames) :
    textField path fields names = textField path others names := by
  rw [textField_eq, textField_eq, same.optional names known]

theorem flag (path : List Nat) (name : String) (known : [name] ∈ optionalNames) :
    flagField path fields name = flagField path others name := by
  rw [flagField_eq, flagField_eq, same.optional [name] known]

theorem readTerminal_eq (path : List Nat) : readTerminal path fields = readTerminal path others := by
  have layer : textField path fields ["layer"] = textField path others ["layer"] := by
    rw [textField_eq, textField_eq, optional?, optional?, field?_singleton, field?_singleton,
      same.layer]
  have operation := same.text path operationNames (by decide)
  have pattern := same.text path patternNames (by decide)
  have name := same.text path ["name"] (by decide)
  have caseSensitive := same.flag path "case_sensitive" (by decide)
  have wholeWord := same.flag path "whole_word" (by decide)
  rw [readTerminal, readTerminal, layer, same.terms, pattern, operation, name, caseSensitive,
    wholeWord]

theorem readComposite_eq
    (children : (field? fields childrenNames).map (readChildren path) =
      (field? others childrenNames).map (readChildren path)) :
    readComposite path fields (childrenResults path fields) =
      readComposite path others (childrenResults path others) := by
  have operation := same.text path operationNames (by decide)
  have name := same.text path ["name"] (by decide)
  have slop : slopField path fields = slopField path others := by
    rw [slopField_eq, slopField_eq, same.optional ["slop"] (by decide)]
  have matchFirst := same.flag path "match_first" (by decide)
  rw [readComposite, readComposite, findSome?_childrenResults, findSome?_childrenResults, children,
    operation, slop, name, matchFirst]

theorem readAt_eq
    (children : (field? fields childrenNames).map (readChildren path) =
      (field? others childrenNames).map (readChildren path)) :
    readAt path (.object fields) = readAt path (.object others) := by
  rw [readAt, readAt, same.layer, same.readTerminal_eq, same.readComposite_eq children]

end SameFields

/-! Changes to nodes of a tree. -/

/-- A change to the fields of one node, which is the root or one of the children of a node. -/
inductive AtNode (change : Fields → Fields → Prop) : Json → Json → Prop
  | here {fields others : Fields} (changed : change fields others) :
      AtNode change (.object fields) (.object others)
  | child {before after : Fields} {name : String} {earlier later : List Json} {json other : Json}
      (holds : name ∈ childrenNames) (below : AtNode change json other) :
      AtNode change
        (.object (before ++ (name, .array (earlier ++ json :: later)) :: after))
        (.object (before ++ (name, .array (earlier ++ other :: later)) :: after))

/-- Changes below a node are changes to the whole. -/
theorem eqvGen_child {change : Fields → Fields → Prop} {json other : Json}
    (holds : name ∈ childrenNames) (changed : Relation.EqvGen (AtNode change) json other)
    (before after : Fields) (earlier later : List Json) :
    Relation.EqvGen (AtNode change)
      (.object (before ++ (name, .array (earlier ++ json :: later)) :: after))
      (.object (before ++ (name, .array (earlier ++ other :: later)) :: after)) := by
  induction changed with
  | rel json other changed => exact .rel _ _ (.child holds changed)
  | refl json => exact .refl _
  | symm json other _ ih => exact .symm _ _ ih
  | trans json middle other _ _ first second => exact .trans _ _ _ first second

theorem readAll_congr {json other : Json} (same : ∀ path, readAt path json = readAt path other)
    (path : List Nat) (earlier later : List Json) (index : Nat) :
    readAll path index (earlier ++ json :: later) =
      readAll path index (earlier ++ other :: later) := by
  induction earlier generalizing index with
  | nil => rw [List.nil_append, List.nil_append, readAll, readAll, same]
  | cons item earlier ih => rw [List.cons_append, List.cons_append, readAll, readAll, ih]

theorem readAt_congr_children {changed : Json} (holds : name ∈ childrenNames)
    (same : readChildren path value = readChildren path changed) :
    readAt path (.object (before ++ (name, value) :: after)) =
      readAt path (.object (before ++ (name, changed) :: after)) := by
  have fields : SameFields (before ++ (name, value) :: after)
      (before ++ (name, changed) :: after) := by
    apply SameFields.of_field?
    intro names known apart
    have unnamed : name ∉ names := fun member =>
      apart (eq_of_mem_names names known childrenNames (by decide) name member holds)
    rw [field?_append_cons_of_notMem unnamed, field?_append_cons_of_notMem unnamed]
  exact fields.readAt_eq (map_field?_congr same childrenNames)

variable {change : Fields → Fields → Prop} {json result : Json}

/-- A change that does not show where it is made does not show in the tree. -/
theorem AtNode.readAt_eq
    (unseen : ∀ {fields others}, change fields others → ∀ path,
      readAt path (.object fields) = readAt path (.object others))
    (changed : AtNode change json result) : ∀ path, readAt path json = readAt path result := by
  induction changed with
  | here changed => exact unseen changed
  | child holds below ih =>
      intro path
      exact readAt_congr_children holds (readAll_congr ih path _ _ 0)

theorem ofJson_eq_of_changes
    (unseen : ∀ {fields others}, change fields others → ∀ path,
      readAt path (.object fields) = readAt path (.object others))
    (changed : Relation.EqvGen (AtNode change) json result) : ofJson json = ofJson result := by
  have read : readAt [] json = readAt [] result := by
    induction changed with
    | rel json result changed => exact changed.readAt_eq unseen []
    | refl json => rfl
    | symm json result _ ih => exact ih.symm
    | trans json middle result _ _ first second => exact first.trans second
  rw [ofJson, ofJson, read]

end Grammar

end Concordance
