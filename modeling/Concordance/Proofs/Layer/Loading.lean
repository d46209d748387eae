import Concordance.Layer.Load
import Concordance.Proofs.Entries
import Concordance.Proofs.Json.Objects
import Concordance.Proofs.Layer.Texts

/-!
Documents from objects.  A path leads in the document to the text that it leads to in the object, and
nowhere else: what is not a text takes no place, and a dot in the name of a field or of a layer
within one covers no other layer.
-/

namespace Concordance

/-! Paths. -/

namespace LayerKey

theorem splitAtDot_of_notMem {chars : List Char} (plain : '.' ∉ chars) :
    splitAtDot chars = (chars, none) := by
  induction chars with
  | nil => rfl
  | cons c rest ih =>
      rw [List.mem_cons, not_or] at plain
      rw [splitAtDot, if_neg (Ne.symm plain.1), ih plain.2]

theorem splitAtDot_append {before : List Char} (plain : '.' ∉ before) (after : List Char) :
    splitAtDot (before ++ '.' :: after) = (before, some after) := by
  induction before with
  | nil => exact if_pos rfl
  | cons c rest ih =>
      rw [List.mem_cons, not_or] at plain
      rw [List.cons_append, splitAtDot, if_neg (Ne.symm plain.1), ih plain.2]

theorem parse_of_notMem {path : String} (plain : '.' ∉ path.toList) :
    parse path = ⟨path, none⟩ := by
  rw [parse, splitAtDot_of_notMem plain]
  exact congrArg (LayerKey.mk · none) String.ofList_toList

theorem parse_append {feature : String} (plain : '.' ∉ feature.toList) (layer : String) :
    parse (feature ++ "." ++ layer) = ⟨feature, some layer⟩ := by
  have chars : (feature ++ "." ++ layer).toList = feature.toList ++ '.' :: layer.toList := by
    simp
  rw [parse, chars, splitAtDot_append plain]
  dsimp only
  rw [Option.map_some, String.ofList_toList, String.ofList_toList]

theorem dot_mem_append (feature layer : String) : '.' ∈ (feature ++ "." ++ layer).toList := by
  simp

/-- A path has no dot, or it has a first one. -/
theorem path_cases (path : String) : '.' ∉ path.toList ∨
    ∃ feature layer, path = feature ++ "." ++ layer ∧ '.' ∉ feature.toList := by
  by_cases dotted : '.' ∈ path.toList
  · obtain ⟨before, after, split, plain⟩ := List.eq_append_cons_of_mem dotted
    refine .inr ⟨String.ofList before, String.ofList after, ?_, by simpa using plain⟩
    apply String.toList_injective
    simp [split]
  · exact .inl dotted

theorem display_parse (path : String) : (parse path).display = path := by
  rcases path_cases path with plain | ⟨feature, layer, rfl, plain⟩
  · rw [parse_of_notMem plain, display]
  · rw [parse_append plain, display]

theorem parse_display_iff {key : LayerKey} :
    parse key.display = key ↔ '.' ∉ key.feature.toList := by
  constructor
  · intro same
    rw [← same]
    rcases path_cases key.display with plain | ⟨feature, layer, spelled, plain⟩
    · rwa [parse_of_notMem plain]
    · rwa [spelled, parse_append plain]
  · intro plain
    obtain ⟨feature, layer⟩ := key
    cases layer with
    | none => exact parse_of_notMem plain
    | some layer => exact parse_append plain layer

/-- A path stands for the key that it spells, if the feature of the key has no dot. -/
theorem parse_eq_iff {path : String} {key : LayerKey} :
    parse path = key ↔ path = key.display ∧ '.' ∉ key.feature.toList := by
  constructor
  · rintro rfl
    rw [← parse_display_iff, display_parse]
    exact ⟨rfl, rfl⟩
  · rintro ⟨rfl, plain⟩
    exact parse_display_iff.mpr plain

end LayerKey

namespace Document

variable {document : Document} {feature layer text : String} {value : Json}
  {fields : List (String × Json)}

/-! Texts that are looked up. -/

theorem text_eq_ok_iff {key : LayerKey} :
    document.text key = .ok text ↔ document.texts.get? key = some text := by
  rw [Document.text, Document.layer, get?_texts]
  cases document.layers.get? key with
  | none => simp [Except.map]
  | some layer => simp [Except.map]

theorem text_cases (document : Document) (key : LayerKey) :
    (∃ text, document.text key = .ok text) ∨ document.text key = .error (.unknownLayer key) := by
  rw [Document.text, Document.layer]
  cases document.layers.get? key with
  | none => exact .inr rfl
  | some layer => exact .inl ⟨layer.text, rfl⟩

/-! Layers that are taken from fields. -/

theorem mem_layersOfField_object {entry : LayerKey × String} :
    entry ∈ layersOfField feature (.object fields) ↔
      ∃ layer text, (layer, .string text) ∈ fields ∧ entry = (⟨feature, some layer⟩, text) := by
  rw [layersOfField, List.mem_filterMap]
  constructor
  · rintro ⟨⟨layer, value⟩, member, taken⟩
    cases value with
    | string text => exact ⟨layer, text, member, (Option.some.inj taken).symm⟩
    | _ => cases taken
  · rintro ⟨layer, text, member, rfl⟩
    exact ⟨_, member, rfl⟩

/-- Each field has the layers of its own feature: the feature alone if the field is a text, and the
texts within the field if it is an object. -/
theorem mem_layersOfField {key : LayerKey} :
    (key, text) ∈ layersOfField feature value ↔ key.feature = feature ∧
      match key.layer with
      | none => value = .string text
      | some layer => ∃ fields, value = .object fields ∧ (layer, .string text) ∈ fields := by
  obtain ⟨other, layer⟩ := key
  cases value with
  | string whole => cases layer <;> simp [layersOfField, eq_comm]
  | object fields => cases layer <;> simp [mem_layersOfField_object, eq_comm, and_comm]
  | _ => cases layer <;> simp [layersOfField]

theorem keys_layersOfField_sublist (feature : String) (fields : List (String × Json)) :
    ((layersOfField feature (.object fields)).map Prod.fst).Sublist
      (fields.map fun field => ⟨feature, some field.1⟩) := by
  rw [layersOfField]
  induction fields with
  | nil => exact .slnil
  | cons field rest ih =>
      obtain ⟨layer, value⟩ := field
      cases value with
      | string text => exact ih.cons_cons _
      | _ => exact ih.cons _

theorem nodup_layersOfField (once : value.NamesOnce) (feature : String) :
    ((layersOfField feature value).map Prod.fst).Nodup := by
  cases once with
  | string text => exact List.nodup_singleton _
  | object distinct within =>
      refine (keys_layersOfField_sublist feature _).nodup ?_
      rw [List.Nodup, List.pairwise_map]
      refine (List.pairwise_map.mp distinct).imp ?_
      intro first second differ same
      exact differ (Option.some.inj (congrArg LayerKey.layer same))
  | _ => exact .nil

/-- The layers of all fields. -/
def layersOfFields (fields : List (String × Json)) : List (LayerKey × String) :=
  fields.flatMap fun field => layersOfField field.1 field.2

theorem nodup_layersOfFields (once : (Json.object fields).NamesOnce) :
    ((layersOfFields fields).map Prod.fst).Nodup := by
  rw [layersOfFields, List.map_flatMap, List.nodup_flatMap]
  constructor
  · intro field member
    exact nodup_layersOfField (once.within member) field.1
  · refine (List.pairwise_map.mp once.distinct).imp ?_
    rintro ⟨first, _⟩ ⟨second, _⟩ differ key inFirst inSecond
    obtain ⟨⟨_, text⟩, member, rfl⟩ := List.mem_map.mp inFirst
    obtain ⟨⟨_, other⟩, memberAgain, rfl⟩ := List.mem_map.mp inSecond
    exact differ ((mem_layersOfField.mp member).1.symm.trans (mem_layersOfField.mp memberAgain).1)

/-! What an object has under a key. -/

/-- An object with these fields has a text under a key: as a field, or as a field of an object that
is a field. -/
def HasText (fields : List (String × Json)) (key : LayerKey) (text : String) : Prop :=
  match key.layer with
  | none => Json.lookup? key.feature fields = some (.string text)
  | some layer => ∃ within, Json.lookup? key.feature fields = some (.object within) ∧
      Json.lookup? layer within = some (.string text)

theorem hasText_parse_iff {path : String} : HasText fields (.parse path) text ↔
    ('.' ∉ path.toList ∧ Json.lookup? path fields = some (.string text)) ∨
      ∃ feature layer within, path = feature ++ "." ++ layer ∧ '.' ∉ feature.toList ∧
        Json.lookup? feature fields = some (.object within) ∧
        Json.lookup? layer within = some (.string text) := by
  rcases LayerKey.path_cases path with plain | ⟨feature, layer, spelled, plain⟩
  · rw [LayerKey.parse_of_notMem plain, and_iff_right plain]
    refine (or_iff_left ?_).symm
    rintro ⟨feature, layer, -, spelled, -⟩
    exact plain (spelled ▸ LayerKey.dot_mem_append feature layer)
  · have dotted : '.' ∈ path.toList := spelled ▸ LayerKey.dot_mem_append feature layer
    have parsed : LayerKey.parse path = ⟨feature, some layer⟩ :=
      LayerKey.parse_eq_iff.mpr ⟨spelled, plain⟩
    rw [parsed, or_iff_right fun left => left.1 dotted]
    constructor
    · rintro ⟨within, outer, inner⟩
      exact ⟨feature, layer, within, spelled, plain, outer, inner⟩
    · rintro ⟨other, part, within, spelledAgain, plainAgain, outer, inner⟩
      have parsedAgain : LayerKey.parse path = ⟨other, some part⟩ :=
        LayerKey.parse_eq_iff.mpr ⟨spelledAgain, plainAgain⟩
      cases parsed.symm.trans parsedAgain
      exact ⟨within, outer, inner⟩

theorem mem_layersOfFields_iff (once : (Json.object fields).NamesOnce) {key : LayerKey} :
    (key, text) ∈ layersOfFields fields ↔ HasText fields key text := by
  rw [layersOfFields, List.mem_flatMap]
  obtain ⟨feature, layer⟩ := key
  cases layer with
  | none =>
      rw [HasText, Json.lookup?_eq_some_iff once.distinct]
      constructor
      · rintro ⟨⟨name, value⟩, member, taken⟩
        obtain ⟨rfl, rfl⟩ := mem_layersOfField.mp taken
        exact member
      · intro member
        exact ⟨_, member, mem_layersOfField.mpr ⟨rfl, rfl⟩⟩
  | some layer =>
      constructor
      · rintro ⟨⟨name, value⟩, member, taken⟩
        obtain ⟨rfl, within, rfl, inside⟩ := mem_layersOfField.mp taken
        refine ⟨within, (Json.lookup?_eq_some_iff once.distinct).mpr member, ?_⟩
        exact (Json.lookup?_eq_some_iff (once.within member).distinct).mpr inside
      · rintro ⟨within, found, inside⟩
        have member := (Json.lookup?_eq_some_iff once.distinct).mp found
        refine ⟨_, member, mem_layersOfField.mpr ⟨rfl, within, rfl, ?_⟩⟩
        exact (Json.lookup?_eq_some_iff (once.within member).distinct).mp inside

theorem texts_ofLayers (layers : List (LayerKey × String)) :
    (ofLayers layers).texts = .ofList layers := by
  induction layers using List.reverseRecOn with
  | nil => rfl
  | append_singleton layers last ih =>
      rw [ofLayers, List.foldl_append, Entries.ofList_append_singleton, ← ih]
      exact texts_insert _ _ _

/-- Under each key the document has what the object has there, whatever else is in the object. -/
theorem text_ofLayers_iff (once : (Json.object fields).NamesOnce) {key : LayerKey} :
    (ofLayers (layersOfFields fields)).text key = .ok text ↔ HasText fields key text := by
  rw [text_eq_ok_iff, texts_ofLayers,
    Entries.get?_ofList_eq_some_iff_mem (nodup_layersOfFields once), mem_layersOfFields_iff once]

/-- A path leads in the document of an object to the text that stands in the object under the path,
if the path has no dot, or else under what comes before and after its first dot.  Every path is
written as its key, and a key is read as it is written unless its feature has a dot; what is under
a key is what the object has there, whatever the names of other fields.  In what is read from text
each name stands once (`Json.namesOnce_of_parse?`). -/
theorem text_of_ofJson (once : (Json.object fields).NamesOnce) :
    ∃ document, (ofJson (.object fields)).outcome = .ok document ∧
      (∀ path text, document.text (.parse path) = .ok text ↔
        ('.' ∉ path.toList ∧ Json.lookup? path fields = some (.string text)) ∨
        ∃ feature layer within, path = feature ++ "." ++ layer ∧ '.' ∉ feature.toList ∧
          Json.lookup? feature fields = some (.object within) ∧
          Json.lookup? layer within = some (.string text)) ∧
      (∀ path, (∃ text, document.text (.parse path) = .ok text) ∨
        ∃ error, document.text (.parse path) = .error error ∧
          error = .unknownLayer (.parse path) ∧ error.message = "No such layer: " ++ path) ∧
      (∀ path, (LayerKey.parse path).display = path) ∧
      (∀ key, LayerKey.parse key.display = key ↔ '.' ∉ key.feature.toList) ∧
      (∀ feature text, document.text ⟨feature, none⟩ = .ok text ↔
        Json.lookup? feature fields = some (.string text)) ∧
      ∀ feature layer text, document.text ⟨feature, some layer⟩ = .ok text ↔
        ∃ within, Json.lookup? feature fields = some (.object within) ∧
          Json.lookup? layer within = some (.string text) := by
  refine ⟨ofLayers (layersOfFields fields), rfl, ?_, ?_, LayerKey.display_parse,
    fun key => LayerKey.parse_display_iff, ?_, ?_⟩
  · exact fun path text => (text_ofLayers_iff once).trans hasText_parse_iff
  · intro path
    rcases text_cases (ofLayers (layersOfFields fields)) (.parse path) with known | unknown
    · exact .inl known
    · refine .inr ⟨_, unknown, rfl, ?_⟩
      exact congrArg ("No such layer: " ++ ·) (LayerKey.display_parse path)
  · exact fun feature text => text_ofLayers_iff once
  · exact fun feature layer text => text_ofLayers_iff once

/-! Names with dots, one of them spelled as the path to another layer, and a name that is empty. -/

def dottedNames : List (String × Json) := [
  ("", .string "nameless"),
  ("a", .object [("", .string "blank"), ("b.c", .string "within"), ("n", .natural 2)]),
  ("a.b.c", .string "apart")]

theorem namesOnce_dottedNames : (Json.object dottedNames).NamesOnce := by
  refine .object (by decide) ?_
  simp only [dottedNames, List.forall_mem_cons]
  refine ⟨.string _, .object (by decide) ?_, .string _, nofun⟩
  simp only [List.forall_mem_cons]
  exact ⟨.string _, .string _, .number _, nofun⟩

theorem text_of_ofJson_dottedNames :
    ∃ document, (ofJson (.object dottedNames)).outcome = .ok document ∧
      document.text (.parse "a.b.c") = .ok "within" ∧
      document.text ⟨"a.b.c", none⟩ = .ok "apart" ∧
      document.text (.parse "a.") = .ok "blank" ∧
      document.text (.parse "") = .ok "nameless" ∧
      document.text (.parse "a.n") = .error (.unknownLayer ⟨"a", some "n"⟩) := by
  obtain ⟨document, loaded, paths, otherwise, -, -, alone, inside⟩ :=
    text_of_ofJson namesOnce_dottedNames
  have skipped : ¬∃ text, document.text (.parse "a.n") = .ok text := by
    rintro ⟨text, found⟩
    obtain ⟨fields, outer, inner⟩ := (inside "a" "n" text).mp found
    cases outer
    cases inner
  refine ⟨document, loaded, (paths _ _).mpr ?_, (alone _ _).mpr rfl, (paths _ _).mpr ?_,
    (paths _ _).mpr ?_, ?_⟩
  · exact .inr ⟨"a", "b.c", _, rfl, by decide, rfl, rfl⟩
  · exact .inr ⟨"a", "", _, rfl, by decide, rfl, rfl⟩
  · exact .inl ⟨by decide, rfl⟩
  · obtain ⟨error, fails, unknown, -⟩ := (otherwise "a.n").resolve_left skipped
    rw [fails, unknown]
    rfl

end Document

end Concordance
