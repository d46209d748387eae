import Concordance.Json.Reader
import Concordance.Layer.Document

/-!
Documents from JSON.  A field with a text is a layer of its own, and a field with an object holds
one layer for every text in it; whatever else there is gets skipped, and reported.
-/

namespace Concordance.Document

def layersOfField (feature : String) : Json → List (LayerKey × String)
  | .string text => [(⟨feature, none⟩, text)]
  | .object layers => layers.filterMap fun
    | (layer, .string text) => some (⟨feature, some layer⟩, text)
    | _ => none
  | _ => []

def skippedInField (feature : String) : Json → List Event
  | .string _ => []
  | .object layers => layers.filterMap fun
    | (_, .string _) => none
    | (layer, value) => some (.skippedLayer feature layer value.kind)
  | value => [.skippedField feature value.kind]

def ofLayers (layers : List (LayerKey × String)) : Document :=
  layers.foldl (fun document layer => document.insert layer.1 layer.2) empty

def ofJson : Json → Traced Error Document
  | .object fields =>
    ⟨fields.flatMap fun (feature, value) => (skippedInField feature value).map .event,
      .ok (ofLayers (fields.flatMap fun (feature, value) => layersOfField feature value))⟩
  | _ => throw (.malformed .document .notLayers)

def ofText (text : String) : Traced Error Document :=
  match Json.parse? text with
  | some json => ofJson json
  | none => throw .badJson

end Concordance.Document
