import Concordance.Json.Settings
import Concordance.Search.Basic

/-!
Options of a search from text.
-/

namespace Concordance.SearchOptions

open Json

def batchSizeSetting : Setting Nat where
  name := "batch_size"
  read? := Setting.natural?

def skipMissingLayersSetting : Setting Bool where
  name := "skip_missing_layers"
  read? := Setting.flag?

/-- What a text leaves out has its default. -/
def ofText (text : String) : Except Error SearchOptions :=
  match Setting.parse? batchSizeSetting skipMissingLayersSetting text with
  | some (batchSize, skipMissingLayers) =>
    .ok ⟨batchSize.getD 100, skipMissingLayers.getD true⟩
  | none => .error .badOptions

end Concordance.SearchOptions
