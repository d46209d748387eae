/-!
Addresses of layers: a feature, and within it possibly a named layer.  A path writes both with a dot
between them, and the first dot of a path is that dot.
-/

namespace Concordance

structure LayerKey where
  feature : String
  layer : Option String
deriving DecidableEq, Repr, Inhabited

namespace LayerKey

/-- The characters before the first dot, and those after it if there is one. -/
def splitAtDot : List Char → List Char × Option (List Char)
  | [] => ([], none)
  | c :: rest =>
    if c = '.' then ([], some rest)
    else
      let (before, after) := splitAtDot rest
      (c :: before, after)

def parse (path : String) : LayerKey :=
  let (feature, layer) := splitAtDot path.toList
  ⟨String.ofList feature, layer.map String.ofList⟩

def display (key : LayerKey) : String :=
  match key.layer with
  | some layer => key.feature ++ "." ++ layer
  | none => key.feature

/-- Keys are ordered by feature; a feature alone comes before its layers. -/
def le (left right : LayerKey) : Bool :=
  if left.feature = right.feature then
    match left.layer, right.layer with
    | none, _ => true
    | some _, none => false
    | some left, some right => left ≤ right
  else left.feature < right.feature

def sorted (keys : List LayerKey) : List LayerKey :=
  keys.mergeSort le

end LayerKey

end Concordance
