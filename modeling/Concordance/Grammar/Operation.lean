/-!
Operations that combine grammars.
-/

namespace Concordance

inductive Operation where
  | not
  | concat
  | gap
  | union
  | intersect
  | layerMatch
deriving DecidableEq, Repr, Inhabited

namespace Operation

def name : Operation → String
  | not => "not"
  | concat => "concat"
  | gap => "gap"
  | union => "union"
  | intersect => "intersect"
  | layerMatch => "layer_match"

def ofName? : String → Option Operation
  | "not" => some not
  | "concat" => some concat
  | "gap" => some gap
  | "union" => some union
  | "intersect" => some intersect
  | "layer_match" => some layerMatch
  | _ => none

/-- Whether matches depend on the positions of tokens. -/
def isPositional : Operation → Bool
  | concat | gap | layerMatch => true
  | not | union | intersect => false

end Operation

end Concordance
