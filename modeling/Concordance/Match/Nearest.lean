import Concordance.Match.Basic

/-!
The nearest match of every cluster.  Matches whose spans share a token belong together, directly or
through others; of a cluster the match with the smallest dispersion stands, then the one that starts
first, then the smaller one.  Matches without tokens all stand.
-/

namespace Concordance.Match

structure Spanned where
  start : Nat
  stop : Nat
  found : Match
deriving DecidableEq, Repr

namespace Spanned

def ofMatch? (found : Match) : Option Spanned :=
  found.span?.map fun (start, stop) => ⟨start, stop, found⟩

def le (left right : Spanned) : Bool :=
  left.start < right.start ||
    (left.start == right.start &&
      (left.stop < right.stop || (left.stop == right.stop && left.found.le right.found)))

def beats (left right : Spanned) : Bool :=
  left.found.dispersion < right.found.dispersion ||
    (left.found.dispersion == right.found.dispersion &&
      (left.start < right.start || (left.start == right.start && left.found.lt right.found)))

end Spanned

/-- The winners of the clusters of a list in order of spans; the cluster being read reaches to
`stop`, and `best` is the best of it so far. -/
def winnersFrom : List Spanned → (stop : Nat) → (best : Spanned) → List Match
  | [], _, best => [best.found]
  | next :: rest, stop, best =>
    if stop < next.start then best.found :: winnersFrom rest next.stop next
    else winnersFrom rest (max stop next.stop) (if next.beats best then next else best)

def winners : List Spanned → List Match
  | [] => []
  | first :: rest => winnersFrom rest first.stop first

def nearest (found : List Match) : List Match :=
  let spanned := (found.filterMap Spanned.ofMatch?).mergeSort Spanned.le
  canonicalFirst (found.filter Match.isEmpty ++ winners spanned)

end Concordance.Match
