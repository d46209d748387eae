import Concordance.Expr.Basic
import Concordance.Json.Basic
import Concordance.Layer.Key
import Concordance.Text.Quoted

/-!
Events that computations report, and their log lines.
-/

namespace Concordance

inductive Level where
  | trace
  | debug
  | warn
deriving DecidableEq, Repr

inductive Event where
  /-- A field of a document that holds no text. -/
  | skippedField (feature : String) (kind : Json.Kind)
  | skippedLayer (feature layer : String) (kind : Json.Kind)
  | enumerating (combinations : Nat)
  | builtMatcher (name : String)
  /-- A name given to terminals that differ. -/
  | ambiguousName (name : String)
  | constantInclusive (value : Bool)
  | compiledInclusive (terminals rendered minimum : Nat)
  | compiledExclusive (terminals : Nat) (bound : Expr)
  | tooManyTerms (limit bound : Nat)
  | candidates (count : Nat)
  | fetching (batch documents : Nat)
  | documentNotFound (id : String)
  | documentWithoutLayer (id : String) (key : LayerKey)
  | verified (verified candidates skipped : Nat)
deriving Repr

namespace Level

def name : Level → String
  | trace => "TRACE"
  | debug => "DEBUG"
  | warn => "WARN"

end Level

namespace Event

def level : Event → Level
  | enumerating _ => .trace
  | skippedField .. | skippedLayer .. | ambiguousName _ | tooManyTerms .. | documentNotFound _
  | documentWithoutLayer .. => .warn
  | builtMatcher _ | constantInclusive _ | compiledInclusive .. | compiledExclusive ..
  | candidates _ | fetching .. | verified .. => .debug

def message : Event → String
  | skippedField feature kind =>
    "Skipping non-text field " ++ feature ++ " (" ++ kind.name ++ ")"
  | skippedLayer feature layer kind =>
    "Skipping non-text layer " ++ feature ++ "." ++ layer ++ " (" ++ kind.name ++ ")"
  | enumerating combinations => "Enumerating " ++ toString combinations ++ " combinations"
  | builtMatcher name => "Built matcher for grammar " ++ Text.quoted name
  | ambiguousName name =>
    "Terminal name " ++ Text.quoted name ++ " is used for different definitions"
  | constantInclusive value => "Inclusive grammar simplifies to " ++ toString value
  | compiledInclusive terminals rendered minimum =>
    "Compiled inclusive grammar: " ++ toString terminals ++ " terminals, " ++ toString rendered ++
      " rendered, minimum_should_match " ++ toString minimum
  | compiledExclusive terminals bound =>
    "Compiled exclusive grammar: " ++ toString terminals ++ " terminals, lower bound " ++
      bound.display
  | tooManyTerms limit bound =>
    "No DNF within " ++ toString limit ++ " terms, using lower bound " ++ toString bound ++
      " for minimum_should_match"
  | candidates count => "Query returned " ++ toString count ++ " candidates"
  | fetching batch documents =>
    "Fetching batch " ++ toString batch ++ " (" ++ toString documents ++ " documents)"
  | documentNotFound id => "Skipping document " ++ id ++ ": not found"
  | documentWithoutLayer id key => "Skipping document " ++ id ++ ": no layer " ++ key.display
  | verified count total skipped =>
    "Verified " ++ toString count ++ " of " ++ toString total ++ " candidates (" ++
      toString skipped ++ " skipped)"

def line (event : Event) : String :=
  event.level.name ++ " " ++ event.message

end Event

end Concordance
