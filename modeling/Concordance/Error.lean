import Concordance.Grammar.Operation
import Concordance.Layer.Key

/-!
What can be wrong with an input, and where.  Each cause has one message.
-/

namespace Concordance

/-- Where a fault lies: at a node of a grammar, by the numbers of the children that lead to it or by
its name, or in a document as a whole. -/
inductive Location where
  | node (path : List Nat)
  | named (name : String)
  | document
deriving DecidableEq, Repr, Inhabited

/-- What is wrong with a node of a grammar or with a document. -/
inductive Fault where
  | notLayers
  | notAnObject
  | missingLayer
  | missingMatcher
  | missingTerms
  | missingPattern
  | termsNotStrings
  | missingOperation
  | missingChildren
  | childrenNotArray
  | slopNotNatural
  | notAString (field : String)
  | notABoolean (field : String)
  | noChildren (operation : Operation)
  | negationArity (count : Nat)
  | nothingNegated
  | misplacedSlop
  | zeroSlop
  | misplacedMatchFirst
  | emptyLayer
  | noTerms
  | blankTerm (index : Nat)
  | misplacedWholeWord
  | emptyPattern
deriving DecidableEq, Repr, Inhabited

inductive Error where
  | malformed (location : Location) (fault : Fault)
  | unsupportedOperation (name : String)
  | unknownLayer (key : LayerKey)
  | offsetOutOfRange (key : LayerKey) (offset length : Nat)
  | tokenOutOfRange (key : LayerKey) (index count : Nat)
  /-- A regular expression that is none. -/
  | badPattern
  /-- Text that is not JSON. -/
  | badJson
  /-- Text that sets no options. -/
  | badOptions
deriving DecidableEq, Repr, Inhabited

namespace Location

def root : Location := node []

def display : Location → String
  | node path => path.foldl (fun text i => text ++ ".children[" ++ toString i ++ "]") "root"
  | named name => name
  | document => "document"

end Location

namespace Fault

def message : Fault → String
  | notLayers => "expected a JSON object of layers"
  | notAnObject => "expected an object"
  | missingLayer => "missing layer"
  | missingMatcher => "terminal needs terms or a pattern"
  | missingTerms => "exact terminal missing terms"
  | missingPattern => "regex terminal missing pattern"
  | termsNotStrings => "terms must be an array of strings"
  | missingOperation => "missing layer or op"
  | missingChildren => "missing children"
  | childrenNotArray => "children must be an array"
  | slopNotNatural => "slop must be a non-negative integer"
  | notAString field => field ++ " must be a string"
  | notABoolean field => field ++ " must be a boolean"
  | noChildren operation => operation.name ++ " node has no children"
  | negationArity count => "not takes exactly one child, got " ++ toString count
  | nothingNegated => "not without child"
  | misplacedSlop => "slop is only valid on gap"
  | zeroSlop => "slop must be at least 1"
  | misplacedMatchFirst => "match_first is only valid on intersect and gap"
  | emptyLayer => "terminal has an empty layer"
  | noTerms => "exact terminal has no terms"
  | blankTerm index => "term " ++ toString index ++ " is blank"
  | misplacedWholeWord => "whole_word is only valid on exact terminals"
  | emptyPattern => "regex terminal has an empty pattern"

end Fault

namespace Error

def message : Error → String
  | malformed location fault =>
    "Malformed grammar at " ++ location.display ++ ": " ++ fault.message
  | unsupportedOperation name => "Unsupported operation: " ++ name
  | unknownLayer key => "No such layer: " ++ key.display
  | offsetOutOfRange key offset length =>
    "Offset " ++ toString offset ++ " out of range for layer " ++ key.display ++ " (length " ++
      toString length ++ ")"
  | tokenOutOfRange key index count =>
    "Token " ++ toString index ++ " out of range for layer " ++ key.display ++ " (" ++
      toString count ++ " tokens)"
  | badPattern => "Invalid pattern"
  | badJson => "Invalid JSON"
  | badOptions => "Invalid options"

end Error

end Concordance
