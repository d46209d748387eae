import Concordance.Json.Printer

/-!
Retrieval queries.  A query holds for a document when all of `must` hold, none of `mustNot` does,
and enough of `should` hold.
-/

namespace Concordance

inductive Clause where
  /-- A literal term in the layer under a path. -/
  | term (path text : String) (caseSensitive wholeWord : Bool)
  | regexp (path pattern : String) (caseSensitive : Bool)
  | bool (should must mustNot : List Clause) (minimumShouldMatch : Option Nat)
  | matchAll
  | matchNone
deriving Repr, Inhabited

structure Query where
  should : List Clause
  must : List Clause
  mustNot : List Clause
  minimumShouldMatch : Option Nat
deriving Repr, Inhabited

/-- How many of `should` have to hold: as many as said; else one, if there are any and no `must`. -/
def effectiveMinimum (should must : List Clause) : Option Nat → Nat
  | some minimum => minimum
  | none => if !should.isEmpty && must.isEmpty then 1 else 0

namespace Query

def empty : Query := ⟨[], [], [], none⟩

def matchAll : Query := { empty with must := [.matchAll] }

def matchNone : Query := { empty with must := [.matchNone] }

def isEmpty (query : Query) : Bool :=
  query.should.isEmpty && query.must.isEmpty && query.mustNot.isEmpty

def isMatchAll : Query → Bool
  | ⟨[], [.matchAll], [], none⟩ => true
  | _ => false

def isMatchNone : Query → Bool
  | ⟨[], [.matchNone], [], none⟩ => true
  | _ => false

def effectiveMinimumShouldMatch (query : Query) : Nat :=
  effectiveMinimum query.should query.must query.minimumShouldMatch

def toClause (query : Query) : Clause :=
  .bool query.should query.must query.mustNot query.minimumShouldMatch

end Query

/-! Queries as JSON.  Fields stand in the order of their names, and empty lists are left out. -/

def clauseFields (name : String) : List Json → List (String × Json)
  | [] => []
  | items => [(name, .array items)]

def minimumFields : Option Nat → List (String × Json)
  | some minimum => [("minimum_should_match", .natural minimum)]
  | none => []

def nested (name : String) (fields : List (String × Json)) : Json :=
  .object [(name, .object fields)]

mutual

def Clause.toJson : Clause → Json
  | .term path text caseSensitive wholeWord =>
    nested "match" [(path, .object [
      ("case_insensitive", .bool !caseSensitive),
      ("query", .string text),
      ("whole_word", .bool wholeWord)])]
  | .regexp path pattern caseSensitive =>
    nested "regexp" [(path, .object [
      ("case_insensitive", .bool !caseSensitive),
      ("value", .string pattern)])]
  | .bool should must mustNot minimumShouldMatch =>
    nested "bool" (minimumFields minimumShouldMatch ++
      clauseFields "must" (Clause.toJsonAll must) ++
      clauseFields "must_not" (Clause.toJsonAll mustNot) ++
      clauseFields "should" (Clause.toJsonAll should))
  | .matchAll => nested "match_all" []
  | .matchNone => nested "match_none" []

def Clause.toJsonAll : List Clause → List Json
  | [] => []
  | clause :: rest => clause.toJson :: Clause.toJsonAll rest

end

namespace Query

def toJson (query : Query) : Json :=
  query.toClause.toJson

def toText (query : Query) : String :=
  query.toJson.compact

end Query

end Concordance
