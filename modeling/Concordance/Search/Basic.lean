import Concordance.Grammar.Reader
import Concordance.Matcher.Build
import Concordance.Query.Compile
import Concordance.Search.Corpus

/-!
Searching in two phases.  The compiled query gives candidates; their documents are fetched in
batches and verified by the matchers themselves.  The query never loses a document that the matchers
accept, so what is found does not depend on it.
-/

namespace Concordance

inductive SearchError where
  | grammar (error : Error)
  | backend (text : String)
  /-- A batch that could not be fetched, by the id of its first document. -/
  | layers (first : String) (text : String)
deriving DecidableEq, Repr

namespace SearchError

def message : SearchError → String
  | grammar error => error.message
  | backend text => "Search backend error: " ++ text
  | layers first text =>
    "Layer source error for batch starting at document " ++ first ++ ": " ++ text

end SearchError

structure SearchOptions where
  /-- How many documents are fetched at once; at least one. -/
  batchSize : Nat := 100
  /-- Whether documents without a layer of the grammar are passed over. -/
  skipMissingLayers : Bool := true
deriving DecidableEq, Repr

/-- Finds the ids of candidates, or says why it cannot. -/
abbrev SearchClient := Query → Traced String (List String)

/-- Fetches documents by their ids, one answer for each, or says why it cannot. -/
abbrev LayerSource := List String → Except String (List (Option Document))

structure DocumentMatch where
  id : String
  found : List Match
deriving DecidableEq, Repr

structure SearchReport where
  candidates : Nat
  verified : Nat
  skipped : Nat
deriving DecidableEq, Repr, Inhabited

structure SearchResults where
  found : List DocumentMatch
  report : SearchReport
deriving DecidableEq, Repr, Inhabited

namespace SearchResults

def start (candidates : Nat) : SearchResults := ⟨[], ⟨candidates, 0, 0⟩⟩

def accept (results : SearchResults) (id : String) (found : List Match) : SearchResults :=
  ⟨results.found ++ [⟨id, found⟩],
    { results.report with verified := results.report.verified + 1 }⟩

def skip (results : SearchResults) : SearchResults :=
  { results with report := { results.report with skipped := results.report.skipped + 1 } }

end SearchResults

structure Verifier where
  wanted : Matcher
  unwanted : Option Matcher

namespace Verifier

/-- The matches of a document, if it has any and the other matcher finds none. -/
def verify (verifier : Verifier) (document : Document) : Traced Error (Option (List Match)) := do
  let found ← verifier.wanted.find document
  if found.isEmpty then return none
  else
    match verifier.unwanted with
    | none => return some found
    | some unwanted => return if ← unwanted.isMatch document then none else some found

def step (verifier : Verifier) (options : SearchOptions) (results : SearchResults) (id : String)
    (document : Option Document) : Traced SearchError SearchResults :=
  match document with
  | none => do
    Traced.report (.documentNotFound id)
    return results.skip
  | some document => do
    match ← (verifier.verify document).attempt with
    | .ok (some found) => return results.accept id found
    | .ok none => return results
    | .error (.unknownLayer key) =>
      if options.skipMissingLayers then
        Traced.report (.documentWithoutLayer id key)
        return results.skip
      else throw (.grammar (.unknownLayer key))
    | .error error => throw (.grammar error)

def steps (verifier : Verifier) (options : SearchOptions) (results : SearchResults) :
    List (String × Option Document) → Traced SearchError SearchResults
  | [] => return results
  | (id, document) :: rest => do
    verifier.steps options (← verifier.step options results id document) rest

end Verifier

/-- A list cut into pieces of a size, the last one possibly shorter; `piece` is the piece being
filled, last element first. -/
def batchesFrom {α : Type} (size : Nat) : List α → (piece : List α) → List (List α)
  | [], [] => []
  | [], piece => [piece.reverse]
  | first :: rest, piece =>
    if size ≤ piece.length + 1 then (first :: piece).reverse :: batchesFrom size rest []
    else batchesFrom size rest (first :: piece)

/-- A list cut into pieces of a size, of one if the size is zero. -/
def batches {α : Type} (size : Nat) (list : List α) : List (List α) :=
  batchesFrom size list []

def fetch (source : LayerSource) (ids : List String) :
    Except SearchError (List (String × Option Document)) :=
  let first := ids.headD ""
  match source ids with
  | .error text => .error (.layers first text)
  | .ok documents =>
    if documents.length = ids.length then .ok (ids.zip documents)
    else
      .error (.layers first ("expected " ++ toString ids.length ++ " documents, got " ++
        toString documents.length))

def verifyBatches (verifier : Verifier) (source : LayerSource) (options : SearchOptions) :
    (number : Nat) → SearchResults → List (List String) → Traced SearchError SearchResults
  | _, results, [] => return results
  | number, results, batch :: rest => do
    Traced.report (.fetching number batch.length)
    Traced.reportFetch batch
    let documents ← fetch source batch
    let results ← verifier.steps options results documents
    verifyBatches verifier source options (number + 1) results rest

def searchCorpus (client : SearchClient) (source : LayerSource) (compiler : CompilerOptions)
    (inclusive : Grammar) (exclusive : Option Grammar) (options : SearchOptions) :
    Traced SearchError SearchResults := do
  let query ← (compiler.compile (some inclusive) exclusive).mapError .grammar
  let wanted ← (Matcher.ofGrammar inclusive).mapError SearchError.grammar
  let unwanted ← (exclusive.mapM Matcher.ofGrammar).mapError SearchError.grammar
  let candidates ← (client query).mapError .backend
  Traced.report (.candidates candidates.length)
  let results ← verifyBatches ⟨wanted, unwanted⟩ source options 0 (.start candidates.length)
    (batches options.batchSize candidates)
  Traced.report
    (.verified results.report.verified results.report.candidates results.report.skipped)
  return results

def searchText (client : SearchClient) (source : LayerSource) (inclusive : String)
    (exclusive : Option String) (options : SearchOptions) :
    Traced SearchError SearchResults := do
  let inclusive ← (Grammar.ofText inclusive).mapError SearchError.grammar
  let exclusive ← (exclusive.mapM Grammar.ofText).mapError SearchError.grammar
  searchCorpus client source {} inclusive exclusive options

namespace Corpus

def client (corpus : Corpus) : SearchClient := fun query =>
  (corpus.search query).mapError Error.message

def source (corpus : Corpus) : LayerSource := fun ids =>
  .ok (ids.map corpus.get?)

end Corpus

end Concordance
