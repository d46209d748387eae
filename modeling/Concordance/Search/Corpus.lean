import Concordance.Layer.Load
import Concordance.Query.Evaluate

/-!
Documents held in memory under their ids, in the order in which the ids first came.  A search looks
at the documents themselves, so the token indices it needs stay with them; a document fetched is a
copy.
-/

namespace Concordance

structure Corpus where
  documents : Entries String Document
deriving Repr, Inhabited

namespace Corpus

def empty : Corpus := ⟨.empty⟩

def insert (corpus : Corpus) (id : String) (document : Document) : Corpus :=
  ⟨corpus.documents.put id document⟩

def get? (corpus : Corpus) (id : String) : Option Document :=
  corpus.documents.get? id

def ids (corpus : Corpus) : List String :=
  corpus.documents.keys

def size (corpus : Corpus) : Nat :=
  corpus.documents.size

def isEmpty (corpus : Corpus) : Bool :=
  corpus.documents.isEmpty

/-- The corpus with a document loaded from JSON; an error leaves nothing to insert. -/
def insertJson (corpus : Corpus) (id : String) (json : Json) : Traced Error Corpus := do
  return corpus.insert id (← Document.ofJson json)

def searchPrepared (prepared : PreparedClause) : List (String × Document) →
    Traced Error (List String)
  | [] => return []
  | (id, document) :: rest => do
    let holds ← (prepared.holds document).within id
    let others ← searchPrepared prepared rest
    return if holds then id :: others else others

/-- The ids of the documents for which a query holds, in the order of the corpus. -/
def search (corpus : Corpus) (query : Query) : Traced Error (List String) := do
  let prepared ← query.prepare
  searchPrepared prepared corpus.documents.toList

def after {ε α : Type} (corpus : Corpus) (computation : Traced ε α) : Corpus :=
  ⟨corpus.documents.mapValues fun id document =>
    document.remember (computation.neededWithin id)⟩

end Corpus

end Concordance
