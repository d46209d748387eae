import Concordance.Proofs.Query.Compile
import Concordance.Search.Basic

/-!
A corpus as client and source.  It answers a query with the ids of the documents of which the query
is true, and gives back the document of each id.
-/

namespace Concordance.Corpus

variable {corpus : Corpus} {query : Query}

theorem searchPrepared_outcome (prepared : PreparedClause)
    (documents : List (String × Document)) :
    (searchPrepared prepared documents).outcome =
      .ok ((documents.filter fun entry => prepared.truth entry.2).map Prod.fst) := by
  induction documents with
  | nil => rfl
  | cons entry rest ih =>
      rw [searchPrepared, Traced.outcome_bind, Traced.outcome_within,
        PreparedClause.holds_outcome, ok_bind, Traced.outcome_bind, ih, ok_bind, List.filter_cons]
      split
      · rfl
      · rfl

/-- The documents of which a query is true, under their ids. -/
def candidates (corpus : Corpus) (query : Query) : List (String × Document) :=
  corpus.documents.toList.filter fun entry => query.truth entry.2

theorem search_outcome (compiles : query.toClause.Compiles) :
    (corpus.search query).outcome = .ok ((corpus.candidates query).map Prod.fst) := by
  rw [search, Query.prepare, Clause.prepare_eq_ok _ compiles, Traced.outcome_bind,
    Traced.outcome_liftM, ok_bind, searchPrepared_outcome]
  rfl

theorem client_outcome (compiles : query.toClause.Compiles) :
    (corpus.client query).outcome = .ok ((corpus.candidates query).map Prod.fst) := by
  rw [client, Traced.outcome_mapError, search_outcome compiles]
  rfl

theorem get?_candidates :
    ((corpus.candidates query).map Prod.fst).map (fun id => (id, corpus.get? id)) =
      (corpus.candidates query).map fun entry => (entry.1, some entry.2) := by
  rw [List.map_map]
  apply List.map_congr_left
  intro entry member
  have stored := (List.mem_filter.mp member).1
  exact congrArg (Prod.mk entry.1) (Entries.get?_eq_some_of_mem stored)

end Concordance.Corpus
