import Concordance.Proofs.Entries
import Concordance.Proofs.Search.Corpus

/-!
Corpora filled by insertions, some of which may fail.  The ids stand in the order in which they were
first written, each of them once, and with each id stands the document written last.  The documents
can as well be kept in a row beside a table of places: no place is ever wrong.
-/

namespace Concordance

/-! Histories of insertions. -/

inductive Insertion where
  | insert (id : String) (document : Document)
  /-- A document that has yet to be loaded. -/
  | load (id : String) (json : Json)

namespace Insertion

def outcome (corpus : Corpus) : Insertion → Except Error Corpus
  | insert id document => .ok (corpus.insert id document)
  | load id json => (corpus.insertJson id json).outcome

/-- The corpus that an insertion leaves: the one before it, if it fails. -/
def apply (corpus : Corpus) (insertion : Insertion) : Corpus :=
  match insertion.outcome corpus with
  | .ok next => next
  | .error _ => corpus

def run (corpus : Corpus) (history : List Insertion) : Corpus :=
  history.foldl apply corpus

/-- What a successful insertion writes. -/
def written? : Insertion → Option (String × Document)
  | insert id document => some (id, document)
  | load id json => (Document.ofJson json).outcome.toOption.map fun document => (id, document)

theorem apply_eq (corpus : Corpus) (insertion : Insertion) :
    insertion.apply corpus =
      insertion.written?.elim corpus fun entry => corpus.insert entry.1 entry.2 := by
  cases insertion with
  | insert id document => rfl
  | load id json =>
      rw [apply, outcome, written?, Corpus.insertJson, Traced.outcome_bind]
      cases (Document.ofJson json).outcome with
      | error error => rfl
      | ok document => rfl

theorem documents_run (history : List Insertion) :
    (run .empty history).documents = .ofList (history.filterMap written?) := by
  induction history using List.reverseRecOn with
  | nil => rfl
  | append_singleton history last ih =>
      have step : run .empty (history ++ [last]) = last.apply (run .empty history) := by
        rw [run, List.foldl_append]
        rfl
      rw [step, apply_eq, List.filterMap_append, List.filterMap_cons]
      cases last.written? with
      | none => rw [List.filterMap_nil, List.append_nil, ← ih]; rfl
      | some entry =>
          rw [List.filterMap_nil, Entries.ofList_append_singleton, ← ih]
          rfl

end Insertion

/-! Searches. -/

namespace Corpus

variable {corpus : Corpus} {query : Query}

theorem nodup_ids (corpus : Corpus) : corpus.ids.Nodup :=
  corpus.documents.nodup

/-- In the order of the corpus, the ids of the documents that satisfy a query. -/
structure AnsweredBy (corpus : Corpus) (query : Query) (hits : List String) : Prop where
  sublist : hits.Sublist corpus.ids
  mem_iff : ∀ id, id ∈ hits ↔
    ∃ document, corpus.get? id = some document ∧ (query.holds document).outcome = .ok true

theorem search_answeredBy {prepared : PreparedClause} (prepares : query.prepare = .ok prepared) :
    ∃ hits, (corpus.search query).outcome = .ok hits ∧ corpus.AnsweredBy query hits := by
  have holds : ∀ document, (query.holds document).outcome = .ok (prepared.truth document) := by
    intro document
    rw [Query.holds, prepares, Traced.outcome_bind, Traced.outcome_liftM, ok_bind,
      PreparedClause.holds_outcome]
  have found : (corpus.search query).outcome =
      .ok ((corpus.documents.toList.filter fun entry => prepared.truth entry.2).map Prod.fst) := by
    rw [search, prepares, Traced.outcome_bind, Traced.outcome_liftM, ok_bind,
      searchPrepared_outcome]
  refine ⟨_, found, ⟨List.filter_sublist.map Prod.fst, ?_⟩⟩
  · intro id
    simp only [holds, Except.ok.injEq, List.mem_map, List.mem_filter]
    constructor
    · rintro ⟨⟨id, document⟩, ⟨stored, holds⟩, rfl⟩
      exact ⟨document, Entries.get?_eq_some_iff.mpr stored, holds⟩
    · rintro ⟨document, found, holds⟩
      exact ⟨(id, document), ⟨Entries.get?_eq_some_iff.mp found, holds⟩, rfl⟩

theorem search_error {error : Error} (fails : query.prepare = .error error) :
    (corpus.search query).outcome = .error error := by
  rw [search, fails, Traced.outcome_bind, Traced.outcome_liftM, error_bind]

end Corpus

/-! Places. -/

/-- Documents in a row, and for every id the place of its document. -/
structure Shelf where
  row : List (String × Document)
  places : Entries String Nat

namespace Shelf

def empty : Shelf := ⟨[], .empty⟩

/-- Puts a document into the place of its id, or at the end of the row if the id has none. -/
def insert (shelf : Shelf) (id : String) (document : Document) : Shelf :=
  match shelf.places.get? id with
  | some place => { shelf with row := shelf.row.modify place fun entry => (entry.1, document) }
  | none => ⟨shelf.row ++ [(id, document)], shelf.places.put id shelf.row.length⟩

def get? (shelf : Shelf) (id : String) : Option Document := do
  let place ← shelf.places.get? id
  let entry ← shelf.row[place]?
  return entry.2

def ofList (written : List (String × Document)) : Shelf :=
  written.foldl (fun shelf entry => shelf.insert entry.1 entry.2) empty

/-- The row holds the documents of a table, and the places are those of its keys. -/
structure Lists (shelf : Shelf) (documents : Entries String Document) : Prop where
  row : shelf.row = documents.toList
  places : ∀ id place, shelf.places.get? id = some place ↔ documents.keys[place]? = some id

variable {shelf : Shelf} {documents : Entries String Document}

theorem Lists.places_eq_none_iff (lists : shelf.Lists documents) {id : String} :
    shelf.places.get? id = none ↔ id ∉ documents.keys := by
  simp only [Option.eq_none_iff_forall_ne_some, ne_eq, lists.places, List.mem_iff_getElem?,
    not_exists]

theorem Lists.insert (lists : shelf.Lists documents) (id : String) (document : Document) :
    (shelf.insert id document).Lists (documents.put id document) := by
  rw [Shelf.insert]
  cases placed : shelf.places.get? id with
  | some place =>
      have there := (lists.places id place).mp placed
      refine ⟨?_, ?_⟩
      · rw [lists.row]
        exact (Entries.replace_eq_modify documents.nodup there document).symm
      · rw [Entries.keys_put, if_pos (List.mem_of_getElem? there)]
        exact lists.places
  | none =>
      have fresh := lists.places_eq_none_iff.mp placed
      refine ⟨?_, ?_⟩
      · rw [lists.row]
        exact (Entries.replace_eq_append fresh document).symm
      · intro other place
        have length : shelf.row.length = documents.keys.length := by
          rw [lists.row, Entries.keys, List.length_map]
        rw [Entries.keys_put, if_neg fresh, Entries.get?_put, length]
        by_cases same : id = other
        · subst same
          rw [if_pos rfl, Option.some_inj, getElem?_append_singleton_eq_last fresh, eq_comm]
        · rw [if_neg same, lists.places, getElem?_append_singleton_ne (Ne.symm same)]

theorem lists_ofList (written : List (String × Document)) :
    (ofList written).Lists (.ofList written) := by
  induction written using List.reverseRecOn with
  | nil => exact ⟨rfl, fun id place => iff_of_false nofun nofun⟩
  | append_singleton written last ih =>
      have step : ofList (written ++ [last]) = (ofList written).insert last.1 last.2 := by
        rw [ofList, List.foldl_append]
        rfl
      rw [step, Entries.ofList_append_singleton]
      exact ih.insert last.1 last.2

/-- A place that is known is in the row, so nothing is missed. -/
theorem Lists.get?_eq (lists : shelf.Lists documents) (id : String) :
    shelf.get? id = documents.get? id := by
  rw [get?]
  cases placed : shelf.places.get? id with
  | none => exact (Entries.get?_eq_none_iff.mpr (lists.places_eq_none_iff.mp placed)).symm
  | some place =>
      have there := (lists.places id place).mp placed
      rw [Entries.keys, List.getElem?_map, Option.map_eq_some_iff] at there
      obtain ⟨⟨other, document⟩, standing, rfl⟩ := there
      rw [Entries.get?_eq_some_iff.mpr (List.mem_of_getElem? standing), lists.row]
      simp [standing]

end Shelf

/-! Corpora as maps. -/

/-- After every history of insertions, failed ones among them, a corpus holds the ids that were
written, each once and in the order of their first writing, and under each of them the document that
was written last; a failed insertion changes nothing.  A search answers with the ids whose documents
satisfy the query, and fails only if the query cannot be prepared.  A row of documents with a table
of places, filled by the same writings, is the same row and finds the same documents. -/
theorem Corpus.insertion_ordered {history : List Insertion} {corpus : Corpus}
    {written : List (String × Document)} (reached : Insertion.run .empty history = corpus)
    (writes : history.filterMap Insertion.written? = written) :
    corpus.ids.Nodup ∧
    (∀ id, id ∈ corpus.ids ↔ ∃ document, (id, document) ∈ written) ∧
    (corpus.ids.Pairwise fun first second =>
      (written.map Prod.fst).idxOf first < (written.map Prod.fst).idxOf second) ∧
    (∀ id document, corpus.get? id = some document ↔
      ∃ before after, written = before ++ (id, document) :: after ∧
        ∀ entry ∈ after, entry.1 ≠ id) ∧
    (∀ id, corpus.get? id = none ↔ ∀ document, (id, document) ∉ written) ∧
    corpus.size = (written.map Prod.fst).toFinset.card ∧
    (∀ id json error, (corpus.insertJson id json).outcome = .error error →
      (Insertion.load id json).apply corpus = corpus) ∧
    (∀ query prepared, query.prepare = .ok prepared →
      ∃ hits, (corpus.search query).outcome = .ok hits ∧ corpus.AnsweredBy query hits) ∧
    (∀ query error, query.prepare = .error error →
      (corpus.search query).outcome = .error error) ∧
    (Shelf.ofList written).row = corpus.documents.toList ∧
    ∀ id, (Shelf.ofList written).get? id = corpus.get? id := by
  have documents : corpus.documents = .ofList written := by
    rw [← reached, ← writes, Insertion.documents_run]
  have ids : corpus.ids = (written.map Prod.fst).eraseDups := by
    rw [Corpus.ids, documents, Entries.keys_ofList]
  have member : ∀ id, id ∈ corpus.ids ↔ ∃ document, (id, document) ∈ written := by
    intro id
    rw [ids, List.mem_eraseDups]
    simp
  have lists : (Shelf.ofList written).Lists corpus.documents := by
    rw [documents]
    exact Shelf.lists_ofList written
  refine ⟨corpus.nodup_ids, member, ?_, ?_, ?_, ?_, ?_, ?_, ?_, lists.row, lists.get?_eq⟩
  · rw [ids]
    exact pairwise_idxOf_eraseDups _
  · intro id document
    rw [Corpus.get?, documents, Entries.get?_ofList_eq_some_iff]
  · intro id
    rw [Corpus.get?, Entries.get?_eq_none_iff]
    exact (not_congr (member id)).trans not_exists
  · rw [Corpus.size, Entries.size_eq_card_keys]
    apply congrArg Finset.card
    ext id
    rw [List.mem_toFinset, List.mem_toFinset, documents, Entries.keys_ofList, List.mem_eraseDups]
  · intro id json error fails
    rw [Insertion.apply, Insertion.outcome, fails]
  · exact fun query prepared => search_answeredBy
  · exact fun query error => search_error

/-! A document is replaced after another has come, and two that are no documents come under a known
id and under a new one. -/

def Insertion.henForFox : List Insertion := [
  .load "fox" (.object [("text", .string "a red fox"), ("year", .natural 1971)]),
  .insert "hen" (Document.empty.insertPath "text" "a grey hen"),
  .load "fox" (.array []),
  .load "wolf" .null,
  .load "fox" (.object [("text", .string "no fox but a hen")])]

def Corpus.henForFox : Corpus :=
  Insertion.run .empty Insertion.henForFox

def Query.forHens : Query :=
  ⟨[.term "text" "hen" true true], [], [], none⟩

theorem Corpus.insertion_ordered_henForFox :
    Corpus.henForFox.ids = ["fox", "hen"] ∧
    Corpus.henForFox.get? "fox" = some (Document.empty.insertPath "text" "no fox but a hen") ∧
    Corpus.henForFox.get? "wolf" = none ∧
    Corpus.henForFox.size = 2 ∧
    (Insertion.load "wolf" .null).apply .henForFox = .henForFox ∧
    ∃ hits, (Corpus.henForFox.search .forHens).outcome = .ok hits ∧
      Corpus.henForFox.AnsweredBy .forHens hits := by
  obtain ⟨-, member, -, latest, missing, size, failing, answers, -⟩ :=
    @insertion_ordered Insertion.henForFox .henForFox _ rfl rfl
  have absent : "wolf" ∉ Corpus.henForFox.ids := by decide
  refine ⟨rfl, (latest _ _).mpr ?_, (missing _).mpr ?_, size.trans rfl, failing _ _ _ rfl,
    answers _ _ rfl⟩
  · exact ⟨[("fox", Document.empty.insertPath "text" "a red fox"),
      ("hen", Document.empty.insertPath "text" "a grey hen")], [], rfl, nofun⟩
  · exact not_exists.mp (mt (member _).mpr absent)

end Concordance
