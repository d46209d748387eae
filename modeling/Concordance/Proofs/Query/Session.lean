import Concordance.Proofs.Matcher.Indices
import Mathlib.Logic.Function.Basic

/-!
Sessions: several documents that are written, copied and asked, in any order.  What is kept of the
layers shows in no answer but those about what is kept, so a session can be run on the texts alone,
where every look-up builds the index anew.
-/

namespace Concordance

inductive Request where
  | insert (key : LayerKey) (text : String)
  | insertPath (path text : String)
  | keys
  | size
  | isEmpty
  | contains (key : LayerKey)
  | text (key : LayerKey)
  | isIndexed (key : LayerKey)
  | tokenIndex (key : LayerKey)
  | tokenCount (key : LayerKey)
  | tokenAt (key : LayerKey) (offset : Nat)
  | tokenSpan (key : LayerKey) (token : Nat)
  | tokenText (key : LayerKey) (token : Nat)
  | find (matcher : Matcher)
  | isMatch (matcher : Matcher)
  | holds (query : Query)

inductive Answer where
  | done
  | keys (keys : List LayerKey)
  | truth (value : Bool)
  | number (value : Nat)
  | text (text : String)
  | index (index : TokenIndex)
  | span (span : Span)
  | found (found : List Match)

namespace Request

def answer (document : Document) : Request → Traced Error Answer
  | insert _ _ => return .done
  | insertPath _ _ => return .done
  | keys => return .keys document.keys
  | size => return .number document.size
  | isEmpty => return .truth document.isEmpty
  | contains key => return .truth (document.contains key)
  | text key => return .text (← document.text key)
  | isIndexed key => return .truth (← document.isIndexed key)
  | tokenIndex key => return .index (← document.tokenIndex key)
  | tokenCount key => return .number (← document.tokenCount key)
  | tokenAt key offset => return .number (← document.tokenAt key offset)
  | tokenSpan key token => return .span (← document.tokenSpan key token)
  | tokenText key token => return .text (← document.tokenText key token)
  | find matcher => return .found (← matcher.find document)
  | isMatch matcher => return .truth (← matcher.isMatch document)
  | holds query => return .truth (← query.holds document)

/-- The document that a request leaves. -/
def apply (document : Document) : Request → Document
  | insert key words => document.insert key words
  | insertPath path words => document.insertPath path words
  | request => document.after (request.answer document)

/-- The texts that a request leaves. -/
def write (texts : Entries LayerKey String) : Request → Entries LayerKey String
  | insert key words => texts.put key words
  | insertPath path words => texts.put (.parse path) words
  | _ => texts

theorem texts_apply (document : Document) (request : Request) :
    (request.apply document).texts = request.write document.texts := by
  cases request with
  | insert key text => exact document.texts_insert key text
  | insertPath path text => exact document.texts_insertPath path text
  | _ => exact document.texts_after _

/-- The texts of a document decide all answers but those about what is kept. -/
theorem answer_congr {left right : Document} (same : left.texts = right.texts) {request : Request}
    (blind : ∀ key, request ≠ isIndexed key) : request.answer left = request.answer right := by
  cases request with
  | insert key text => rfl
  | insertPath path text => rfl
  | keys => rw [answer, answer, Document.keys_congr same]
  | size => rw [answer, answer, Document.size_congr same]
  | isEmpty => rw [answer, answer, Document.isEmpty_congr same]
  | contains key => rw [answer, answer, Document.contains_congr same]
  | text key => rw [answer, answer, Document.text_congr same]
  | isIndexed key => exact absurd rfl (blind key)
  | tokenIndex key => rw [answer, answer, Document.tokenIndex_congr same]
  | tokenCount key => rw [answer, answer, Document.tokenCount_congr same]
  | tokenAt key offset => rw [answer, answer, Document.tokenAt_congr same]
  | tokenSpan key token => rw [answer, answer, Document.tokenSpan_congr same]
  | tokenText key token => rw [answer, answer, Document.tokenText_congr same]
  | find matcher => rw [answer, answer, matcher.find_congr same]
  | isMatch matcher => rw [answer, answer, matcher.isMatch_congr same]
  | holds query => rw [answer, answer, query.holds_congr same]

theorem apply_find (document : Document) (matcher : Matcher) :
    (find matcher).apply document = document.after (matcher.find document) := by
  show document.remember _ = document.remember _
  rw [answer, Traced.needed_bind_of_nil _ fun _ => Traced.needed_pure _]

end Request

/-! Runs. -/

/-- Something in every place: documents, or texts. -/
abbrev Session (σ : Type) : Type := Nat → σ

inductive Step where
  | ask (place : Nat) (request : Request)
  | copy (source target : Nat)

namespace Session

variable {σ τ : Type}

def step (act : σ → Request → σ) (session : Session σ) : Step → Session σ
  | .ask place request => Function.update session place (act (session place) request)
  | .copy source target => Function.update session target (session source)

def run (act : σ → Request → σ) (session : Session σ) (history : List Step) : Session σ :=
  history.foldl (step act) session

variable {act : σ → Request → σ} {actOn : τ → Request → τ} {view : σ → τ}

theorem view_step (seen : ∀ s request, view (act s request) = actOn (view s) request)
    (session : Session σ) (next : Step) :
    view ∘ step act session next = step actOn (view ∘ session) next := by
  cases next with
  | ask place request => rw [step, step, Function.comp_update, seen, Function.comp_apply]
  | copy source target => rw [step, step, Function.comp_update, Function.comp_apply]

theorem view_run (seen : ∀ s request, view (act s request) = actOn (view s) request)
    (session : Session σ) (history : List Step) :
    view ∘ run act session history = run actOn (view ∘ session) history := by
  induction history generalizing session with
  | nil => rfl
  | cons next rest ih =>
      rw [run, List.foldl_cons, run, List.foldl_cons, ← view_step seen]
      exact ih (step act session next)

theorem texts_run (session : Session Document) (history : List Step) (place : Nat) :
    (run Request.apply session history place).texts =
      run Request.write (Document.texts ∘ session) history place :=
  congrFun (view_run Request.texts_apply session history) place

/-- After every history, the texts of a document are those written, and all answers but those about
indices are as if none were kept. -/
theorem lazy_indices {session : Session Document} {history : List Step} {place : Nat}
    {document : Document} (reached : run Request.apply session history place = document) :
    document.texts = run Request.write (Document.texts ∘ session) history place ∧
    (∀ request : Request, (∀ key, request ≠ .isIndexed key) →
      request.answer document = request.answer (.ofTexts document.texts)) ∧
    (∀ key text, document.texts.get? key = some text →
      (document.tokenIndex key).outcome = .ok (TokenIndex.build text)) ∧
    (∀ key text other, (document.insert key text).isIndexed other =
      if key = other then .ok false else document.isIndexed other) ∧
    (∀ matcher, ((Request.find matcher).apply document).texts = document.texts) ∧
    (∀ query, ((Request.holds query).apply document).texts = document.texts) ∧
    ∀ matcher found, (matcher.find document).outcome = .ok found →
      ∀ key, ((Request.find matcher).apply document).isIndexed key = .ok true ↔
        document.isIndexed key = .ok true ∨
          ∃ scanner ∈ matcher.scanners, scanner.key = key ∧ scanner.Finds document := by
  refine ⟨?_, ?_, ?_, ?_, ?_, ?_, ?_⟩
  · rw [← reached, texts_run]
  · intro request blind
    exact Request.answer_congr (Document.texts_ofTexts _).symm blind
  · exact fun key text => Document.tokenIndex_outcome
  · exact fun key text other => document.isIndexed_insert key other text
  · exact fun matcher => Request.texts_apply document (.find matcher)
  · exact fun query => Request.texts_apply document (.holds query)
  · intro matcher found finds key
    rw [Request.apply_find]
    exact Matcher.isIndexed_after_find_iff finds

/-! A document is copied with the index of its text, and then the text of the original is replaced:
the copy keeps the index, and the original needs a new one.  A matcher that finds nothing as a whole
keeps the index of the one layer in which a part of it has a match. -/

def redraft : List Step := [
  .ask 0 (.insertPath "text" "a red fox"),
  .ask 0 (.insertPath "tags" "DET ADJ NOUN"),
  .ask 0 (.tokenCount ⟨"text", none⟩),
  .copy 0 1,
  .ask 0 (.insertPath "text" "the fox was red")]

def redVerb : Matcher :=
  .concatenation [.scan (.ofTerms ["VERB"] "tags" true true), .scan (.redIn "text")]

def redrafted (place : Nat) : Document :=
  run Request.apply (fun _ => .empty) redraft place

theorem lazy_indices_redraft :
    (redrafted 1).isIndexed ⟨"text", none⟩ = .ok true ∧
    (redrafted 0).isIndexed ⟨"text", none⟩ = .ok false ∧
    ((redrafted 0).tokenIndex ⟨"text", none⟩).outcome = .ok (TokenIndex.build "the fox was red") ∧
    (Request.tokenText ⟨"text", none⟩ 3).answer (redrafted 0) =
      (Request.tokenText ⟨"text", none⟩ 3).answer (.ofTexts (redrafted 0).texts) ∧
    ((Request.find redVerb).apply (redrafted 0)).isIndexed ⟨"text", none⟩ = .ok true ∧
    ((Request.find redVerb).apply (redrafted 0)).isIndexed ⟨"tags", none⟩ ≠ .ok true := by
  obtain ⟨-, answers, indices, -, -, -, needs⟩ := @lazy_indices _ redraft 0 (redrafted 0) rfl
  have finds : (redVerb.find (redrafted 0)).outcome = .ok (redVerb.results (redrafted 0)) :=
    Matcher.find_eq_results_iff.mpr (by decide)
  have red : (Scanner.redIn "text").Finds (redrafted 0) :=
    Scanner.finds_iff.mpr (by decide +kernel)
  have verb : ¬(Scanner.ofTerms ["VERB"] "tags" true true).Finds (redrafted 0) :=
    mt Scanner.finds_iff.mp (by decide +kernel)
  have fresh : (redrafted 0).isIndexed ⟨"tags", none⟩ = .ok false := rfl
  refine ⟨rfl, rfl, indices _ _ rfl, answers _ nofun, ?_, ?_⟩
  · exact (needs redVerb _ finds _).mpr
      (.inr ⟨.redIn "text", List.mem_cons_of_mem _ (List.mem_singleton_self _), rfl, red⟩)
  · intro indexed
    rcases (needs redVerb _ finds _).mp indexed with kept | ⟨scanner, member, same, found⟩
    · rw [fresh] at kept
      cases kept
    · rcases List.mem_cons.mp member with rfl | member
      · exact verb found
      · rw [List.mem_singleton.mp member] at same
        exact absurd same (by decide)

end Session

end Concordance
