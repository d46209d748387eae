import Concordance.Layer.Document

/-!
Documents by their texts.  What is kept in a document is known from its texts, so two documents with
the same texts answer every look-up alike, whatever indices each of them keeps.  Keeping an index
changes no text, and a text put into a document has no index kept.
-/

namespace Concordance

namespace Layer

variable {left right : Layer}

theorem index_congr (same : left.text = right.text) : left.index = right.index := by
  rw [index_eq_build, index_eq_build, same]

theorem tokenAt_congr (same : left.text = right.text) (key : LayerKey) (offset : Nat) :
    left.tokenAt key offset = right.tokenAt key offset := by
  rw [tokenAt, tokenAt, index_congr same]

theorem tokenSpan_congr (same : left.text = right.text) (key : LayerKey) (token : Nat) :
    left.tokenSpan key token = right.tokenSpan key token := by
  rw [tokenSpan, tokenSpan, index_congr same]

theorem tokenText_congr (same : left.text = right.text) (key : LayerKey) (token : Nat) :
    left.tokenText key token = right.tokenText key token := by
  rw [tokenText, tokenText, tokenSpan_congr same, same]

@[simp] theorem isIndexed_indexed (layer : Layer) : layer.indexed.isIndexed = true := rfl

end Layer

namespace Document

/-- The layers of a document without what is kept of them. -/
def texts (document : Document) : Entries LayerKey String :=
  document.layers.mapValues fun _ layer => layer.text

/-- The document with these layers, of which no index is kept. -/
def ofTexts (texts : Entries LayerKey String) : Document :=
  ⟨texts.mapValues fun _ text => .ofText text⟩

@[simp] theorem texts_ofTexts (texts : Entries LayerKey String) :
    (ofTexts texts).texts = texts := by
  rw [Document.texts, ofTexts, Entries.mapValues_mapValues]
  exact Entries.ext (List.map_id _)

@[simp] theorem texts_insert (document : Document) (key : LayerKey) (text : String) :
    (document.insert key text).texts = document.texts.put key text :=
  Entries.mapValues_put _ document.layers key (.ofText text)

@[simp] theorem texts_insertPath (document : Document) (path text : String) :
    (document.insertPath path text).texts = document.texts.put (.parse path) text :=
  document.texts_insert (.parse path) text

@[simp] theorem texts_remember (document : Document) (keys : List LayerKey) :
    (document.remember keys).texts = document.texts := by
  rw [texts, remember, Entries.mapValues_mapValues, texts]
  congr 1
  funext key layer
  split <;> rfl

@[simp] theorem texts_after {ε α : Type} (document : Document) (computation : Traced ε α) :
    (document.after computation).texts = document.texts :=
  document.texts_remember computation.needed

theorem get?_texts (document : Document) (key : LayerKey) :
    document.texts.get? key = (document.layers.get? key).map Layer.text :=
  Entries.get?_mapValues _ document.layers key

/-! Look-ups of layers. -/

section

variable {left right : Document} {α : Type}

theorem get?_layers_cases (same : left.texts = right.texts) (key : LayerKey) :
    (left.layers.get? key = none ∧ right.layers.get? key = none) ∨
      ∃ first second : Layer, left.layers.get? key = some first ∧
        right.layers.get? key = some second ∧ first.text = second.text := by
  have sameText := congrArg (Entries.get? · key) same
  simp only [get?_texts] at sameText
  cases present : left.layers.get? key with
  | none =>
      rw [present, Option.map_none, Eq.comm, Option.map_eq_none_iff] at sameText
      exact .inl ⟨rfl, sameText⟩
  | some first =>
      rw [present, Option.map_some, Eq.comm, Option.map_eq_some_iff] at sameText
      obtain ⟨second, found, text⟩ := sameText
      exact .inr ⟨first, second, rfl, found, text.symm⟩

/-- What reads no more of a layer than its text is the same for both documents. -/
theorem bind_layer_congr (same : left.texts = right.texts) (key : LayerKey)
    {next : Layer → Traced Error α}
    (blind : ∀ first second : Layer, first.text = second.text → next first = next second) :
    ((do let layer ← left.layer key; next layer) : Traced Error α) =
      (do let layer ← right.layer key; next layer) := by
  rw [layer, layer]
  rcases get?_layers_cases same key with ⟨absent, missing⟩ | ⟨first, second, found, here, text⟩
  · rw [absent, missing]
  · rw [found, here, Traced.liftM_ok_bind, Traced.liftM_ok_bind]
    exact blind first second text

theorem keys_eq_keys_texts (document : Document) : document.keys = document.texts.keys :=
  (Entries.keys_mapValues _ document.layers).symm

theorem keys_congr (same : left.texts = right.texts) : left.keys = right.keys := by
  rw [keys_eq_keys_texts, keys_eq_keys_texts, same]

theorem size_congr (same : left.texts = right.texts) : left.size = right.size := by
  have length := congrArg List.length (keys_congr same)
  simpa [keys, Entries.keys, size, Entries.size] using length

theorem isEmpty_congr (same : left.texts = right.texts) : left.isEmpty = right.isEmpty := by
  have none := congrArg List.isEmpty (keys_congr same)
  simpa [keys, Entries.keys, isEmpty, Entries.isEmpty] using none

theorem contains_congr (same : left.texts = right.texts) (key : LayerKey) :
    left.contains key = right.contains key := by
  rw [contains, Entries.contains, contains, Entries.contains]
  rcases get?_layers_cases same key with ⟨absent, missing⟩ | ⟨first, second, found, here, -⟩
  · rw [absent, missing]
  · rw [found, here]
    rfl

theorem text_congr (same : left.texts = right.texts) (key : LayerKey) :
    left.text key = right.text key := by
  rw [text, layer, text, layer]
  rcases get?_layers_cases same key with ⟨absent, missing⟩ | ⟨first, second, found, here, text⟩
  · rw [absent, missing]
  · rw [found, here]
    exact congrArg Except.ok text

theorem tokenIndex_congr (same : left.texts = right.texts) (key : LayerKey) :
    left.tokenIndex key = right.tokenIndex key := by
  apply bind_layer_congr same key
  intro first second text
  rw [Layer.index_congr text]

theorem tokenCount_congr (same : left.texts = right.texts) (key : LayerKey) :
    left.tokenCount key = right.tokenCount key := by
  rw [tokenCount, tokenCount, tokenIndex_congr same]

theorem tokenAt_congr (same : left.texts = right.texts) (key : LayerKey) (offset : Nat) :
    left.tokenAt key offset = right.tokenAt key offset := by
  apply bind_layer_congr same key
  intro first second text
  rw [Layer.tokenAt_congr text]

theorem tokenSpan_congr (same : left.texts = right.texts) (key : LayerKey) (token : Nat) :
    left.tokenSpan key token = right.tokenSpan key token := by
  apply bind_layer_congr same key
  intro first second text
  rw [Layer.tokenSpan_congr text]

theorem tokenText_congr (same : left.texts = right.texts) (key : LayerKey) (token : Nat) :
    left.tokenText key token = right.tokenText key token := by
  apply bind_layer_congr same key
  intro first second text
  rw [Layer.tokenText_congr text]

end

/-- What is looked up is the index of the text as it stands. -/
theorem tokenIndex_outcome {document : Document} {key : LayerKey} {text : String}
    (present : document.texts.get? key = some text) :
    (document.tokenIndex key).outcome = .ok (TokenIndex.build text) := by
  rw [get?_texts, Option.map_eq_some_iff] at present
  obtain ⟨layer, found, rfl⟩ := present
  rw [tokenIndex, Document.layer, found, Traced.liftM_ok_bind, layer.index_eq_build]
  rfl

/-! Which indices are kept. -/

theorem isIndexed_remember (document : Document) (keys : List LayerKey) (key : LayerKey) :
    (document.remember keys).isIndexed key =
      (document.isIndexed key).map fun indexed => indexed || keys.contains key := by
  rw [isIndexed, layer, isIndexed, layer, remember, Entries.get?_mapValues]
  cases document.layers.get? key with
  | none => rfl
  | some layer => cases keys.contains key <;> simp [Except.map]

theorem isIndexed_remember_iff {document : Document} {keys : List LayerKey} {key : LayerKey} :
    (document.remember keys).isIndexed key = .ok true ↔
      document.isIndexed key = .ok true ∨ (document.contains key = true ∧ key ∈ keys) := by
  rw [isIndexed_remember, isIndexed, layer, contains, Entries.contains]
  cases document.layers.get? key with
  | none => simp [Except.map]
  | some layer => simp [Except.map]

/-- A layer that takes the place of another has no index kept, and all other layers stay. -/
theorem isIndexed_insert (document : Document) (key other : LayerKey) (text : String) :
    (document.insert key text).isIndexed other =
      if key = other then .ok false else document.isIndexed other := by
  rw [isIndexed, layer, insert, Entries.get?_put]
  by_cases same : key = other
  · rw [if_pos same, if_pos same]
    rfl
  · rw [if_neg same, if_neg same]
    rfl

end Document

end Concordance
