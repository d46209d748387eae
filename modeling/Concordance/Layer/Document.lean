import Concordance.Entries
import Concordance.Error
import Concordance.Layer.TokenIndex
import Concordance.Traced

/-!
Documents: texts under layer keys.  A layer keeps its token index once one has been needed.  What a
computation needs it reports (`Traced.needed`), and `Document.remember` puts the indices of those
layers into the document.
-/

namespace Concordance

structure Layer where
  text : String
  memo? : Option TokenIndex
  /-- What is kept is the index of the text. -/
  memo_sound : ∀ index ∈ memo?, index = TokenIndex.build text
deriving DecidableEq, Repr

namespace Layer

def ofText (text : String) : Layer := ⟨text, none, nofun⟩

instance : Inhabited Layer := ⟨ofText ""⟩

def isIndexed (layer : Layer) : Bool := layer.memo?.isSome

def index (layer : Layer) : TokenIndex :=
  layer.memo?.getD (TokenIndex.build layer.text)

theorem index_eq_build (layer : Layer) : layer.index = TokenIndex.build layer.text := by
  unfold index
  cases kept : layer.memo? with
  | none => rfl
  | some index => exact layer.memo_sound index kept

def indexed (layer : Layer) : Layer where
  text := layer.text
  memo? := some layer.index
  memo_sound := by
    intro index kept
    rw [← Option.mem_some.mp kept, index_eq_build]

/-- The token that a byte belongs to; `key` is the address of the layer. -/
def tokenAt (layer : Layer) (key : LayerKey) (offset : Nat) : Except Error Nat :=
  if layer.index.spans.isEmpty then .error (.tokenOutOfRange key 0 0)
  else
    match layer.index.tokenOfByte[offset]? with
    | some token => .ok token
    | none => .error (.offsetOutOfRange key offset layer.index.tokenOfByte.length)

def tokenSpan (layer : Layer) (key : LayerKey) (token : Nat) : Except Error Span :=
  match layer.index.spans[token]? with
  | some span => .ok span
  | none => .error (.tokenOutOfRange key token layer.index.spans.length)

def tokenText (layer : Layer) (key : LayerKey) (token : Nat) : Except Error String :=
  (layer.tokenSpan key token).map fun span => Text.slice layer.text span.start span.stop

end Layer

structure Document where
  layers : Entries LayerKey Layer
deriving Repr, Inhabited

namespace Document

def empty : Document := ⟨.empty⟩

/-- Adds a layer or replaces it; its index is not kept. -/
def insert (document : Document) (key : LayerKey) (text : String) : Document :=
  ⟨document.layers.put key (.ofText text)⟩

def insertPath (document : Document) (path text : String) : Document :=
  document.insert (.parse path) text

def contains (document : Document) (key : LayerKey) : Bool :=
  document.layers.contains key

def keys (document : Document) : List LayerKey :=
  document.layers.keys

def size (document : Document) : Nat :=
  document.layers.size

def isEmpty (document : Document) : Bool :=
  document.layers.isEmpty

def indexedKeys (document : Document) : List LayerKey :=
  document.layers.toList.filterMap fun (key, layer) => if layer.isIndexed then some key else none

/-- The document with the indices of these layers kept. -/
def remember (document : Document) (keys : List LayerKey) : Document :=
  ⟨document.layers.mapValues fun key layer => if keys.contains key then layer.indexed else layer⟩

def after {ε α : Type} (document : Document) (computation : Traced ε α) : Document :=
  document.remember computation.needed

def layer (document : Document) (key : LayerKey) : Except Error Layer :=
  match document.layers.get? key with
  | some layer => .ok layer
  | none => .error (.unknownLayer key)

def text (document : Document) (key : LayerKey) : Except Error String :=
  (document.layer key).map Layer.text

def isIndexed (document : Document) (key : LayerKey) : Except Error Bool :=
  (document.layer key).map Layer.isIndexed

def tokenIndex (document : Document) (key : LayerKey) : Traced Error TokenIndex := do
  let layer ← document.layer key
  Traced.needIndex key
  return layer.index

def tokenCount (document : Document) (key : LayerKey) : Traced Error Nat := do
  return (← document.tokenIndex key).spans.length

/-- The token that a byte belongs to. -/
def tokenAt (document : Document) (key : LayerKey) (offset : Nat) : Traced Error Nat := do
  let layer ← document.layer key
  Traced.needIndex key
  layer.tokenAt key offset

def tokenSpan (document : Document) (key : LayerKey) (token : Nat) : Traced Error Span := do
  let layer ← document.layer key
  Traced.needIndex key
  layer.tokenSpan key token

def tokenText (document : Document) (key : LayerKey) (token : Nat) : Traced Error String := do
  let layer ← document.layer key
  Traced.needIndex key
  layer.tokenText key token

end Document

end Concordance
