import Concordance.Proofs.Layer.Coverage
import Concordance.Proofs.Text.Runs

/-!
Tokens are the maximal runs of a text.  A run ends where a blank or the text does, a byte within it
belongs to it, and the bytes of blanks belong to the run that comes next, or to the last one.  What
a document answers about the bytes of a layer follows from this.
-/

namespace Concordance

open Text

/-- The bytes of a run, those before the text being counted too. -/
def Span.IsRunOf (chars : List Char) (base : Nat) (span : Span) : Prop :=
  ∃ before run after, IsRun chars before run after ∧
    span = ⟨base + byteLength before, base + byteLength before + byteLength run⟩

namespace Span

theorem Ordered.pairwise {low high : Nat} {spans : List Span} (ordered : Ordered low high spans) :
    spans.Pairwise fun first second => first.stop ≤ second.start := by
  induction spans generalizing low with
  | nil => exact .nil
  | cons span rest ih =>
      obtain ⟨-, -, restOrdered⟩ := ordered
      exact List.pairwise_cons.mpr ⟨fun _ => restOrdered.low_le_start, ih restOrdered⟩

variable {run rest : List Char} {c : Char} {base : Nat} {span : Span}

theorem isRunOf_solid_iff (solid : ∀ c ∈ run, isBlank c = false) :
    IsRunOf run base span ↔ run ≠ [] ∧ span = ⟨base, base + byteLength run⟩ := by
  simp only [IsRunOf, isRun_solid_iff solid]
  constructor
  · rintro ⟨_, _, _, ⟨nonempty, rfl, rfl, rfl⟩, same⟩
    exact ⟨nonempty, same⟩
  · rintro ⟨nonempty, same⟩
    exact ⟨[], run, [], ⟨nonempty, rfl, rfl, rfl⟩, same⟩

theorem isRunOf_append_cons_iff (solid : ∀ c ∈ run, isBlank c = false)
    (blank : isBlank c = true) :
    IsRunOf (run ++ c :: rest) base span ↔
      (run ≠ [] ∧ span = ⟨base, base + byteLength run⟩) ∨
        IsRunOf rest (base + byteLength run + c.utf8Size) span := by
  simp only [IsRunOf, isRun_append_cons_iff solid blank]
  constructor
  · rintro ⟨_, word, after, ⟨nonempty, rfl, rfl, rfl⟩ | ⟨lead, rfl, isRun⟩, same⟩
    · exact .inl ⟨nonempty, same⟩
    · refine .inr ⟨lead, word, after, isRun, ?_⟩
      simpa [Nat.add_assoc] using same
  · rintro (⟨nonempty, same⟩ | ⟨lead, word, after, isRun, same⟩)
    · exact ⟨[], run, _, .inl ⟨nonempty, rfl, rfl, rfl⟩, same⟩
    · refine ⟨_, word, after, .inr ⟨lead, rfl, isRun⟩, ?_⟩
      simpa [Nat.add_assoc] using same

end Span

namespace TokenIndex

/-- With a run being read, the tokens to come are the runs of it and the characters left. -/
theorem mem_spansFrom_iff {chars run : List Char} {base : Nat} {span : Span}
    (solid : ∀ c ∈ run, isBlank c = false) :
    span ∈ spansFrom chars (base + byteLength run) (if run = [] then none else some base) ↔
      span.IsRunOf (run ++ chars) base := by
  -- A character is put to the run, or is a blank that closes it and starts an empty one.
  induction chars generalizing run base with
  | nil =>
      rw [List.append_nil, Span.isRunOf_solid_iff solid]
      cases run with
      | nil => simp [spansFrom]
      | cons d others => simp [spansFrom]
  | cons c rest ih =>
      cases blank : isBlank c with
      | false =>
          have longer : ∀ d ∈ run ++ [c], isBlank d = false := by
            simpa [blank, or_imp, forall_and] using solid
          have goesOn := @ih (run ++ [c]) base longer
          rw [List.append_assoc, List.singleton_append] at goesOn
          rw [← goesOn]
          cases run with
          | nil => simp [spansFrom, blank]
          | cons d others => simp [spansFrom, blank, Nat.add_assoc]
      | true =>
          have later := @ih [] (base + byteLength run + c.utf8Size) (List.forall_mem_nil _)
          rw [List.nil_append] at later
          rw [Span.isRunOf_append_cons_iff solid blank, ← later]
          cases run with
          | nil => simp [spansFrom, blank]
          | cons d others => simp [spansFrom, blank]

theorem mem_spans_build_iff {text : String} {span : Span} :
    span ∈ (build text).spans ↔
      ∃ before run after, IsRun text.toList before run after ∧
        span = ⟨byteLength before, byteLength before + byteLength run⟩ := by
  rw [build]
  have tokens := @mem_spansFrom_iff text.toList [] 0 span (List.forall_mem_nil _)
  simpa [Span.IsRunOf] using tokens

/-! Bytes. -/

theorem solid_of_mem_spans {text : String} {span : Span} {offset : Nat} {c : Char}
    (member : span ∈ (build text).spans) (low : span.start ≤ offset) (high : offset < span.stop)
    (read : charAt? text.toList offset = some c) : isBlank c = false := by
  obtain ⟨before, run, after, isRun, rfl⟩ := mem_spans_build_iff.mp member
  obtain ⟨rest, rfl⟩ := Nat.exists_eq_add_of_le low
  dsimp only at high
  rw [isRun.split, List.append_assoc, charAt?_append_right,
    charAt?_append_left (by omega)] at read
  exact isRun.solid c (mem_of_charAt? read)

/-- A byte belongs to the first token that ends after it, or else to the last one. -/
theorem getElem?_cover_eq {length low token offset : Nat} {spans : List Span}
    (ordered : Span.Ordered low length spans) (after : low ≤ offset) (within : offset < length) :
    (cover length spans token low)[offset - low]? =
      some (((spans.findIdx? fun span => offset < span.stop).map (token + ·)).getD
        (token + spans.length - 1)) := by
  induction spans generalizing low token with
  | nil =>
      rw [cover, List.getElem?_replicate_of_lt (by omega)]
      rfl
  | cons span rest ih =>
      obtain ⟨startLe, startLt, restOrdered⟩ := ordered
      rw [cover, List.findIdx?_cons]
      by_cases before : offset < span.stop
      · rw [List.getElem?_append_left (by rw [List.length_replicate]; omega),
          List.getElem?_replicate_of_lt (by omega)]
        simp [before]
      · rw [List.getElem?_append_right (by rw [List.length_replicate]; omega),
          List.length_replicate,
          show offset - low - (span.stop - low) = offset - span.stop by omega,
          ih restOrdered (by omega)]
        cases rest.findIdx? fun span => offset < span.stop with
        | none => simp [before, Nat.add_assoc, Nat.add_comm 1]
        | some k => simp [before, Nat.add_assoc, Nat.add_comm 1]

/-- A token is the next one after a byte: it starts after the byte, and those before it end before
the byte does. -/
def IsNext (index : TokenIndex) (offset token : Nat) : Prop :=
  (∃ span, index.spans[token]? = some span ∧ offset < span.start) ∧
    ∀ span ∈ index.spans.take token, span.stop ≤ offset

/-- A byte after which no token comes. -/
def IsTrailing (index : TokenIndex) (offset : Nat) : Prop :=
  ∀ span ∈ index.spans, span.stop ≤ offset

theorem exists_of_blank {text : String} {offset : Nat} {c : Char}
    (read : charAt? text.toList offset = some c) (blank : isBlank c = true) :
    ∃ token, (build text).tokenOfByte[offset]? = some token ∧
      ((build text).IsNext offset token ∨
        (build text).IsTrailing offset ∧ token = (build text).spans.length - 1) := by
  have within := isSome_charAt?_iff.mp (Option.isSome_of_eq_some read)
  have belongs := @getElem?_cover_eq _ _ 0 _ _ (ordered_build text) (Nat.zero_le _) within
  rw [Nat.sub_zero, Nat.zero_add] at belongs
  refine ⟨_, belongs, ?_⟩
  cases first : (build text).spans.findIdx? fun span => offset < span.stop with
  | none =>
      refine .inr ⟨?_, rfl⟩
      intro span member
      simpa using List.findIdx?_eq_none_iff.mp first span member
  | some token =>
      obtain ⟨inside, ends, earlier⟩ := List.findIdx?_eq_some_iff_getElem.mp first
      have found := List.getElem?_eq_getElem inside
      rw [Option.map_some, Option.getD_some, Nat.zero_add]
      refine .inl ⟨⟨_, found, ?_⟩, ?_⟩
      · apply Nat.lt_of_not_le
        intro low
        have solid := solid_of_mem_spans (List.mem_of_getElem? found) low (by simpa using ends) read
        rw [blank] at solid
        cases solid
      · intro span member
        obtain ⟨k, less, rfl⟩ := List.mem_take_iff_getElem.mp member
        simpa using earlier k (by omega)

theorem exists_token {text : String} (some : (build text).spans ≠ []) {offset : Nat} {c : Char}
    (read : charAt? text.toList offset = .some c) :
    ∃ token span, (build text).tokenOfByte[offset]? = .some token ∧
      (build text).spans[token]? = .some span ∧
      (isBlank c = false → span.start ≤ offset ∧ offset < span.stop) ∧
      (isBlank c = true → offset < span.start ∨ token + 1 = (build text).spans.length) := by
  cases blank : isBlank c with
  | false =>
      obtain ⟨index, inside, low, high⟩ := exists_index_of_charAt? read
      obtain ⟨token, belongs, span, found, bounds⟩ := exists_holds inside blank low high
      exact ⟨token, span, belongs, found, fun _ => bounds, nofun⟩
  | true =>
      obtain ⟨token, belongs, place⟩ := exists_of_blank read blank
      have within := lt_of_mem_tokenOfByte some (List.mem_of_getElem? belongs)
      refine ⟨token, _, belongs, List.getElem?_eq_getElem within, nofun, fun _ => ?_⟩
      rcases place with ⟨⟨span, found, before⟩, -⟩ | ⟨-, last⟩
      · obtain ⟨_, rfl⟩ := List.getElem?_eq_some_iff.mp found
        exact .inl before
      · omega

/-! The index of a text. -/

/-- An index by the maximal runs of a text. -/
structure Tokenises (index : TokenIndex) (text : String) : Prop where
  tokens : ∀ span, span ∈ index.spans ↔ ∃ before run after, IsRun text.toList before run after ∧
    span = ⟨byteLength before, byteLength before + byteLength run⟩
  increasing : index.spans.Pairwise fun first second => first.stop ≤ second.start
  bytes : index.tokenOfByte.length = byteLength text.toList
  inside : ∀ (token : Nat) (span : Span), index.spans[token]? = some span → ∀ offset,
    span.start ≤ offset → offset < span.stop → index.tokenOfByte[offset]? = some token
  blank : ∀ offset c, charAt? text.toList offset = some c → isBlank c = true →
    ∃ token, index.tokenOfByte[offset]? = some token ∧
      (index.IsNext offset token ∨ index.IsTrailing offset ∧ token = index.spans.length - 1)
  none : index.spans = [] → ∀ token ∈ index.tokenOfByte, token = 0

theorem tokenises_build (text : String) : (build text).Tokenises text where
  tokens _ := mem_spans_build_iff
  increasing := (ordered_build text).pairwise
  bytes := length_tokenOfByte text
  inside := by
    intro token span found offset low high
    have belongs := @getElem?_cover _ 0 0 _ _ _ _ (ordered_build text) found low high
    rwa [Nat.zero_add] at belongs
  blank _ _ := exists_of_blank
  none := by
    intro none token member
    have bound : token ≤ 0 + (build text).spans.length - 1 := le_of_mem_cover member
    rw [none] at bound
    exact Nat.le_zero.mp bound

end TokenIndex

/-! Look-ups. -/

namespace Document

variable {document : Document} {key : LayerKey} {layer : Layer}

theorem tokenAt_outcome (present : document.layers.get? key = some layer) (offset : Nat) :
    (document.tokenAt key offset).outcome = layer.tokenAt key offset := by
  rw [tokenAt, Document.layer, present]
  rfl

theorem tokenSpan_outcome (present : document.layers.get? key = some layer) (token : Nat) :
    (document.tokenSpan key token).outcome = layer.tokenSpan key token := by
  rw [tokenSpan, Document.layer, present]
  rfl

theorem tokenText_outcome (present : document.layers.get? key = some layer) (token : Nat) :
    (document.tokenText key token).outcome = layer.tokenText key token := by
  rw [tokenText, Document.layer, present]
  rfl

/-- What a document answers about the bytes of a layer with this text. -/
structure LooksUp (document : Document) (key : LayerKey) (text : String) : Prop where
  token : (TokenIndex.build text).spans ≠ [] → ∀ offset c, charAt? text.toList offset = some c →
    ∃ token before run after, IsRun text.toList before run after ∧
      (document.tokenAt key offset).outcome = .ok token ∧
      (document.tokenSpan key token).outcome =
        .ok ⟨byteLength before, byteLength before + byteLength run⟩ ∧
      (document.tokenText key token).outcome = .ok (String.ofList run) ∧
      (isBlank c = false →
        byteLength before ≤ offset ∧ offset < byteLength before + byteLength run) ∧
      (isBlank c = true →
        offset < byteLength before ∨ token + 1 = (TokenIndex.build text).spans.length)
  beyond : (TokenIndex.build text).spans ≠ [] → ∀ offset, byteLength text.toList ≤ offset →
    (document.tokenAt key offset).outcome =
      .error (.offsetOutOfRange key offset (byteLength text.toList))
  none : (TokenIndex.build text).spans = [] → ∀ offset,
    (document.tokenAt key offset).outcome = .error (.tokenOutOfRange key 0 0)

theorem looksUp (present : document.layers.get? key = some layer) :
    document.LooksUp key layer.text where
  token := by
    intro some offset c read
    obtain ⟨token, span, belongs, found, solid, blank⟩ := TokenIndex.exists_token some read
    obtain ⟨before, run, after, isRun, rfl⟩ :=
      TokenIndex.mem_spans_build_iff.mp (List.mem_of_getElem? found)
    have spanned : layer.tokenSpan key token =
        .ok ⟨byteLength before, byteLength before + byteLength run⟩ := by
      rw [Layer.tokenSpan, layer.index_eq_build, found]
    refine ⟨token, before, run, after, isRun, ?_, ?_, ?_, solid, blank⟩
    · rw [tokenAt_outcome present, Layer.tokenAt, layer.index_eq_build,
        if_neg (by simpa using some), belongs]
    · rw [tokenSpan_outcome present, spanned]
    · rw [tokenText_outcome present, Layer.tokenText, spanned, ← slice_of_split isRun.split]
      rfl
  beyond := by
    intro some offset beyond
    rw [tokenAt_outcome present, Layer.tokenAt, layer.index_eq_build, if_neg (by simpa using some),
      List.getElem?_eq_none (by rwa [TokenIndex.length_tokenOfByte]), TokenIndex.length_tokenOfByte]
  none := by
    intro none offset
    rw [tokenAt_outcome present, Layer.tokenAt, layer.index_eq_build, none]
    rfl

end Document

/-- The index of a text is the one by its maximal runs, and a document in which the text is a layer
answers accordingly at every offset. -/
theorem TokenIndex.build_maximal_runs (text : String) :
    (build text).Tokenises text ∧
      ∀ (document : Document) (key : LayerKey) (layer : Layer),
        document.layers.get? key = some layer → layer.text = text → document.LooksUp key text := by
  refine ⟨tokenises_build text, ?_⟩
  rintro document key layer present rfl
  exact Document.looksUp present

/-! Blanks of one and of several bytes, before, between and after the tokens. -/

def Document.wideBlanks : Document :=
  Document.empty.insertPath "mlp.lemmas" " õun\u3000\u3000ära\n "

theorem TokenIndex.build_maximal_runs_wideBlanks :
    Document.wideBlanks.layers.get? ⟨"mlp", some "lemmas"⟩ =
        some (.ofText " õun\u3000\u3000ära\n ") ∧
      Document.wideBlanks.LooksUp ⟨"mlp", some "lemmas"⟩ " õun\u3000\u3000ära\n " := by
  have present : Document.wideBlanks.layers.get? ⟨"mlp", some "lemmas"⟩ =
      some (.ofText " õun\u3000\u3000ära\n ") := by decide
  exact ⟨present, (build_maximal_runs _).2 _ _ _ present rfl⟩

end Concordance
