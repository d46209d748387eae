import Concordance.Proofs.Match.Members
import Concordance.Proofs.Matcher.Errors

/-!
Where the contents of matches come from.  A match can be spelled out token by token, with a scanner
of the tree for every token: the scanner has a layer that goes by the feature, and in it the token
has its number and its text.
-/

namespace Concordance

open Text

/-- A layer has a token of this number, and this is its text. -/
def Document.HasToken (document : Document) (key : LayerKey) (token : Nat) (text : String) : Prop :=
  ∃ count, (document.tokenCount key).outcome = .ok count ∧ token < count ∧
    (document.tokenText key token).outcome = .ok text

theorem Document.hasToken {document : Document} {key : LayerKey} {layer : Layer} {token : Nat}
    (present : document.layers.get? key = some layer)
    (within : token < (TokenIndex.build layer.text).spans.length) :
    document.HasToken key token (layer.textOf token) := by
  have found : document.layer key = .ok layer := by rw [Document.layer, present]
  refine ⟨_, ?_, within, ?_⟩
  · rw [tokenCount, tokenIndex, found, ← layer.index_eq_build]
    rfl
  · rw [tokenText, found, ← Layer.tokenText_eq key within]
    rfl

namespace Match

/-- A token of a match, with the scanner that found it there. -/
structure Origin where
  scanner : Scanner
  token : Nat
  text : String

def ofOrigins (origins : List Origin) : Match :=
  ⟨origins.map Origin.token, origins.map fun origin => origin.scanner.key.feature,
    origins.map Origin.text⟩

theorem ofOrigins_append (origins others : List Origin) :
    ofOrigins (origins ++ others) = (ofOrigins origins).append (ofOrigins others) := by
  simp only [ofOrigins, append, List.map_append]

/-- Whether a match is spelled out by tokens of a document that some of the scanners found. -/
def ComesFrom (document : Document) (scanners : List Scanner) (found : Match) : Prop :=
  ∃ origins : List Origin, found = ofOrigins origins ∧ ∀ origin ∈ origins,
    origin.scanner ∈ scanners ∧
      document.HasToken origin.scanner.key origin.token origin.text

variable {document : Document} {scanners : List Scanner}

theorem mergeClosed_comesFrom : MergeClosed (ComesFrom document scanners) where
  empty := ⟨[], rfl, nofun⟩
  append := by
    rintro _ _ ⟨origins, rfl, all⟩ ⟨others, rfl, allOthers⟩
    exact ⟨origins ++ others, (ofOrigins_append origins others).symm,
      List.forall_mem_append.mpr ⟨all, allOthers⟩⟩

end Match

/-! Scanners. -/

namespace Scanner

variable {scanner : Scanner} {document : Document} {found : Match}

theorem comesFrom_of_mem_results (member : found ∈ scanner.results document) :
    found.ComesFrom document [scanner] := by
  obtain ⟨layer, present, bytes, occurs, rfl⟩ := exists_of_mem_results member
  obtain ⟨less, inside, spans⟩ := bounds_of_mem_occurrences occurs
  have last := Layer.tokenOf_lt spans (show bytes.stop - 1 < byteLength layer.text.toList by omega)
  refine ⟨(layer.matchOver scanner.key.feature bytes).tokens.map fun token =>
    ⟨scanner, token, layer.textOf token⟩, ?_, ?_⟩
  · simp [Layer.matchOver, Match.ofOrigins, Function.comp_def, List.map_const']
  · rw [List.forall_mem_map]
    intro token inRun
    obtain ⟨low, high⟩ := List.mem_range'_1.mp inRun
    have within : token < (TokenIndex.build layer.text).spans.length := by omega
    exact ⟨List.mem_singleton_self scanner, Document.hasToken present within⟩

end Scanner

/-! Matchers. -/

namespace Matcher

variable {document : Document} {Kept : Match → Prop}

mutual

/-- What is true of all matches of the scanners and kept by merging is true of all matches. -/
theorem forall_mem_results (closed : Match.MergeClosed Kept) : ∀ matcher : Matcher,
    (∀ scanner ∈ matcher.scanners, ∀ found ∈ scanner.results document, Kept found) →
      ∀ found ∈ matcher.results document, Kept found
  | scan scanner, given => given scanner (List.mem_singleton_self scanner)
  | intersection components matchFirst, given => fun found member =>
      closed.merged (forall_mem_resultsOfAll closed components given) found
        (Match.mem_of_mem_finish member)
  | union components, given => fun found member => by
      obtain ⟨list, listMember, inside⟩ :=
        List.mem_flatten.mp (Match.mem_of_mem_canonicalFirst member)
      exact forall_mem_resultsOfAll closed components given list listMember found inside
  | concatenation components, given =>
      closed.merged (forall_mem_resultsOfAll closed components given)
  | gap components slop matchFirst, given => fun found member =>
      closed.merged (forall_mem_resultsOfAll closed components given) found
        (Match.mem_of_mem_finish member)
  | layerMatch components, given =>
      closed.merged (forall_mem_resultsOfAll closed components given)
  | negation child, _ => fun found member => by
      rw [results, Match.negation] at member
      split at member
      · rw [List.mem_singleton.mp member]
        exact closed.empty
      · cases member

theorem forall_mem_resultsOfAll (closed : Match.MergeClosed Kept) : ∀ components : List Matcher,
    (∀ scanner ∈ scannersOfAll components, ∀ found ∈ scanner.results document, Kept found) →
      ∀ list ∈ resultsOfAll document components, ∀ found ∈ list, Kept found
  | [], _ => nofun
  | component :: rest, given => by
      rw [scannersOfAll, List.forall_mem_append] at given
      exact List.forall_mem_cons.mpr ⟨forall_mem_results closed component given.1,
        forall_mem_resultsOfAll closed rest given.2⟩

end

theorem comesFrom_of_mem_results {matcher : Matcher} {found : Match}
    (member : found ∈ matcher.results document) : found.ComesFrom document matcher.scanners := by
  refine forall_mem_results Match.mergeClosed_comesFrom matcher ?_ found member
  intro scanner inTree found foundMember
  obtain ⟨origins, spelled, all⟩ := Scanner.comesFrom_of_mem_results foundMember
  refine ⟨origins, spelled, fun origin inside => ?_⟩
  obtain ⟨own, hasToken⟩ := all origin inside
  exact ⟨List.mem_singleton.mp own ▸ inTree, hasToken⟩

/-- The three lists of a match run in parallel, and each place of them names a token of the layer of
some scanner in the tree: its feature, its number and its text. -/
theorem find_provenance {document : Document} {matcher : Matcher} {all : List Match} {found : Match}
    (finds : (matcher.find document).outcome = .ok all) (member : found ∈ all) :
    found.features.length = found.tokens.length ∧ found.texts.length = found.tokens.length ∧
      ∀ i < found.tokens.length, ∃ scanner ∈ matcher.scanners, ∃ token text,
        found.tokens[i]? = some token ∧ found.features[i]? = some scanner.key.feature ∧
          found.texts[i]? = some text ∧ document.HasToken scanner.key token text := by
  rw [find_outcome, Document.require_eq_ok_iff] at finds
  obtain ⟨-, rfl⟩ := finds
  obtain ⟨origins, rfl, comes⟩ := comesFrom_of_mem_results member
  simp only [Match.ofOrigins, List.length_map, List.getElem?_map, true_and]
  intro i within
  obtain ⟨inTree, hasToken⟩ := comes origins[i] (List.getElem_mem within)
  refine ⟨origins[i].scanner, inTree, origins[i].token, origins[i].text, ?_, ?_, ?_, hasToken⟩ <;>
    rw [List.getElem?_eq_getElem within, Option.map_some]

end Matcher

/-! Two layers go by one feature.  The tag and the lemma of the first token are the same match, and
the one given first stands, with its text. -/

def Document.tagged : Document :=
  (Document.empty.insertPath "mlp.lemmas" "be red").insertPath "mlp.tags" "VERB ADJ"

def Scanner.ofWord (path word : String) : Scanner :=
  .ofTerms [word] path true false

namespace Matcher

def verbThenRed : Matcher :=
  .gap [.union [scan (.ofWord "mlp.tags" "VERB"), scan (.ofWord "mlp.lemmas" "be")],
    .negation (scan (.ofWord "mlp.lemmas" "blue")), scan (.ofWord "mlp.lemmas" "red")]
    (some 2) false

def verbThenRedFound : Match :=
  ⟨[0, 1], ["mlp", "mlp"], ["VERB", "red"]⟩

private theorem verbThenRed_finds :
    (verbThenRed.find .tagged).outcome = .ok [verbThenRedFound] := by
  have verb : (Scanner.ofWord "mlp.tags" "VERB").results .tagged = [⟨[0], ["mlp"], ["VERB"]⟩] := by
    decide +kernel
  have be : (Scanner.ofWord "mlp.lemmas" "be").results .tagged = [⟨[0], ["mlp"], ["be"]⟩] := by
    decide +kernel
  have blue : (Scanner.ofWord "mlp.lemmas" "blue").results .tagged = [] := by
    decide +kernel
  have red : (Scanner.ofWord "mlp.lemmas" "red").results .tagged = [⟨[1], ["mlp"], ["red"]⟩] := by
    decide +kernel
  rw [find_outcome, Document.require_eq_ok_iff]
  refine ⟨by decide, ?_⟩
  have verbFirst : Match.union [[⟨[0], ["mlp"], ["VERB"]⟩], [⟨[0], ["mlp"], ["be"]⟩]] =
      [⟨[0], ["mlp"], ["VERB"]⟩] := by
    simp [Match.union, Match.canonicalFirst, Match.canonical, List.mergeSort, Match.keepLast,
      Match.le, Match.same]
  simp only [verbThenRed, results, resultsOfAll, verb, be, blue, red, verbFirst]
  simp [Match.gap, Match.negation, Match.finish, Match.merged, Match.combinations_eq,
    Match.choices, Match.canonical, Match.keepLast, Match.append, Match.empty, Match.isWithin, Match.linked,
    verbThenRedFound]

theorem find_provenance_tagged :
    (verbThenRed.find .tagged).outcome = .ok [verbThenRedFound] ∧
      verbThenRedFound.features.length = verbThenRedFound.tokens.length ∧
      verbThenRedFound.texts.length = verbThenRedFound.tokens.length ∧
      ∀ i < verbThenRedFound.tokens.length, ∃ scanner ∈ verbThenRed.scanners, ∃ token text,
        verbThenRedFound.tokens[i]? = some token ∧
          verbThenRedFound.features[i]? = some scanner.key.feature ∧
          verbThenRedFound.texts[i]? = some text ∧
          Document.tagged.HasToken scanner.key token text :=
  ⟨verbThenRed_finds, find_provenance verbThenRed_finds (List.mem_singleton_self verbThenRedFound)⟩

end Matcher

end Concordance
