import Concordance.Matcher.Build
import Concordance.Proofs.Grammar.Validation
import Concordance.Proofs.Matcher.Results

/-!
Matchers of grammars.  A well-formed grammar always has a matcher, and whether the matcher finds
something goes back to the children of a node.
-/

namespace Concordance

open Text Pattern

/-! Scanners of patterns and terminals. -/

/-- The scanner of a pattern, one that finds nothing where the pattern does not compile. -/
def Scanner.ofCompiled (pattern path : String) (caseSensitive : Bool) : Scanner :=
  ⟨.parse path, (compile? caseSensitive pattern).getD .fail⟩

theorem Scanner.ofPattern_eq_ok {pattern path : String} {caseSensitive : Bool}
    (compiles : (compile? caseSensitive pattern).isSome = true) :
    ofPattern pattern path caseSensitive = .ok (ofCompiled pattern path caseSensitive) := by
  obtain ⟨regex, compiled⟩ := Option.isSome_iff_exists.mp compiles
  rw [ofPattern, ofCompiled, compiled]
  rfl

namespace Terminal

def scanner (terminal : Terminal) : Scanner :=
  match terminal.matcher with
  | .exact terms => .ofTerms terms terminal.layer terminal.caseSensitive terminal.wholeWord
  | .regex pattern => .ofCompiled pattern terminal.layer terminal.caseSensitive

def key (terminal : Terminal) : LayerKey :=
  .parse terminal.layer

theorem scanner_key (terminal : Terminal) : terminal.scanner.key = terminal.key := by
  rw [scanner]
  cases terminal.matcher with
  | exact terms => rfl
  | regex pattern => rfl

theorem ofTerminal_eq_ok {terminal : Terminal} {location : Location}
    (valid : terminal.error? location = none) :
    Matcher.ofTerminal terminal = .ok (.scan terminal.scanner) := by
  rw [Matcher.ofTerminal, scanner]
  cases shape : terminal.matcher with
  | exact terms => rfl
  | regex pattern =>
      dsimp only
      rw [Scanner.ofPattern_eq_ok ((pattern_of_valid valid shape).2 terminal.caseSensitive)]
      rfl

end Terminal

namespace Grammar

/-- A node whose components are built; a negation without any finds nothing. -/
def combined (operation : Operation) (components : List Matcher) (slop : Option Nat)
    (matchFirst : Bool) : Matcher :=
  match operation with
  | .intersect => .intersection components matchFirst
  | .union => .union components
  | .concat => .concatenation components
  | .gap => .gap components slop matchFirst
  | .layerMatch => .layerMatch components
  | .not => (components.head?.map Matcher.negation).getD (.union [])

mutual

/-- The matcher of a grammar, as far as its patterns compile. -/
def matcher : Grammar → Matcher
  | terminal t => .scan t.scanner
  | composite _ operation children slop matchFirst =>
    combined operation (matchers children) slop matchFirst

def matchers : List Grammar → List Matcher
  | [] => []
  | child :: rest => child.matcher :: matchers rest

end

theorem matchers_eq_map (children : List Grammar) : matchers children = children.map matcher := by
  induction children with
  | nil => rfl
  | cons child rest ih => rw [matchers, ih, List.map_cons]

theorem ofOperation_eq_ok {name : String} {operation : Operation} {components : List Matcher}
    {slop : Option Nat} {matchFirst : Bool} (some : components ≠ []) :
    Matcher.ofOperation name operation components slop matchFirst =
      .ok (combined operation components slop matchFirst) := by
  cases components with
  | nil => exact absurd rfl some
  | cons first rest => cases operation <;> rfl

mutual

theorem build_eq_ok : ∀ grammar : Grammar, grammar.WellFormed →
    Matcher.build grammar = .ok grammar.matcher
  | terminal t, valid => by
      rw [Matcher.build, matcher, Terminal.ofTerminal_eq_ok valid]
  | composite name operation children slop matchFirst, valid => by
      have some : matchers children ≠ [] := by
        rw [matchers_eq_map, ne_eq, List.map_eq_nil_iff]
        exact valid.children_ne_nil
      rw [Matcher.build, matcher, buildAll_eq_ok children valid.2, ok_bind, ofOperation_eq_ok some]

theorem buildAll_eq_ok : ∀ children : List Grammar, AllWellFormed children →
    Matcher.buildAll children = .ok (matchers children)
  | [], valid => rfl
  | child :: rest, valid => by
      rw [Matcher.buildAll, build_eq_ok child valid.1, ok_bind, buildAll_eq_ok rest valid.2,
        ok_bind]
      rfl

end

/-- A grammar has a matcher exactly if it is well-formed. -/
theorem ofGrammar_eq_ok_iff {grammar : Grammar} {found : Matcher} :
    Matcher.ofGrammar grammar = .ok found ↔ grammar.WellFormed ∧ grammar.matcher = found := by
  rw [Matcher.ofGrammar, bind_eq_ok_iff]
  constructor
  · intro given
    obtain ⟨⟨⟩, valid, built⟩ := given
    have wellFormed := validate_eq_ok_iff.mp valid
    rw [build_eq_ok grammar wellFormed] at built
    exact ⟨wellFormed, Except.ok.inj built⟩
  · intro given
    obtain ⟨valid, rfl⟩ := given
    exact ⟨(), validate_eq_ok_iff.mpr valid, build_eq_ok grammar valid⟩

theorem ofGrammar_eq_ok {grammar : Grammar} (valid : grammar.WellFormed) :
    Matcher.ofGrammar grammar = .ok grammar.matcher :=
  ofGrammar_eq_ok_iff.mpr ⟨valid, rfl⟩

mutual

theorem keys_matcher : ∀ grammar : Grammar, grammar.WellFormed →
    grammar.matcher.keys = grammar.terminals.map Terminal.key
  | terminal t, valid => by
      rw [matcher, Matcher.keys, terminals, Terminal.scanner_key]
      rfl
  | composite name operation children slop matchFirst, valid => by
      have all := keysOfAll_matchers children valid.2
      rw [matcher, terminals, ← all]
      cases operation with
      | intersect => rfl
      | union => rfl
      | concat => rfl
      | gap => rfl
      | layerMatch => rfl
      | not =>
          obtain ⟨child, rfl⟩ := valid.eq_singleton_of_not
          exact (List.append_nil _).symm

theorem keysOfAll_matchers : ∀ children : List Grammar, AllWellFormed children →
    Matcher.keysOfAll (matchers children) = (terminalsOfAll children).map Terminal.key
  | [], valid => rfl
  | child :: rest, valid => by
      rw [matchers, Matcher.keysOfAll, terminalsOfAll, List.map_append, keys_matcher child valid.1,
        keysOfAll_matchers rest valid.2]

end

/-! What is found. -/

/-- All matches of a grammar in a document that has its layers. -/
def results (document : Document) (grammar : Grammar) : List Match :=
  grammar.matcher.results document

variable {document : Document} {name : String} {children : List Grammar} {slop : Option Nat}
  {matchFirst : Bool}

theorem resultsOfAll_matchers (document : Document) (children : List Grammar) :
    Matcher.resultsOfAll document (matchers children) = children.map (results document) := by
  rw [Matcher.resultsOfAll_eq_map, matchers_eq_map, List.map_map]
  rfl

theorem results_terminal (t : Terminal) :
    (terminal t).results document = t.scanner.results document := by
  rw [results, matcher, Matcher.results]

theorem results_intersect_ne_nil_iff :
    (composite name .intersect children slop matchFirst).results document ≠ [] ↔
      children ≠ [] ∧ ∀ child ∈ children, child.results document ≠ [] := by
  rw [results, matcher, combined, Matcher.results, Match.intersection_ne_nil_iff,
    resultsOfAll_matchers, List.forall_mem_map, ne_eq, List.map_eq_nil_iff]

theorem results_union_ne_nil_iff :
    (composite name .union children slop matchFirst).results document ≠ [] ↔
      ∃ child ∈ children, child.results document ≠ [] := by
  rw [results, matcher, combined, Matcher.results, Match.union_ne_nil_iff, resultsOfAll_matchers]
  constructor
  · intro given
    obtain ⟨list, member, found⟩ := given
    obtain ⟨child, childMember, rfl⟩ := List.mem_map.mp member
    exact ⟨child, childMember, found⟩
  · intro given
    obtain ⟨child, member, found⟩ := given
    exact ⟨_, List.mem_map_of_mem member, found⟩

theorem results_not_ne_nil_iff {child : Grammar} :
    (composite name .not [child] slop matchFirst).results document ≠ [] ↔
      child.results document = [] := by
  rw [results, matcher]
  exact Match.negation_ne_nil_iff

theorem results_ne_nil_of_positional {operation : Operation} (positional : operation.isPositional)
    (found : (composite name operation children slop matchFirst).results document ≠ []) :
    ∀ child ∈ children, child.results document ≠ [] := by
  have each : ∀ list ∈ Matcher.resultsOfAll document (matchers children), list ≠ [] := by
    rw [results, matcher] at found
    cases operation with
    | concat => exact Match.forall_ne_nil_of_merged found
    | gap => exact Match.forall_ne_nil_of_merged (Match.finish_ne_nil_iff.mp found)
    | layerMatch => exact Match.forall_ne_nil_of_merged found
    | not => cases positional
    | union => cases positional
    | intersect => cases positional
  rw [resultsOfAll_matchers, List.forall_mem_map] at each
  exact each

/-- A positional node over a single terminal, or one that aligns a single child, finds something if
the child does. -/
theorem results_ne_nil_of_lone {operation : Operation} (positional : operation.isPositional)
    (slopPositive : slop ≠ some 0) {child : Grammar}
    (lone : (∃ t, child = terminal t) ∨ operation = .layerMatch)
    (found : child.results document ≠ []) :
    (composite name operation [child] slop matchFirst).results document ≠ [] := by
  have single : Matcher.resultsOfAll document (matchers [child]) = [child.results document] :=
    resultsOfAll_matchers document [child]
  rw [results, matcher]
  rcases lone with ⟨t, rfl⟩ | rfl
  · have runs : ∀ found ∈ (terminal t).results document,
        ∃ first count, found.tokens = List.range' first count := by
      intro found member
      rw [results_terminal] at member
      exact Scanner.tokens_of_mem_results member
    cases operation with
    | concat =>
        rw [combined, Matcher.results, single]
        exact (Match.concatenation_singleton_ne_nil_iff runs).mpr found
    | gap =>
        rw [combined, Matcher.results, single]
        exact (Match.gap_singleton_ne_nil_iff slopPositive runs).mpr found
    | layerMatch =>
        rw [combined, Matcher.results, single]
        exact Match.layerMatch_singleton_ne_nil_iff.mpr found
    | not => cases positional
    | union => cases positional
    | intersect => cases positional
  · rw [combined, Matcher.results, single]
    exact Match.layerMatch_singleton_ne_nil_iff.mpr found

end Grammar

end Concordance
