import Concordance.Proofs.Match.Filters
import Concordance.Proofs.Matcher.Order
import Concordance.Proofs.Query.Recall

/-!
Choosing the nearest matches.  A node that chooses filters its matches, and nodes above it that do
not look at positions keep that relation.  A grammar in which no node chooses below one about
positions finds something exactly if it does without any choice, and finds nothing else.
-/

namespace Concordance

theorem Operation.Allows.matchingAll {operation : Operation} {childCount : Nat}
    {slop : Option Nat} {matchFirst : Bool}
    (allows : operation.Allows childCount slop matchFirst) :
    operation.Allows childCount slop false :=
  { allows with matchFirstPlace := nofun }

namespace Grammar

mutual

/-- The grammar in which no node chooses among its matches. -/
def matchingAll : Grammar → Grammar
  | terminal t => terminal t
  | composite name operation children slop _ =>
    composite name operation (matchingAllOf children) slop false

def matchingAllOf : List Grammar → List Grammar
  | [] => []
  | child :: rest => child.matchingAll :: matchingAllOf rest

end

mutual

/-- No node chooses among its matches. -/
def MatchesAll : Grammar → Prop
  | terminal _ => True
  | composite _ _ children _ matchFirst => matchFirst = false ∧ AllMatchAll children

def AllMatchAll : List Grammar → Prop
  | [] => True
  | child :: rest => child.MatchesAll ∧ AllMatchAll rest

end

mutual

/-- No node chooses among its matches below a node about positions. -/
def PositionsMatchAll : Grammar → Prop
  | terminal _ => True
  | composite _ operation children _ _ =>
    (operation.isPositional = true → AllMatchAll children) ∧ AllPositionsMatchAll children

def AllPositionsMatchAll : List Grammar → Prop
  | [] => True
  | child :: rest => child.PositionsMatchAll ∧ AllPositionsMatchAll rest

end

/-! The grammar without choices. -/

theorem matchingAllOf_eq_map (children : List Grammar) :
    matchingAllOf children = children.map matchingAll := by
  induction children with
  | nil => rfl
  | cons child rest ih => rw [matchingAllOf, ih, List.map_cons]

mutual

theorem matchingAll_eq_self : ∀ grammar : Grammar, grammar.MatchesAll →
    grammar.matchingAll = grammar
  | terminal t, _ => rfl
  | composite name operation children slop matchFirst, full => by
      obtain ⟨rfl, below⟩ := full
      rw [matchingAll, matchingAllOf_eq_self children below]

theorem matchingAllOf_eq_self : ∀ children : List Grammar, AllMatchAll children →
    matchingAllOf children = children
  | [], _ => rfl
  | child :: rest, full => by
      rw [matchingAllOf, matchingAll_eq_self child full.1, matchingAllOf_eq_self rest full.2]

end

mutual

theorem wellFormed_matchingAll : ∀ grammar : Grammar, grammar.WellFormed →
    grammar.matchingAll.WellFormed
  | terminal t, valid => valid
  | composite name operation children slop matchFirst, valid => by
      rw [matchingAll, WellFormed, Operation.fault?_eq_none_iff, matchingAllOf_eq_map,
        List.length_map, ← matchingAllOf_eq_map]
      exact ⟨valid.allows.matchingAll, allWellFormed_matchingAllOf children valid.2⟩

theorem allWellFormed_matchingAllOf : ∀ children : List Grammar, AllWellFormed children →
    AllWellFormed (matchingAllOf children)
  | [], valid => valid
  | child :: rest, valid =>
      ⟨wellFormed_matchingAll child valid.1, allWellFormed_matchingAllOf rest valid.2⟩

end

mutual

theorem terminals_matchingAll : ∀ grammar : Grammar,
    grammar.matchingAll.terminals = grammar.terminals
  | terminal t => rfl
  | composite name operation children slop matchFirst => by
      rw [matchingAll, terminals, terminals, terminalsOfAll_matchingAllOf children]

theorem terminalsOfAll_matchingAllOf : ∀ children : List Grammar,
    terminalsOfAll (matchingAllOf children) = terminalsOfAll children
  | [] => rfl
  | child :: rest => by
      rw [matchingAllOf, terminalsOfAll, terminalsOfAll, terminals_matchingAll child,
        terminalsOfAll_matchingAllOf rest]

end

/-! What is found. -/

variable {document : Document}

mutual

theorem filters_results : ∀ grammar : Grammar, grammar.WellFormed → grammar.PositionsMatchAll →
    Match.Filters (grammar.results document) (grammar.matchingAll.results document)
  | terminal t, _, _ => .refl _
  | composite name operation children slop matchFirst, valid, positions => by
      have each := forall₂_filters_results children valid.2 positions.2
      -- Below a node about positions nothing is chosen, so only the node itself may filter.
      have below (positional : operation.isPositional = true) :=
        matchingAllOf_eq_self children (positions.1 positional)
      rw [results, results, matchingAll, matcher, matcher]
      cases operation with
      | intersect =>
          rw [combined, combined, Matcher.results, Matcher.results, resultsOfAll_matchers,
            resultsOfAll_matchers]
          exact .intersection matchFirst each
      | union =>
          rw [combined, combined, Matcher.results, Matcher.results, resultsOfAll_matchers,
            resultsOfAll_matchers]
          exact .union each
      | not =>
          obtain ⟨child, rfl⟩ := valid.eq_singleton_of_not
          cases each with
          | cons filters _ =>
              change Match.Filters (Match.negation (child.results document))
                (Match.negation (child.matchingAll.results document))
              rw [filters.negation_eq]
              exact .refl _
      | concat =>
          rw [below rfl]
          exact .refl _
      | gap =>
          rw [below rfl]
          exact .finish matchFirst _
      | layerMatch =>
          rw [below rfl]
          exact .refl _

theorem forall₂_filters_results : ∀ children : List Grammar, AllWellFormed children →
    AllPositionsMatchAll children →
      List.Forall₂ Match.Filters (children.map (results document))
        ((matchingAllOf children).map (results document))
  | [], _, _ => .nil
  | child :: rest, valid, positions =>
      .cons (filters_results child valid.1 positions.1)
        (forall₂_filters_results rest valid.2 positions.2)

end

/-- Where choices are made only outside of nodes about positions, they leave out matches but bring
nothing in, and something is found exactly if it is without them. -/
theorem find_matchingAll {grammar : Grammar} (valid : grammar.validate = .ok ())
    (positions : grammar.PositionsMatchAll) (present : grammar.PresentIn document) :
    ∃ matcher full found all, Matcher.ofGrammar grammar = .ok matcher ∧
      Matcher.ofGrammar grammar.matchingAll = .ok full ∧
      (matcher.find document).outcome = .ok found ∧ (full.find document).outcome = .ok all ∧
      (∀ one ∈ found, ∃ other ∈ all, one.same other = true) ∧ (found ≠ [] ↔ all ≠ []) ∧
      (matcher.isMatch document).outcome = (full.isMatch document).outcome := by
  rw [validate_eq_ok_iff] at valid
  have fullValid := wellFormed_matchingAll grammar valid
  have fullPresent : grammar.matchingAll.PresentIn document := by
    rwa [PresentIn, terminals_matchingAll]
  have filters := @filters_results document grammar valid positions
  refine ⟨_, _, _, _, ofGrammar_eq_ok valid, ofGrammar_eq_ok fullValid,
    find_matcher valid present, find_matcher fullValid fullPresent, ?_, ?_, ?_⟩
  · exact fun one member => filters.exists_same member
  · rw [ne_eq, ne_eq, filters.eq_nil_iff]
  · rw [isMatch_matcher valid present, isMatch_matcher fullValid fullPresent, filters.isEmpty_eq]

/-! Of two pairs that overlap one is chosen, and below a negation a gap chooses. -/

def nearestHens : Grammar :=
  let pairs := combine .intersect [exact "" "text" ["red", "hen"], exact "" "text" ["hen"]]
  let sequence := gap (some 2) [exact "" "text" ["red"], exact "" "text" ["hen"]]
  combine .union [pairs.matchingFirst, combine .not [sequence.matchingFirst]]

theorem find_matchingAll_nearestHens :
    nearestHens.validate = .ok () ∧ nearestHens.PositionsMatchAll ∧
      nearestHens.PresentIn .redHen ∧
      ∃ matcher full found all, Matcher.ofGrammar nearestHens = .ok matcher ∧
        Matcher.ofGrammar nearestHens.matchingAll = .ok full ∧
        (matcher.find .redHen).outcome = .ok found ∧ (full.find .redHen).outcome = .ok all ∧
        (∀ one ∈ found, ∃ other ∈ all, one.same other = true) ∧ (found ≠ [] ↔ all ≠ []) ∧
        (matcher.isMatch .redHen).outcome = (full.isMatch .redHen).outcome := by
  have valid : nearestHens.validate = .ok () := rfl
  have positions : nearestHens.PositionsMatchAll := by
    simp [nearestHens, combine, gap, exact, matchingFirst, PositionsMatchAll,
      AllPositionsMatchAll, MatchesAll, AllMatchAll, Operation.isPositional]
  have present : nearestHens.PresentIn .redHen := by decide
  exact ⟨valid, positions, present, find_matchingAll valid positions present⟩

end Grammar

end Concordance
