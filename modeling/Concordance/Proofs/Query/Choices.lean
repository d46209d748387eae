import Concordance.Proofs.Match.Tokenless
import Concordance.Proofs.Query.Direct

/-!
Choices between terminals.  A union leaves a choice, and below a negation a conjunction does: it is
enough that one of its children has no match.  Without choices a match of a grammar shows that all
terminals below an even number of negations are found.
-/

namespace Concordance

/-! Choices. -/

/-- Whether one child decides: for there to be a match, or for there to be none if `polarity` is
false. -/
def Operation.isChoice (polarity : Bool) : Operation → Bool
  | not => false
  | union => polarity
  | concat | gap | intersect | layerMatch => !polarity

namespace Grammar

mutual

/-- No choice between several children concerns a terminal below an even number of negations, or
below an odd number if `polarity` is false. -/
def ChoiceFree (polarity : Bool) : Grammar → Prop
  | terminal _ => True
  | composite _ operation children _ _ =>
    (operation.isChoice polarity = true →
      children.length ≤ 1 ∨ terminalsAtOfAll (operation.inside polarity) children = []) ∧
        AllChoiceFree (operation.inside polarity) children

def AllChoiceFree (polarity : Bool) : List Grammar → Prop
  | [] => True
  | child :: rest => child.ChoiceFree polarity ∧ AllChoiceFree polarity rest

end

/-! Terminals of a match. -/

variable {document : Document} {name : String} {operation : Operation} {children : List Grammar}
  {slop : Option Nat} {matchFirst polarity : Bool}

theorem anyTokenless_results_singleton {child : Grammar}
    (conjunctive : operation.isChoice false = true)
    (given : Match.AnyTokenless (child.results document)) :
    Match.AnyTokenless ((composite name operation [child] slop matchFirst).results document) := by
  have single : Matcher.resultsOfAll document (matchers [child]) = [child.results document] :=
    resultsOfAll_matchers document [child]
  rw [results, matcher]
  cases operation with
  | not => cases conjunctive
  | union => cases conjunctive
  | concat =>
      rw [combined, Matcher.results, single]
      exact given.concatenation_singleton
  | gap =>
      rw [combined, Matcher.results, single]
      exact given.gap_singleton slop matchFirst
  | intersect =>
      rw [combined, Matcher.results, single]
      exact given.intersection_singleton matchFirst
  | layerMatch =>
      rw [combined, Matcher.results, single]
      exact given.layerMatch_singleton

theorem anyTokenless_results_union {child : Grammar} (member : child ∈ children)
    (given : Match.AnyTokenless (child.results document)) :
    Match.AnyTokenless ((composite name .union children slop matchFirst).results document) := by
  rw [results, matcher, combined, Matcher.results, resultsOfAll_matchers]
  exact Match.anyTokenless_union (List.mem_map_of_mem member) given

/-- What shows that terminals are found: a match, or the lack of one without tokens if `polarity` is
false.  A plain lack would not do, for the matches of a child may fail a test of positions. -/
def Evidence (document : Document) : (polarity : Bool) → Grammar → Prop
  | true, grammar => grammar.results document ≠ []
  | false, grammar => ¬ Match.AnyTokenless (grammar.results document)

theorem eq_singleton_of_mem {child : Grammar} (single : children.length ≤ 1)
    (member : child ∈ children) : children = [child] := by
  obtain ⟨only, rfl⟩ := List.length_eq_one_iff.mp
    (Nat.le_antisymm single (List.length_pos_of_mem member))
  rw [List.mem_singleton.mp member]

theorem evidence_of_conjunctive {child : Grammar} (conjunctive : operation.isChoice false = true)
    (single : children.length ≤ 1) (member : child ∈ children)
    (evidence : Evidence document false (composite name operation children slop matchFirst)) :
    Evidence document false child := by
  obtain rfl := eq_singleton_of_mem single member
  exact fun given => evidence (anyTokenless_results_singleton conjunctive given)

theorem evidence_of_not {child : Grammar}
    (evidence : Evidence document polarity (composite name .not [child] slop matchFirst)) :
    Evidence document (!polarity) child := by
  cases polarity with
  | true =>
      have missing : child.results document = [] := results_not_ne_nil_iff.mp evidence
      intro given
      rw [missing] at given
      obtain ⟨part, member, -⟩ := given
      cases member
  | false =>
      intro missing
      apply evidence
      rw [results, matcher]
      show Match.AnyTokenless (Match.negation (child.results document))
      rw [missing]
      exact Match.anyTokenless_negation_nil

/-- What shows the terminals of a node shows those of its children, one by one. -/
theorem Evidence.child (valid : (composite name operation children slop matchFirst).WellFormed)
    (single : operation.isChoice polarity = true → children.length ≤ 1)
    (evidence : Evidence document polarity (composite name operation children slop matchFirst)) :
    ∀ child ∈ children, Evidence document (operation.inside polarity) child := by
  intro child member
  cases operation with
  | not =>
      obtain ⟨only, rfl⟩ := valid.eq_singleton_of_not
      obtain rfl := List.mem_singleton.mp member
      exact evidence_of_not evidence
  | union =>
      cases polarity with
      | true =>
          obtain rfl := eq_singleton_of_mem (single rfl) member
          obtain ⟨other, otherMember, found⟩ := results_union_ne_nil_iff.mp evidence
          obtain rfl := List.mem_singleton.mp otherMember
          exact found
      | false => exact fun given => evidence (anyTokenless_results_union member given)
  | intersect =>
      cases polarity with
      | true => exact (results_intersect_ne_nil_iff.mp evidence).2 child member
      | false => exact evidence_of_conjunctive rfl (single rfl) member evidence
  | concat =>
      cases polarity with
      | true => exact results_ne_nil_of_positional rfl evidence child member
      | false => exact evidence_of_conjunctive rfl (single rfl) member evidence
  | gap =>
      cases polarity with
      | true => exact results_ne_nil_of_positional rfl evidence child member
      | false => exact evidence_of_conjunctive rfl (single rfl) member evidence
  | layerMatch =>
      cases polarity with
      | true => exact results_ne_nil_of_positional rfl evidence child member
      | false => exact evidence_of_conjunctive rfl (single rfl) member evidence

mutual

/-- Without choices, a match shows that every terminal below an even number of negations is found.
-/
theorem results_ne_nil_of_evidence : ∀ {polarity : Bool} (grammar : Grammar), grammar.WellFormed →
    grammar.ChoiceFree polarity → Evidence document polarity grammar →
      ∀ t ∈ grammar.terminalsAt polarity, t.scanner.results document ≠ []
  | true, terminal t, _, _, evidence => by
      refine List.forall_mem_singleton.mpr ?_
      rw [← results_terminal]
      exact evidence
  | false, terminal _, _, _, _ => nofun
  | polarity, composite _ operation children _ _, valid, choiceFree, evidence => by
      intro t member
      -- A choice that concerns a terminal is one between at most one child.
      by_cases none : terminalsAtOfAll (operation.inside polarity) children = []
      · rw [terminalsAt, none] at member
        cases member
      · have single (choice : operation.isChoice polarity = true) : children.length ≤ 1 :=
          (choiceFree.1 choice).resolve_right none
        exact results_ne_nil_of_evidenceOfAll children valid.2 choiceFree.2
          (evidence.child valid single) t member

theorem results_ne_nil_of_evidenceOfAll : ∀ {polarity : Bool} (children : List Grammar),
    AllWellFormed children → AllChoiceFree polarity children →
      (∀ child ∈ children, Evidence document polarity child) →
        ∀ t ∈ terminalsAtOfAll polarity children, t.scanner.results document ≠ []
  | _, [], _, _, _ => nofun
  | polarity, child :: rest, valid, choiceFree, evidence => by
      rw [List.forall_mem_cons] at evidence
      rw [terminalsAtOfAll, List.forall_mem_append]
      exact ⟨results_ne_nil_of_evidence child valid.1 choiceFree.1 evidence.1,
        results_ne_nil_of_evidenceOfAll rest valid.2 choiceFree.2 evidence.2⟩

end

end Grammar

end Concordance
