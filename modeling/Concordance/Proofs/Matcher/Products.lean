import Concordance.Proofs.Match.Products
import Concordance.Proofs.Matcher.Order

/-!
Combinators by the matches of their components.  Where every component finds its matches, a product
combinator finds what the choices that keep its rule merge to, and a union what any of the
components finds.
-/

namespace Concordance

namespace Matcher

/-- The components find these lists of matches, each its own. -/
def AllFind (document : Document) (components : List Matcher) (lists : List (List Match)) : Prop :=
  List.Forall₂ (fun component list => (component.find document).outcome = .ok list) components lists

variable {document : Document} {components : List Matcher} {lists : List (List Match)}

theorem AllFind.findAll_outcome (each : AllFind document components lists) :
    (findAll document components).outcome = .ok lists := by
  induction each with
  | nil => rfl
  | cons found _ ih =>
      rw [findAll, Traced.outcome_bind, found, ok_bind, Traced.outcome_bind, ih]
      rfl

theorem AllFind.increasing (each : AllFind document components lists) :
    ∀ list ∈ lists, Match.Increasing list := by
  induction each with
  | nil => nofun
  | @cons component list _ _ found _ ih =>
      rw [find_outcome, Document.require_eq_ok_iff] at found
      obtain ⟨-, rfl⟩ := found
      exact List.forall_mem_cons.mpr ⟨increasing_results document component, ih⟩

theorem AllFind.ne_nil (each : AllFind document components lists) (some : components ≠ []) :
    lists ≠ [] := by
  rintro rfl
  exact some (List.forall₂_nil_right_iff.mp each)

theorem AllFind.append {others : List Matcher} {otherLists : List (List Match)}
    (each : AllFind document components lists) (rest : AllFind document others otherLists) :
    AllFind document (components ++ others) (lists ++ otherLists) :=
  List.rel_append each rest

theorem AllFind.of_present
    (present : ∀ component ∈ components, ∀ key ∈ component.keys, document.contains key = true) :
    AllFind document components (components.map (results document)) := by
  induction components with
  | nil => exact .nil
  | cons component rest ih =>
      obtain ⟨own, others⟩ := List.forall_mem_cons.mp present
      refine .cons ?_ (ih others)
      rw [find_outcome, Document.require_eq_ok _ own]

theorem AllFind.combine_outcome (each : AllFind document components lists)
    (combinator : List (List Match) → List Match) :
    (findAll document components >>= combine combinator).outcome = .ok (combinator lists) := by
  rw [Traced.outcome_bind, each.findAll_outcome]
  rfl

/-- A combinator of matchers finds what a combinator of lists makes of what its components find. -/
def Combines (document : Document) (combined : List Matcher → Matcher)
    (combinator : List (List Match) → List Match) : Prop :=
  ∀ ⦃components : List Matcher⦄ ⦃lists : List (List Match)⦄, AllFind document components lists →
    ((combined components).find document).outcome = .ok (combinator lists)

theorem combines_intersection (document : Document) (matchFirst : Bool) :
    Combines document (intersection · matchFirst) (Match.intersection matchFirst) := by
  intro components lists each
  rw [find]
  exact each.combine_outcome _

theorem combines_union (document : Document) : Combines document union Match.union := by
  intro components lists each
  rw [find, Traced.outcome_bind, each.findAll_outcome]
  rfl

theorem combines_concatenation (document : Document) :
    Combines document concatenation Match.concatenation := by
  intro components lists each
  rw [find]
  exact each.combine_outcome _

theorem combines_gap (document : Document) (slop : Option Nat) (matchFirst : Bool) :
    Combines document (gap · slop matchFirst) (Match.gap slop matchFirst) := by
  intro components lists each
  rw [find]
  exact each.combine_outcome _

theorem combines_layerMatch (document : Document) :
    Combines document layerMatch Match.layerMatch := by
  intro components lists each
  rw [find]
  exact each.combine_outcome _

theorem negation_outcome {child : Matcher} {found : List Match}
    (finds : (child.find document).outcome = .ok found) :
    ((negation child).find document).outcome = .ok (Match.negation found) := by
  rw [find, Traced.outcome_bind, finds]
  rfl

/-- Products and unions are those of the lists that the components find. -/
theorem find_products (each : AllFind document components lists) :
    (∃ found, ((intersection components false).find document).outcome = .ok found ∧
      Match.IsProduct (fun _ => True) lists found) ∧
    (∃ found, ((concatenation components).find document).outcome = .ok found ∧
      Match.IsProduct (List.IsChain fun first second => second = first + 1) lists found) ∧
    (∀ slop : Option Nat, ∃ found, ((gap components slop false).find document).outcome = .ok found ∧
      Match.IsProduct (List.IsChain fun first second =>
        first < second ∧ ∀ most ∈ slop, second ≤ first + most) lists found) ∧
    ∃ found, ((union components).find document).outcome = .ok found ∧
      Match.IsUnion lists found := by
  have increasing := each.increasing
  refine ⟨?_, ?_, ?_, ?_⟩
  · refine ⟨Match.intersection false lists, ?_, ?_⟩
    · rw [find]
      exact each.combine_outcome _
    · exact Match.isProduct_merged increasing fun _ => by simp
  · refine ⟨Match.concatenation lists, ?_, ?_⟩
    · rw [find]
      exact each.combine_outcome _
    · exact Match.isProduct_merged increasing fun _ => Match.isContiguous_iff
  · intro slop
    refine ⟨Match.gap slop false lists, ?_, ?_⟩
    · rw [find]
      exact each.combine_outcome _
    · exact Match.isProduct_merged increasing fun _ => Match.isWithin_iff
  · refine ⟨Match.union lists, ?_, Match.isUnion_union increasing⟩
    rw [find, Traced.outcome_bind, each.findAll_outcome]
    rfl

end Matcher

/-! Two layers go by one feature, and two choices merge to the same tokens.  The last choice begins
with the longer lemmas, and its texts stand. -/

def Document.phrase : Document :=
  (Document.empty.insertPath "mlp.lemmas" "be red fox").insertPath "mlp.tags" "VERB ADJ NOUN"

namespace Matcher

def pieces (path first second : String) : Matcher :=
  scan ⟨.parse path, .firstOf [.literal true first.toList, .literal true second.toList]⟩

def phraseLists : List (List Match) := [
  [⟨[0], ["mlp"], ["be"]⟩, ⟨[0, 1], ["mlp", "mlp"], ["be", "red"]⟩],
  [⟨[1, 2], ["mlp", "mlp"], ["ADJ", "NOUN"]⟩, ⟨[2], ["mlp"], ["NOUN"]⟩]]

private theorem phrase_allFind :
    AllFind .phrase [pieces "mlp.lemmas" "b" "e red", pieces "mlp.tags" "DJ N" "OUN"]
      phraseLists := by
  refine .cons ?_ (.cons ?_ .nil)
  · rw [pieces, find, Scanner.find_outcome, if_pos (by decide)]
    exact congrArg Except.ok (by decide +kernel)
  · rw [pieces, find, Scanner.find_outcome, if_pos (by decide)]
    exact congrArg Except.ok (by decide +kernel)

theorem find_products_phrase :
    AllFind .phrase [pieces "mlp.lemmas" "b" "e red", pieces "mlp.tags" "DJ N" "OUN"]
        phraseLists ∧
      ∃ found, ((concatenation [pieces "mlp.lemmas" "b" "e red",
          pieces "mlp.tags" "DJ N" "OUN"]).find .phrase).outcome = .ok found ∧
        ⟨[0, 1, 2], ["mlp", "mlp", "mlp"], ["be", "red", "NOUN"]⟩ ∈ found := by
  obtain ⟨-, ⟨found, outcome, product⟩, -⟩ := find_products phrase_allFind
  refine ⟨phrase_allFind, found, outcome, (product.members _).mpr ?_⟩
  refine ⟨[⟨[0, 1], ["mlp", "mlp"], ["be", "red"]⟩, ⟨[2], ["mlp"], ["NOUN"]⟩], ?_, rfl, ?_⟩
  · exact ⟨by decide, by simp [phraseLists], by simp [Match.append, Match.empty]⟩
  · intro other chosen _
    have choice := Match.mem_choices_iff.mpr chosen.each
    have shorter : Match.Precedes ⟨[0], ["mlp"], ["be"]⟩
        ⟨[0, 1], ["mlp", "mlp"], ["be", "red"]⟩ := .inl (by decide)
    have earlier : Match.Precedes ⟨[1, 2], ["mlp", "mlp"], ["ADJ", "NOUN"]⟩
        ⟨[2], ["mlp"], ["NOUN"]⟩ := .inl (by decide)
    simp only [phraseLists, Match.choices, List.flatMap_cons, List.flatMap_nil, List.map_cons,
      List.map_nil, List.append_nil, List.cons_append, List.nil_append, List.mem_cons,
      List.not_mem_nil, or_false] at choice
    rcases choice with rfl | rfl | rfl | rfl
    · exact .inr (.rel shorter)
    · exact .inr (.rel shorter)
    · exact .inr (.cons (.rel earlier))
    · exact .inl rfl

end Matcher

end Concordance
