import Concordance.Proofs.Match.Grouping
import Concordance.Proofs.Matcher.Products

/-!
Combinators among the components of combinators.  Components can be combined in groups first, and a
negation among components is a condition on the document: where it holds the rest is found as if it
were not there, and where it fails nothing is found.
-/

namespace Concordance.Matcher

variable {document : Document} {first middle last : List Matcher}
  {before inner after : List (List Match)}

/-! Groups. -/

/-- Two matchers find the same matches in the same order, texts apart. -/
def FindSame (document : Document) (left right : Matcher) : Prop :=
  ∃ leftFound rightFound, (left.find document).outcome = .ok leftFound ∧
    (right.find document).outcome = .ok rightFound ∧
    leftFound.map Match.key = rightFound.map Match.key

/-- A law of groups of lists is one of groups of components. -/
theorem Combines.findSame {combined grouped : List Matcher → Matcher}
    {combinator groupCombinator : List (List Match) → List Match}
    (combines : Combines document combined combinator)
    (groups : Combines document grouped groupCombinator)
    (firstFind : AllFind document first before) (middleFind : AllFind document middle inner)
    (lastFind : AllFind document last after)
    (law : (combinator (before ++ [groupCombinator inner] ++ after)).map Match.key =
      (combinator (before ++ inner ++ after)).map Match.key) :
    FindSame document (combined (first ++ [grouped middle] ++ last))
      (combined (first ++ middle ++ last)) := by
  have group : AllFind document [grouped middle] [groupCombinator inner] :=
    .cons (groups middleFind) .nil
  exact ⟨_, _, combines ((firstFind.append group).append lastFind),
    combines ((firstFind.append middleFind).append lastFind), law⟩

/-- A group of components combined on its own is found as if its components stood in its place: in
sequences and unions, and in gaps of the same slop and intersections where the group keeps all its
matches, whether or not the whole keeps the nearest ones only. -/
theorem find_group (firstFind : AllFind document first before)
    (middleFind : AllFind document middle inner) (lastFind : AllFind document last after)
    (some : middle ≠ []) :
    FindSame document (concatenation (first ++ [concatenation middle] ++ last))
        (concatenation (first ++ middle ++ last)) ∧
      FindSame document (union (first ++ [union middle] ++ last))
        (union (first ++ middle ++ last)) ∧
      (∀ slop matchFirst,
        FindSame document (gap (first ++ [gap middle slop false] ++ last) slop matchFirst)
          (gap (first ++ middle ++ last) slop matchFirst)) ∧
      ∀ matchFirst,
        FindSame document (intersection (first ++ [intersection middle false] ++ last) matchFirst)
          (intersection (first ++ middle ++ last) matchFirst) := by
  have given : inner ≠ [] := middleFind.ne_nil some
  refine ⟨?_, ?_, ?_, ?_⟩
  · exact (combines_concatenation document).findSame (combines_concatenation document) firstFind
      middleFind lastFind (Match.map_key_concatenation_group given)
  · exact (combines_union document).findSame (combines_union document) firstFind middleFind
      lastFind Match.map_key_union_group
  · intro slop matchFirst
    exact (combines_gap document slop matchFirst).findSame (combines_gap document slop false)
      firstFind middleFind lastFind (Match.map_key_gap_group given slop matchFirst)
  · intro matchFirst
    exact (combines_intersection document matchFirst).findSame
      (combines_intersection document false) firstFind middleFind lastFind
      (Match.map_key_intersection_group given matchFirst)

/-- A group with a component that has no tokens, in front of a choice of words. -/
theorem find_group_redHen :
    let group := [word "red", negation (word "fox")]
    let choice := union [word "hen", word "red"]
    (∃ lists, AllFind .redHen group lists) ∧ (∃ lists, AllFind .redHen [choice] lists) ∧
      group ≠ [] ∧
      FindSame .redHen (concatenation [concatenation group, choice])
        (concatenation [word "red", negation (word "fox"), choice]) ∧
      FindSame .redHen (gap [gap group (some 2) false, choice] (some 2) true)
        (gap [word "red", negation (word "fox"), choice] (some 2) true) := by
  intro group choice
  have groupFind : AllFind .redHen group _ := .of_present (by decide)
  have choiceFind : AllFind .redHen [choice] _ := .of_present (by decide)
  obtain ⟨concatenated, -, apart, -⟩ :=
    find_group .nil groupFind choiceFind (List.cons_ne_nil _ _)
  exact ⟨⟨_, groupFind⟩, ⟨_, choiceFind⟩, List.cons_ne_nil _ _, concatenated, apart (some 2) true⟩

/-! Negations. -/

/-- A negation inserted among components leaves what is found as it is if its child finds nothing,
and else nothing of it. -/
def Conditions (document : Document) (child : Matcher) (first last : List Matcher)
    (combined : List Matcher → Matcher) : Prop :=
  ∃ refused found, (child.find document).outcome = .ok refused ∧
    ((combined (first ++ last)).find document).outcome = .ok found ∧
    ((combined (first ++ negation child :: last)).find document).outcome =
      .ok (if refused.isEmpty then found else [])

theorem Combines.conditions {combined : List Matcher → Matcher}
    {combinator : List (List Match) → List Match} {child : Matcher} {refused : List Match}
    (combines : Combines document combined combinator) (firstFind : AllFind document first before)
    (lastFind : AllFind document last after) (finds : (child.find document).outcome = .ok refused)
    (law : combinator (before ++ Match.negation refused :: after) =
      if refused.isEmpty then combinator (before ++ after) else []) :
    Conditions document child first last combined := by
  refine ⟨_, _, finds, combines (firstFind.append lastFind), ?_⟩
  rw [combines (firstFind.append (.cons (negation_outcome finds) lastFind)), law]

/-- Wherever it is inserted, a negation is neutral where its child finds nothing, texts included,
and annihilates where it finds something. -/
theorem find_insert_negation {child : Matcher} {refused : List Match}
    (firstFind : AllFind document first before) (lastFind : AllFind document last after)
    (finds : (child.find document).outcome = .ok refused) (some : first ++ last ≠ []) :
    (∀ matchFirst, Conditions document child first last (intersection · matchFirst)) ∧
      Conditions document child first last concatenation ∧
      (∀ slop matchFirst, Conditions document child first last (gap · slop matchFirst)) ∧
      Conditions document child first last layerMatch := by
  have given : before ++ after ≠ [] := (firstFind.append lastFind).ne_nil some
  refine ⟨?_, ?_, ?_, ?_⟩
  · intro matchFirst
    exact (combines_intersection document matchFirst).conditions firstFind lastFind finds
      (Match.finish_insert_negation matchFirst (fun _ _ => rfl) given refused)
  · exact (combines_concatenation document).conditions firstFind lastFind finds
      (Match.merged_insert_negation (Match.skipsEmpty_of_merge _) given refused)
  · intro slop matchFirst
    exact (combines_gap document slop matchFirst).conditions firstFind lastFind finds
      (Match.finish_insert_negation matchFirst (Match.skipsEmpty_of_merge _) given refused)
  · exact (combines_layerMatch document).conditions firstFind lastFind finds
      (Match.merged_insert_negation Match.isAligned_insert_empty given refused)

/-- A word that is missing and one that is there, between two words that follow each other. -/
theorem find_insert_negation_redHen :
    (∃ lists, AllFind .redHen [word "red"] lists) ∧ (∃ lists, AllFind .redHen [word "hen"] lists) ∧
      ((word "fox").find .redHen).outcome = .ok [] ∧
      ((word "red").find .redHen).outcome = .ok [⟨[0], ["text"], ["red"]⟩] ∧
      Conditions .redHen (word "fox") [word "red"] [word "hen"] concatenation ∧
      Conditions .redHen (word "red") [word "red"] [word "hen"] (gap · (some 2) true) := by
  have redFind : AllFind .redHen [word "red"] _ := .of_present (by decide)
  have henFind : AllFind .redHen [word "hen"] _ := .of_present (by decide)
  have missing : ((word "fox").find .redHen).outcome = .ok [] := by
    rw [find_outcome, Document.require_eq_ok _ (by decide)]
    exact congrArg Except.ok (by decide +kernel)
  have there : ((word "red").find .redHen).outcome = .ok [⟨[0], ["text"], ["red"]⟩] := by
    rw [find_outcome, Document.require_eq_ok _ (by decide)]
    exact congrArg Except.ok (by decide +kernel)
  obtain ⟨-, neutral, -, -⟩ :=
    find_insert_negation redFind henFind missing (List.cons_ne_nil _ _)
  obtain ⟨-, -, annihilates, -⟩ :=
    find_insert_negation redFind henFind there (List.cons_ne_nil _ _)
  exact ⟨⟨_, redFind⟩, ⟨_, henFind⟩, missing, there, neutral, annihilates (some 2) true⟩

end Concordance.Matcher
