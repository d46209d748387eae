import Concordance.Proofs.Matcher.Scanner
import Concordance.Proofs.Text.Words

/-!
Where whole words stand.  Which sides of a term are to be at a word boundary is decided by one class
of characters, and what a word boundary is by another one.  A term is found exactly where its marked
sides are at boundaries, which is where it stands free if both classes agree on its first and its
last character, and only then.
-/

namespace Concordance.Scanner

open Text Pattern

/-! Occurrences of a term and what is beside them. -/

/-- A term occurs with a rule kept on both sides: between its first character and what is before it,
and between its last one and what is after it. -/
def OccursBy (rule : Char → Option Char → Prop) (term text : List Char) : Prop :=
  ∃ before after, text = before ++ term ++ after ∧
    (∀ c ∈ term.head?, rule c before.getLast?) ∧ ∀ c ∈ term.getLast?, rule c after.head?

/-- A character that is marked has a word boundary beside it. -/
def Bounded (c : Char) (side : Option Char) : Prop :=
  isTermWord c = true → isWordSide false side ≠ isWord c

/-- A character of words is not glued to another one. -/
def Free (c : Char) (side : Option Char) : Prop :=
  isWord c = true → isWordSide false side = false

/-- Beside a character there is a blank or nothing. -/
def Delimited (_ : Char) (side : Option Char) : Prop :=
  ∀ d ∈ side, isBlank d = true

def IsEdge (c : Char) (term : List Char) : Prop :=
  c ∈ term.head? ∨ c ∈ term.getLast?

theorem OccursBy.mono {weak strong : Char → Option Char → Prop} {term text : List Char}
    (occurs : OccursBy strong term text)
    (implied : ∀ c, IsEdge c term → ∀ side, strong c side → weak c side) :
    OccursBy weak term text := by
  obtain ⟨before, after, split, first, last⟩ := occurs
  exact ⟨before, after, split, fun c member => implied c (.inl member) _ (first c member),
    fun c member => implied c (.inr member) _ (last c member)⟩

/-- A term occurs in itself in one way. -/
theorem occursBy_self_iff {rule : Char → Option Char → Prop} {term : List Char} :
    OccursBy rule term term ↔ ∀ c, IsEdge c term → rule c none := by
  constructor
  · intro occurs c edge
    obtain ⟨before, after, split, first, last⟩ := occurs
    have length := congrArg List.length split
    simp only [List.length_append] at length
    obtain rfl : before = [] := List.eq_nil_of_length_eq_zero (by omega)
    obtain rfl : after = [] := List.eq_nil_of_length_eq_zero (by omega)
    exact edge.elim (first c) (last c)
  · intro kept
    exact ⟨[], [], by simp, fun c member => kept c (.inl member),
      fun c member => kept c (.inr member)⟩

/-! Matches of a term. -/

theorem mem_ends_edge {side : Option Char} {text : Array Char} {i j : Nat} :
    j ∈ (edge true side).ends text i ↔ j = i ∧ (side.any isTermWord = true →
      isWordSide false (Regex.before? text i) ≠ isWordSide false text[i]?) := by
  rw [edge, Bool.true_and]
  by_cases marked : side.any isTermWord = true
  · rw [if_pos marked, Regex.ends, Look.holds]
    by_cases level : isWordSide false (Regex.before? text i) = isWordSide false text[i]? <;>
      simp [level, marked]
  · simp [Regex.ends, marked]

theorem mem_ends_termRegex {term : String} {text : Array Char} {i j : Nat} :
    j ∈ (termRegex true true term).ends text i ↔
      j = i + term.toList.length ∧ Regex.Spelled true text term.toList i ∧
      (term.toList.head?.any isTermWord = true →
        isWordSide false (Regex.before? text i) ≠ isWordSide false text[i]?) ∧
      (term.toList.getLast?.any isTermWord = true →
        isWordSide false (Regex.before? text j) ≠ isWordSide false text[j]?) := by
  simp only [termRegex, Regex.ends, List.mem_eraseDups, List.mem_flatMap]
  constructor
  · intro given
    obtain ⟨last, ⟨first, before, literal⟩, after⟩ := given
    obtain ⟨rfl, before⟩ := mem_ends_edge.mp before
    obtain ⟨rfl, after⟩ := mem_ends_edge.mp after
    obtain ⟨stop, spelled⟩ := Regex.mem_ends_literal.mp literal
    exact ⟨stop, spelled, before, after⟩
  · intro given
    obtain ⟨stop, spelled, before, after⟩ := given
    exact ⟨j, ⟨i, mem_ends_edge.mpr ⟨rfl, before⟩, Regex.mem_ends_literal.mpr ⟨stop, spelled⟩⟩,
      mem_ends_edge.mpr ⟨rfl, after⟩⟩

theorem forall_bounded_iff {inner side : Option Char} :
    (∀ c ∈ inner, Bounded c side) ↔
      (inner.any isTermWord = true → isWordSide false side ≠ isWordSide false inner) := by
  cases inner with
  | none => simp
  | some c => simp [Bounded, isWordSide]

theorem before?_length (before after : List Char) :
    Regex.before? (before ++ after).toArray before.length = before.getLast? := by
  obtain rfl | ⟨others, c, rfl⟩ := before.eq_nil_or_concat
  · rfl
  · simp [Regex.before?]

theorem getElem?_length (before after : List Char) :
    (before ++ after).toArray[before.length]? = after.head? := by
  rw [List.getElem?_toArray, List.getElem?_append_right (Nat.le_refl _), Nat.sub_self,
    List.head?_eq_getElem?]

/-- A term between two parts of a text is matched there if both of its sides are bounded. -/
theorem mem_ends_termRegex_split {term : String} (nonempty : term.toList ≠ [])
    {before after : List Char} {j : Nat} :
    j ∈ (termRegex true true term).ends (before ++ term.toList ++ after).toArray before.length ↔
      j = (before ++ term.toList).length ∧
        (∀ c ∈ term.toList.head?, Bounded c before.getLast?) ∧
        ∀ c ∈ term.toList.getLast?, Bounded c after.head? := by
  have spelled : term.toList <+: (before ++ term.toList ++ after).drop before.length := by
    simp
  have outerFirst := before?_length before (term.toList ++ after)
  have innerFirst := getElem?_length before (term.toList ++ after)
  have innerLast := before?_length (before ++ term.toList) after
  have outerLast := getElem?_length (before ++ term.toList) after
  rw [← List.append_assoc] at outerFirst innerFirst
  rw [List.head?_append_of_ne_nil _ nonempty] at innerFirst
  rw [List.getLast?_append_of_ne_nil _ nonempty] at innerLast
  rw [mem_ends_termRegex, spelled_iff, forall_bounded_iff, forall_bounded_iff, outerFirst,
    innerFirst, ← List.length_append]
  constructor
  · rintro ⟨rfl, -, first, last⟩
    rw [innerLast, outerLast] at last
    exact ⟨rfl, first, fun marked => (last marked).symm⟩
  · rintro ⟨rfl, first, last⟩
    refine ⟨rfl, spelled, first, ?_⟩
    rw [innerLast, outerLast]
    exact fun marked => (last marked).symm

theorem exists_ends_termRegex_iff {term : String} (nonempty : term.toList ≠ [])
    {text : List Char} :
    (∃ i j, i ≤ text.toArray.size ∧ j ∈ (termRegex true true term).ends text.toArray i) ↔
      OccursBy Bounded term.toList text := by
  constructor
  · intro given
    obtain ⟨i, j, within, ended⟩ := given
    rw [List.size_toArray] at within
    obtain ⟨after, rest⟩ := spelled_iff.mp (mem_ends_termRegex.mp ended).2.1
    obtain ⟨before, split, rfl⟩ :
        ∃ before, text = before ++ term.toList ++ after ∧ i = before.length := by
      refine ⟨text.take i, ?_, (List.length_take_of_le within).symm⟩
      rw [List.append_assoc, rest, List.take_append_drop]
    rw [split, mem_ends_termRegex_split nonempty] at ended
    exact ⟨before, after, split, ended.2⟩
  · intro occurs
    obtain ⟨before, after, rfl, first, last⟩ := occurs
    exact ⟨before.length, _, by simp, (mem_ends_termRegex_split nonempty).mpr ⟨rfl, first, last⟩⟩

/-! Both classes of characters. -/

theorem bounded_self_iff {term : List Char} :
    OccursBy Bounded term term ↔ ∀ c, IsEdge c term → isTermWord c = true → isWord c = true := by
  simp [occursBy_self_iff, Bounded, isWordSide]

theorem free_implies_bounded_iff {term : List Char} :
    (∀ text, OccursBy Free term text → OccursBy Bounded term text) ↔
      ∀ c, IsEdge c term → isTermWord c = true → isWord c = true := by
  constructor
  · intro implied
    exact bounded_self_iff.mp (implied term (occursBy_self_iff.mpr fun _ _ _ => rfl))
  · intro agree text occurs
    refine occurs.mono fun c edge side free marked => ?_
    have word := agree c edge marked
    rw [free word, word]
    exact Bool.false_ne_true

theorem delimited_implies_bounded_iff {term : List Char} :
    (∀ text, OccursBy Delimited term text → OccursBy Bounded term text) ↔
      ∀ c, IsEdge c term → isTermWord c = true → isWord c = true := by
  constructor
  · intro implied
    exact bounded_self_iff.mp (implied term (occursBy_self_iff.mpr fun _ _ => nofun))
  · intro agree text occurs
    refine free_implies_bounded_iff.mpr agree text (occurs.mono fun c _ side delimited _ => ?_)
    cases side with
    | none => rfl
    | some d => exact isWord_eq_false_of_isBlank (delimited d rfl)

/-- A text beside which a character is bounded: a letter, or nothing where that will do. -/
def beside (c : Char) : List Char :=
  if isTermWord c && isWord c then [] else ['a']

theorem letter_classes : isTermWord 'a' = true ∧ isWord 'a' = true := by decide

theorem beside_cases (c : Char) : beside c = [] ∨ beside c = ['a'] ∧ c ≠ 'a' := by
  rw [beside]
  split
  · exact .inl rfl
  · next other =>
    refine .inr ⟨rfl, ?_⟩
    rintro rfl
    exact other (Bool.and_eq_true _ _ ▸ letter_classes)

theorem getLast?_beside (c : Char) : (beside c).getLast? = (beside c).head? := by
  obtain empty | ⟨letter, -⟩ := beside_cases c
  · rw [empty]
    rfl
  · rw [letter]
    rfl

theorem bounded_beside (c : Char) : Bounded c (beside c).head? := by
  intro marked
  rw [beside, marked, Bool.true_and]
  cases word : isWord c with
  | true => exact Bool.false_ne_true
  | false => simp [isWordSide, letter_classes.2]

theorem not_free_beside {c : Char} (word : isWord c = true) (unmarked : isTermWord c = false) :
    ¬ Free c (beside c).head? := by
  intro free
  have glued := free word
  rw [beside, unmarked, Bool.false_and, if_neg Bool.false_ne_true] at glued
  exact absurd (letter_classes.2.symm.trans glued) (by decide)

/-- Between these texts, and nowhere else, the term occurs: a letter is put only beside an edge that
is another character. -/
theorem split_beside {term before after : List Char} {first last : Char}
    (head : term.head? = some first) (tail : term.getLast? = some last)
    (split : beside first ++ term ++ beside last = before ++ term ++ after) :
    before = beside first ∧ after = beside last := by
  have lengths := congrArg List.length split
  simp only [List.length_append] at lengths
  have nonempty : term ≠ [] := by
    rintro rfl
    cases head
  rcases Nat.lt_trichotomy before.length (beside first).length with shorter | same | longer
  · obtain empty | ⟨letter, differ⟩ := beside_cases first
    · rw [empty] at shorter
      cases shorter
    · rw [letter] at shorter split
      obtain rfl : before = [] := List.eq_nil_of_length_eq_zero (Nat.lt_one_iff.mp shorter)
      have heads := congrArg List.head? split
      rw [List.nil_append, List.head?_append_of_ne_nil _ nonempty, head] at heads
      cases heads
      exact absurd rfl differ
  · rw [List.append_assoc, List.append_assoc] at split
    obtain ⟨left, rest⟩ := List.append_inj split same.symm
    exact ⟨left.symm, (List.append_cancel_left rest).symm⟩
  · obtain empty | ⟨letter, differ⟩ := beside_cases last
    · rw [empty, List.length_nil] at lengths
      omega
    · rw [letter] at lengths split
      rw [List.length_singleton] at lengths
      obtain rfl : after = [] := List.eq_nil_of_length_eq_zero (by omega)
      have lasts := congrArg List.getLast? split
      rw [List.append_nil, List.getLast?_append_of_ne_nil _ nonempty, tail,
        List.getLast?_concat] at lasts
      cases lasts
      exact absurd rfl differ

theorem bounded_implies_free_iff {term : List Char} :
    (∀ text, OccursBy Bounded term text → OccursBy Free term text) ↔
      ∀ c, IsEdge c term → isWord c = true → isTermWord c = true := by
  constructor
  · intro implied c edge word
    obtain ⟨first, head⟩ : ∃ first, term.head? = some first := by
      rcases edge with member | member
      · exact ⟨c, member⟩
      · exact ⟨_, List.head?_eq_some_head (List.ne_nil_of_mem (List.mem_of_getLast? member))⟩
    obtain ⟨last, tail⟩ : ∃ last, term.getLast? = some last :=
      ⟨_, List.getLast?_eq_some_getLast (List.ne_nil_of_mem (List.mem_of_head? head))⟩
    have bounded : OccursBy Bounded term (beside first ++ term ++ beside last) := by
      refine ⟨_, _, rfl, ?_, ?_⟩
      · rw [head, getLast?_beside]
        rintro _ ⟨⟩
        exact bounded_beside first
      · rw [tail]
        rintro _ ⟨⟩
        exact bounded_beside last
    obtain ⟨before, after, split, freeFirst, freeLast⟩ := implied _ bounded
    obtain ⟨rfl, rfl⟩ := split_beside head tail split
    rw [← Bool.not_eq_false]
    intro unmarked
    rcases edge with member | member
    · obtain rfl := Option.mem_unique head member
      exact not_free_beside word unmarked (getLast?_beside first ▸ freeFirst first head)
    · obtain rfl := Option.mem_unique tail member
      exact not_free_beside word unmarked (freeLast last tail)
  · intro agree text occurs
    refine occurs.mono fun c edge side bounded word => ?_
    have differ := bounded (agree c edge word)
    rwa [word, ne_eq, Bool.not_eq_true] at differ

/-! Whole words in documents. -/

/-- In every document with the layer of a whole word there is an answer, and it is one that the text
of the layer admits. -/
def Answers (term path : String) (admits : List Char → List Match → Prop) : Prop :=
  ∀ document layer, document.layers.get? (.parse path) = some layer →
    ∃ found, ((ofTerms [term] path true true).find document).outcome = .ok found ∧
      admits layer.text.toList found

theorem answers_bounded {term path : String} (solid : isBlankText term = false) :
    Answers term path fun text found => found ≠ [] ↔ OccursBy Bounded term.toList text := by
  intro document layer present
  have key : (ofTerms [term] path true true).key = .parse path := rfl
  refine ⟨(ofTerms [term] path true true).results document, ?_, ?_⟩
  · rw [find_outcome, Document.contains, Entries.contains, key, present]
    rfl
  · have occurs := @occurrences_ofTerms_ne_nil_iff [term] path layer.text true true
      (by simpa using solid)
    dsimp only
    rw [results_ne_nil_iff, key, present,
      ← exists_ends_termRegex_iff (toList_ne_nil_of_solid solid)]
    simpa using occurs

/-- What is said of a text and of whether the word is found there is a statement on texts alone. -/
theorem answers_iff {term path : String} (solid : isBlankText term = false)
    {R : List Char → Prop → Prop} :
    (Answers term path fun text found => R text (found ≠ [])) ↔
      ∀ text, R text (OccursBy Bounded term.toList text) := by
  constructor
  · intro answers text
    have present :
        (Document.empty.insertPath path (String.ofList text)).layers.get? (.parse path) =
          some (.ofText (String.ofList text)) := by
      rw [Document.insertPath, Document.insert, Entries.get?_put, if_pos rfl]
    obtain ⟨found, answered, related⟩ := answers _ _ present
    obtain ⟨same, sameAnswered, bounded⟩ := answers_bounded solid _ _ present
    cases answered.symm.trans sameAnswered
    rw [propext bounded] at related
    simpa [Layer.ofText] using related
  · intro related document layer present
    obtain ⟨found, answered, bounded⟩ := answers_bounded solid document layer present
    refine ⟨found, answered, ?_⟩
    dsimp only
    rw [propext bounded]
    exact related layer.text.toList

/-- A whole word is found exactly where its marked sides are bounded.  That is exactly where it stands
free if and only if both classes of characters agree at its edges; and between blanks it is always
found if and only if no edge is marked without being a character of words. -/
theorem wholeWord_found_iff {term path : String} (solid : isBlankText term = false) :
    (Answers term path fun text found => found ≠ [] ↔ OccursBy Bounded term.toList text) ∧
      ((Answers term path fun text found => found ≠ [] ↔ OccursBy Free term.toList text) ↔
        ∀ c, IsEdge c term.toList → isTermWord c = isWord c) ∧
      ((Answers term path fun text found => OccursBy Delimited term.toList text → found ≠ []) ↔
        ∀ c, IsEdge c term.toList → isTermWord c = true → isWord c = true) := by
  refine ⟨answers_bounded solid, ?_, ?_⟩
  · rw [answers_iff solid (R := fun text found => found ↔ OccursBy Free term.toList text)]
    constructor
    · intro same c edge
      have marked := free_implies_bounded_iff.mp (fun text => (same text).mpr) c edge
      have word := bounded_implies_free_iff.mp (fun text => (same text).mp) c edge
      rw [Bool.eq_iff_iff]
      exact ⟨marked, word⟩
    · intro agree text
      have marked := fun c edge => (Bool.eq_iff_iff.mp (agree c edge)).mp
      have word := fun c edge => (Bool.eq_iff_iff.mp (agree c edge)).mpr
      exact ⟨bounded_implies_free_iff.mpr word text, free_implies_bounded_iff.mpr marked text⟩
  · rw [answers_iff solid (R := fun text found => OccursBy Delimited term.toList text → found)]
    exact delimited_implies_bounded_iff

theorem wholeWord_found_iff_superscript :
    isBlankText "²" = false ∧
      ¬ Answers "²" "text" fun text found => OccursBy Delimited "²".toList text → found ≠ [] := by
  have solid : isBlankText "²" = false := by decide
  refine ⟨solid, ?_⟩
  rw [(wholeWord_found_iff solid).2.2]
  intro words
  exact absurd (words '²' (.inl rfl) (by decide)) (by decide)

/-- A superscript is marked but is no character of words, so it is missed where it stands alone. -/
theorem superscript_missed :
    ((ofTerms ["²"] "text" true true).find (Document.empty.insertPath "text" "²")).outcome =
        .ok [] ∧
      OccursBy Free "²".toList "²".toList ∧ OccursBy Delimited "²".toList "²".toList := by
  refine ⟨by decide +kernel, ?_, ?_⟩
  · exact occursBy_self_iff.mpr fun _ _ _ => rfl
  · exact occursBy_self_iff.mpr fun _ _ => nofun

end Concordance.Scanner
