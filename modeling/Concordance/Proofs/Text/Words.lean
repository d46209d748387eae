import Concordance.Proofs.Text.Tables
import Concordance.Text.Property

/-!
No blank is a character of words.  Blanks are listed, while the characters of words are derived from
general categories and from tables, so the tables are read: no entry for words covers a blank.
-/

namespace Concordance.Text

namespace Category

def isOfWords : Category → Bool
  | .uppercaseLetter | .lowercaseLetter | .titlecaseLetter | .modifierLetter | .otherLetter
  | .nonspacingMark | .spacingMark | .enclosingMark | .decimalNumber | .letterNumber
  | .connectorPunctuation => true
  | _ => false

/-- Whether a run of categories, which ends where the next one starts, has no blank in it if it
is one of words.  A run past all blanks is passed over at once. -/
def isRunFree (run next : Nat × Category) : Bool :=
  0x3000 < run.1 || !run.2.isOfWords || freeOfBlanks run.1 next.1

end Category

section Blank

variable {c : Char} (blank : isBlank c = true)

include blank

theorem toNat_le_of_isBlank : c.toNat ≤ 0x3000 := by
  simp only [isBlank, Bool.or_eq_true, Bool.and_eq_true, decide_eq_true_eq, beq_iff_eq] at blank
  omega

theorem not_contains_ofText {text : String} {chars : List Char} (spells : Spells text chars)
    (checked : ((markedNumbers chars []).filterMap Stretch.ofNumbers?).all
      (fun stretch => freeOfBlanks stretch.first (stretch.last + 1)) = true) :
    (CharSet.ofText text).contains c = false := by
  rw [← Bool.not_eq_true]
  intro contained
  obtain ⟨stretch, member, covers⟩ := CodeTable.exists_of_contains contained
  rw [CodeTable.ofText, List.mem_toArray, spells.toList_eq] at member
  simp only [Stretch.contains, Bool.and_eq_true, decide_eq_true_eq] at covers
  have free := List.all_eq_true.mp checked stretch member
  rw [freeOfBlanks_eq_false blank covers.1.1 (Nat.lt_succ_of_le covers.1.2)] at free
  cases free

theorem not_contains_otherAlphabetic : CharSet.otherAlphabetic.contains c = false := by
  apply not_contains_ofText blank
  · apply spells_intercalate
    repeat apply List.Forall₂.cons (spells_ofList _)
    exact .nil
  · decide +kernel

theorem not_contains_otherLowercase : CharSet.otherLowercase.contains c = false := by
  apply not_contains_ofText blank
  · apply spells_intercalate
    repeat apply List.Forall₂.cons (spells_ofList _)
    exact .nil
  · decide +kernel

theorem not_contains_otherUppercase : CharSet.otherUppercase.contains c = false := by
  apply not_contains_ofText blank (spells_ofList _)
  decide +kernel

theorem not_contains_joinControl : CharSet.joinControl.contains c = false := by
  apply not_contains_ofText blank (spells_ofList _)
  decide +kernel

namespace Category

/-- The last run ends with the last code point. -/
private theorem isOfWords_eq_false_of_spells {chars : List Char} (spells : Spells runs chars)
    (checked : (startsOfRuns chars 0 0 ++ [(0x110000, unassigned)]).IsChain
      fun run next => isRunFree run next = true) :
    (ofChar c).isOfWords = false := by
  have near := toNat_le_of_isBlank blank
  rw [ofChar]
  cases found : lastAtMost? starts Prod.fst c.toNat with
  | none => rfl
  | some run =>
      rw [starts, spells.toList_eq] at found
      obtain ⟨next, free, low, high⟩ :=
        (bracketed_of_lastAtMost? found).exists_next checked (Nat.lt_of_le_of_lt near (by decide))
      rw [isRunFree, freeOfBlanks_eq_false blank low high, Bool.or_false, Bool.or_eq_true,
        decide_eq_true_eq, Bool.not_eq_true'] at free
      obtain beyond | other := free
      · omega
      · exact other

set_option maxRecDepth 4000 in
theorem isOfWords_ofChar_eq_false : (ofChar c).isOfWords = false := by
  apply isOfWords_eq_false_of_spells blank
  · rw [runs]
    apply spells_intercalate
    -- The literal of a long list is a chain of bindings, which hides its first element.
    dsimp only
    repeat apply List.Forall₂.cons (spells_ofList _)
    exact .nil
  · decide +kernel

end Category

theorem not_contains_category {g : Category} (ofWords : g.isOfWords = true) :
    (CharSet.category g).contains c = false := by
  have other := Category.isOfWords_ofChar_eq_false blank
  rw [CharSet.contains, beq_eq_false_iff_ne]
  rintro rfl
  rw [ofWords] at other
  cases other

theorem not_contains_categories {categories : List Category}
    (ofWords : ∀ g ∈ categories, g.isOfWords = true) :
    (CharSet.categories categories).contains c = false := by
  induction categories with
  | nil => rfl
  | cons g rest ih =>
      rw [List.forall_mem_cons] at ofWords
      exact Bool.or_eq_false_iff.mpr ⟨not_contains_category blank ofWords.1, ih ofWords.2⟩

end Blank

/-- No blank is a character of words. -/
theorem isWord_eq_false_of_isBlank {c : Char} (blank : isBlank c = true) : isWord c = false := by
  rw [isWord, CharSet.word, CharSet.contains]
  split
  · next near =>
    simp only [isBlank, Bool.or_eq_true, Bool.and_eq_true, decide_eq_true_eq, beq_iff_eq] at blank
    simp only [CharSet.intervals, CharSet.unions, List.map_cons, List.map_nil, List.foldr_cons,
      List.foldr_nil, CharSet.contains_union, CharSet.contains_none, CharSet.contains,
      Bool.or_eq_false_iff, Bool.and_eq_false_iff, decide_eq_false_iff_not, and_true]
    omega
  · have letter : CharSet.letter.contains c = false := not_contains_categories blank (by decide)
    have mark : CharSet.mark.contains c = false := not_contains_categories blank (by decide)
    have category (g : Category) (ofWords : g.isOfWords = true) :=
      not_contains_category blank ofWords
    simp [CharSet.alphabetic, CharSet.unions, letter, mark, category .letterNumber rfl,
      category .decimalNumber rfl, category .connectorPunctuation rfl,
      not_contains_otherAlphabetic blank, not_contains_otherLowercase blank,
      not_contains_otherUppercase blank, not_contains_joinControl blank]

end Concordance.Text
