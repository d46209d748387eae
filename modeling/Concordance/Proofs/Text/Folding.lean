import Concordance.Proofs.Text.Tables
import Concordance.Text.CharSet

/-!
Case folding keeps blanks apart.  No rule of the table has a blank among its sources or its targets,
so a character is blank exactly if what it folds to is.
-/

namespace Concordance.Text

namespace FoldRule

/-- Whether neither the sources nor the targets of a rule have a blank among them. -/
def isFreeOfBlanks (rule : FoldRule) : Bool :=
  freeOfBlanks rule.source.first (rule.source.last + 1) &&
    freeOfBlanks rule.target (rule.target + (rule.source.last + 1 - rule.source.first))

private theorem isFreeOfBlanks_of_spells {chars : List Char} (spells : Spells table chars)
    (checked : ((markedNumbers chars []).filterMap ofNumbers?).all isFreeOfBlanks = true) :
    ∀ rule ∈ all, rule.isFreeOfBlanks = true := by
  intro rule member
  rw [all, List.mem_toArray, spells.toList_eq] at member
  exact List.all_eq_true.mp checked rule member

theorem isFreeOfBlanks_of_mem_all : ∀ rule ∈ all, rule.isFreeOfBlanks = true := by
  apply isFreeOfBlanks_of_spells
  · apply spells_intercalate
    repeat apply List.Forall₂.cons (spells_ofList _)
    exact .nil
  · decide +kernel

end FoldRule

/-- A code point stays, or is moved as a letter of ASCII or by a rule. -/
theorem foldCode_cases (code : Nat) :
    foldCode code = code ∨
      (0x41 ≤ code ∧ code < 0x5B ∧ foldCode code = code + 0x20) ∨
      ∃ rule ∈ FoldRule.all, rule.source.contains code = true ∧
        foldCode code = code - rule.source.first + rule.target := by
  rw [foldCode]
  split
  · split
    · next letter =>
      simp only [Bool.and_eq_true, decide_eq_true_eq] at letter
      exact .inr (.inl ⟨letter.1, Nat.lt_succ_of_le letter.2, rfl⟩)
    · exact .inl rfl
  · cases found : lastAtMost? FoldRule.all (·.source.first) code with
    | none => exact .inl rfl
    | some rule =>
        obtain ⟨k, read, -⟩ := bracketed_of_lastAtMost? found
        rw [Option.bind_some, FoldRule.target?]
        split
        · next covers => exact .inr (.inr ⟨rule, Array.mem_of_getElem? read, covers, rfl⟩)
        · exact .inl rfl

/-- A code point that stands for no character gives the first one, which is no blank. -/
theorem isBlank_ofNat_eq_false {first stop code : Nat} (free : freeOfBlanks first stop = true)
    (low : first ≤ code) (high : code < stop) : isBlank (.ofNat code) = false := by
  rw [← Bool.not_eq_true]
  intro blank
  by_cases valid : code.isValidChar
  · have same : (Char.ofNat code).toNat = code := by
      rw [Char.ofNat, dif_pos valid]
      rfl
    rw [← same] at low high
    rw [freeOfBlanks_eq_false blank low high] at free
    cases free
  · rw [Char.ofNat, dif_neg valid] at blank
    cases blank

theorem isBlank_fold (c : Char) : isBlank (fold c) = isBlank c := by
  rw [fold]
  rcases foldCode_cases c.toNat with same | ⟨low, high, moved⟩ | ⟨rule, member, covers, moved⟩
  · rw [same, Char.ofNat_toNat]
  · have free : freeOfBlanks 0x41 0x7B = true := by decide
    have before : isBlank (.ofNat c.toNat) = false := isBlank_ofNat_eq_false free low (by omega)
    rw [Char.ofNat_toNat] at before
    rw [moved, before]
    exact isBlank_ofNat_eq_false free (by omega) (by omega)
  · have free := FoldRule.isFreeOfBlanks_of_mem_all rule member
    rw [FoldRule.isFreeOfBlanks, Bool.and_eq_true] at free
    simp only [Stretch.contains, Bool.and_eq_true, decide_eq_true_eq] at covers
    have before : isBlank (.ofNat c.toNat) = false :=
      isBlank_ofNat_eq_false free.1 covers.1.1 (by omega)
    rw [Char.ofNat_toNat] at before
    rw [moved, before]
    exact isBlank_ofNat_eq_false free.2 (by omega) (by omega)

theorem isBlank_eq_of_fold_eq {c d : Char} (same : fold c = fold d) : isBlank c = isBlank d := by
  rw [← isBlank_fold c, same, isBlank_fold]

theorem CharSet.isBlank_eq_of_contains_literal {caseSensitive : Bool} {c d : Char}
    (contained : (literal caseSensitive c).contains d = true) : isBlank d = isBlank c := by
  cases caseSensitive with
  | false => exact isBlank_eq_of_fold_eq (by simpa [literal, contains] using contained)
  | true => rw [contains_single.1 contained]

end Concordance.Text
