import Concordance.Text.Blank
import Concordance.Text.Table
import Mathlib.Data.List.Forall2

/-!
Tables of code points.  What a search in a table finds is an entry, the last one that starts early
enough.  A table is written as text, of which the characters are known; so what is to hold of all
entries is checked entry by entry, here that none of them covers a blank.
-/

namespace Concordance.Text

/-! Searches in tables. -/

section Search

variable {α : Type} {table : Array α} {key : α → Nat} {code : Nat} {entry : α}

/-- An entry of a table whose key is small enough, while the key of the next one is too large. -/
def Bracketed (table : Array α) (key : α → Nat) (code : Nat) (entry : α) : Prop :=
  ∃ k, table[k]? = some entry ∧ key entry ≤ code ∧
    ∀ next, table[k + 1]? = some next → code < key next

/-- Once the bounds of a search have met, the entry before them is the one. -/
private theorem bracketed_of_met {low : Nat}
    (below : ∀ found, 0 < low → table[low - 1]? = some found → key found ≤ code)
    (above : ∀ next, table[low]? = some next → code < key next)
    (found : (if low = 0 then none else table[low - 1]?) = some entry) :
    Bracketed table key code entry := by
  split at found
  · cases found
  · next nonzero =>
    have positive := Nat.pos_of_ne_zero nonzero
    refine ⟨low - 1, found, below entry positive found, ?_⟩
    rwa [Nat.sub_add_cancel positive]

private theorem bracketed_of_search {fuel low high : Nat} (enough : high ≤ low + fuel)
    (ordered : low ≤ high)
    (below : ∀ found, 0 < low → table[low - 1]? = some found → key found ≤ code)
    (above : ∀ next, table[high]? = some next → code < key next)
    (found : lastAtMost?.search table key code fuel low high = some entry) :
    Bracketed table key code entry := by
  induction fuel generalizing low high with
  | zero =>
      obtain rfl : low = high := by omega
      exact bracketed_of_met below above found
  | succ fuel ih =>
      rw [lastAtMost?.search] at found
      split at found
      · dsimp only at found
        split at found
        · next middle read =>
          split at found
          · next small =>
            refine ih (by omega) (by omega) ?_ above found
            intro other _ otherRead
            rw [Nat.add_sub_cancel, read, Option.some.injEq] at otherRead
            exact otherRead ▸ small
          · next large =>
            refine ih (by omega) (by omega) below ?_ found
            intro next nextRead
            rw [read, Option.some.injEq] at nextRead
            exact nextRead ▸ Nat.lt_of_not_le large
        · cases found
      · obtain rfl : low = high := by omega
        exact bracketed_of_met below above found

theorem bracketed_of_lastAtMost? (found : lastAtMost? table key code = some entry) :
    Bracketed table key code entry := by
  refine bracketed_of_search (Nat.le_add_left _ _) (Nat.zero_le _) ?_ ?_ found
  · intro _ positive
    cases positive
  · intro next beyond
    rw [Array.getElem?_size] at beyond
    cases beyond

/-- What holds of all entries and the ones after them holds of the entry found and the one after it;
after the last entry there is `last`, whose key is too large. -/
theorem Bracketed.exists_next {list : List α} {last : α} {R : α → α → Prop}
    (found : Bracketed list.toArray key code entry) (chain : (list ++ [last]).IsChain R)
    (beyond : code < key last) : ∃ next, R entry next ∧ key entry ≤ code ∧ code < key next := by
  obtain ⟨k, read, low, high⟩ := found
  rw [List.getElem?_toArray] at read
  simp only [List.getElem?_toArray] at high
  obtain ⟨inside, here⟩ := List.getElem?_eq_some_iff.mp read
  have related := List.isChain_iff_getElem.mp chain k (by simpa using inside)
  rw [List.getElem_append_left inside, here] at related
  refine ⟨_, related, low, ?_⟩
  by_cases within : k + 1 < list.length
  · rw [List.getElem_append_left within]
    exact high _ (List.getElem?_eq_getElem within)
  · rw [List.getElem_append_right (Nat.le_of_not_lt within), List.getElem_singleton]
    exact beyond

end Search

theorem CodeTable.exists_of_contains {table : CodeTable} {code : Nat}
    (contained : table.contains code = true) :
    ∃ stretch ∈ table.stretches, stretch.contains code = true := by
  rw [contains] at contained
  cases found : lastAtMost? table.stretches Stretch.first code with
  | none =>
      rw [found] at contained
      cases contained
  | some stretch =>
      rw [found] at contained
      obtain ⟨k, read, -⟩ := bracketed_of_lastAtMost? found
      exact ⟨stretch, Array.mem_of_getElem? read, contained⟩

/-! Tables as lists of characters.  The kernel compares a literal text with a list of characters at
once, but computes the list of a long text in no reasonable time. -/

def Spells (text : String) (chars : List Char) : Prop :=
  text = String.ofList chars

theorem spells_ofList (chars : List Char) : Spells (String.ofList chars) chars := rfl

theorem Spells.toList_eq {text : String} {chars : List Char} (spells : Spells text chars) :
    text.toList = chars := by
  rw [spells, String.toList_ofList]

theorem spells_intercalate {lines : List String} {chars : List (List Char)}
    (spells : List.Forall₂ Spells lines chars) :
    Spells (" ".intercalate lines) ([' '].intercalate chars) := by
  have same : lines.map String.toList = chars := by
    induction spells with
    | nil => rfl
    | cons first _ ih => rw [List.map_cons, ih, first.toList_eq]
  rw [Spells, ← same, ← String.ofList_toList (s := " ".intercalate lines),
    String.toList_intercalate]
  rfl

/-! Blanks in tables. -/

/-- The intervals of the blanks. -/
def blankIntervals : List (Nat × Nat) :=
  [(9, 13), (0x20, 0x20), (0x85, 0x85), (0xA0, 0xA0), (0x1680, 0x1680), (0x2000, 0x200A),
    (0x2028, 0x2029), (0x202F, 0x202F), (0x205F, 0x205F), (0x3000, 0x3000)]

/-- Whether no blank is at `first`, or after it and before `stop`. -/
def freeOfBlanks (first stop : Nat) : Bool :=
  blankIntervals.all fun blanks => blanks.2 < first || stop ≤ blanks.1

theorem exists_blankIntervals {c : Char} (blank : isBlank c = true) :
    ∃ blanks ∈ blankIntervals, blanks.1 ≤ c.toNat ∧ c.toNat ≤ blanks.2 := by
  simp only [isBlank, Bool.or_eq_true, Bool.and_eq_true, decide_eq_true_eq, beq_iff_eq] at blank
  simp only [blankIntervals, List.exists_mem_cons_iff]
  omega

theorem freeOfBlanks_eq_false {c : Char} {first stop : Nat} (blank : isBlank c = true)
    (low : first ≤ c.toNat) (high : c.toNat < stop) : freeOfBlanks first stop = false := by
  obtain ⟨blanks, member, covers⟩ := exists_blankIntervals blank
  rw [freeOfBlanks, List.all_eq_false]
  refine ⟨blanks, member, ?_⟩
  simp only [Bool.or_eq_true, decide_eq_true_eq]
  omega

end Concordance.Text
