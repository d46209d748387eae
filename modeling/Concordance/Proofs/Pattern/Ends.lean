import Concordance.Pattern.Regex

/-!
Where matches end.  A match stays within its text, and a scan finds something exactly if there is a
match somewhere.
-/

namespace Concordance.Pattern

open Concordance.Text

/-! Loops. -/

def Visit.position : Visit → Nat
  | .enter i => i
  | .leave i => i
  | .stop i => i

/-- What the body of a loop keeps, the loop keeps. -/
theorem forall_mem_loop {body : Nat → List Nat} {Kept : Nat → Prop}
    (step : ∀ i, Kept i → ∀ j ∈ body i, Kept j) (greedy : Bool) (fuel : Nat)
    (visits : List Visit) (entered left : List Nat)
    (kept : ∀ visit ∈ visits, Kept visit.position) :
    ∀ j ∈ loop body greedy fuel visits entered left, Kept j := by
  induction fuel generalizing visits entered left with
  | zero => exact nofun
  | succ fuel ih =>
      cases visits with
      | nil => exact nofun
      | cons visit rest =>
          rw [List.forall_mem_cons] at kept
          obtain ⟨here, later⟩ := kept
          cases visit with
          | enter i =>
              rw [loop]
              split
              · exact ih rest entered left later
              · apply ih
                rw [List.forall_mem_append, List.forall_mem_map]
                exact ⟨step i here, later⟩
          | leave i =>
              have both (first second : Visit) (firstHere : first.position = i)
                  (secondHere : second.position = i) :
                  ∀ visit ∈ first :: second :: rest, Kept visit.position := by
                rw [List.forall_mem_cons, List.forall_mem_cons, firstHere, secondHere]
                exact ⟨here, here, later⟩
              rw [loop]
              split
              · exact ih rest entered left later
              · split
                · exact ih _ _ _ (both (.enter i) (.stop i) rfl rfl)
                · exact ih _ _ _ (both (.stop i) (.enter i) rfl rfl)
          | stop i =>
              rw [loop, List.forall_mem_cons]
              exact ⟨here, ih rest entered left later⟩

namespace Regex

variable {text : Array Char}

theorem bounds_of_mem_ends {regex : Regex} {i j : Nat} (member : j ∈ regex.ends text i)
    (within : i ≤ text.size) : i ≤ j ∧ j ≤ text.size := by
  induction regex generalizing i j with
  | empty =>
      rw [ends, List.mem_singleton] at member
      omega
  | set chars =>
      rw [ends] at member
      split at member
      · next c found =>
        obtain ⟨inside, -⟩ := Array.getElem?_eq_some_iff.mp found
        split at member
        · rw [List.mem_singleton] at member
          omega
        · cases member
      · cases member
  | look condition =>
      rw [ends] at member
      split at member
      · rw [List.mem_singleton] at member
        omega
      · cases member
  | cat first second firstIh secondIh =>
      rw [ends, List.mem_eraseDups] at member
      obtain ⟨middle, firstMember, secondMember⟩ := List.mem_flatMap.mp member
      have firstBounds := firstIh firstMember within
      have secondBounds := secondIh secondMember firstBounds.2
      omega
  | alt preferred other preferredIh otherIh =>
      rw [ends] at member
      rcases List.mem_append.mp member with member | member
      · exact preferredIh member within
      · exact otherIh member within
  | plus greedy body ih =>
      rw [ends] at member
      refine @forall_mem_loop _ (fun k => i ≤ k ∧ k ≤ text.size) ?_ greedy _ _ [] [] ?_ j member
      · intro k kept next nextMember
        have nextBounds := ih (List.mem_eraseDups.mp nextMember) kept.2
        omega
      · rw [List.forall_mem_singleton]
        exact ⟨Nat.le_refl i, within⟩

/-! Scans. -/

theorem mem_ends_of_mem_spansFrom {regex : Regex} {positions : List Nat} {last : Option Nat}
    {found : Found} (member : found ∈ regex.spansFrom text positions last) :
    found.start ∈ positions ∧ found.stop ∈ regex.ends text found.start := by
  induction positions generalizing last with
  | nil => cases member
  | cons i rest ih =>
      have passed {last : Option Nat} (member : found ∈ regex.spansFrom text rest last) :
          found.start ∈ i :: rest ∧ found.stop ∈ regex.ends text found.start :=
        ⟨List.mem_cons_of_mem i (ih member).1, (ih member).2⟩
      rw [spansFrom] at member
      split at member
      · exact passed member
      · split at member
        · exact passed member
        · next j ended =>
          split at member
          · exact passed member
          · rcases List.mem_cons.mp member with rfl | member
            · exact ⟨List.mem_cons_self, List.mem_of_head? ended⟩
            · exact passed member

theorem spansFrom_ne_nil {regex : Regex} {positions : List Nat} {i : Nat} (member : i ∈ positions)
    (ended : regex.ends text i ≠ []) : regex.spansFrom text positions none ≠ [] := by
  induction positions with
  | nil => cases member
  | cons first rest ih =>
      rw [spansFrom, Option.getD_none, if_neg (Nat.not_lt_zero first)]
      split
      · next never =>
        rcases List.mem_cons.mp member with rfl | member
        · exact absurd (List.head?_eq_none_iff.mp never) ended
        · exact ih member
      · rw [if_neg (by simp)]
        exact List.cons_ne_nil _ _

theorem bounds_of_mem_spans {regex : Regex} {found : Found} (member : found ∈ regex.spans text) :
    found.start ≤ found.stop ∧ found.stop ≤ text.size := by
  obtain ⟨position, ended⟩ := mem_ends_of_mem_spansFrom member
  exact bounds_of_mem_ends ended (Nat.le_of_lt_succ (List.mem_range.mp position))

theorem mem_ends_of_mem_spans {regex : Regex} {found : Found} (member : found ∈ regex.spans text) :
    found.stop ∈ regex.ends text found.start :=
  (mem_ends_of_mem_spansFrom member).2

/-- A scan finds something exactly if there is a match somewhere. -/
theorem spans_ne_nil_iff {regex : Regex} :
    regex.spans text ≠ [] ↔ ∃ i j, i ≤ text.size ∧ j ∈ regex.ends text i := by
  constructor
  · intro found
    obtain ⟨span, member⟩ := List.exists_mem_of_ne_nil _ found
    have bounds := bounds_of_mem_spans member
    exact ⟨span.start, span.stop, Nat.le_trans bounds.1 bounds.2, mem_ends_of_mem_spans member⟩
  · intro given
    obtain ⟨i, j, within, member⟩ := given
    exact spansFrom_ne_nil (List.mem_range.mpr (Nat.lt_succ_of_le within))
      (List.ne_nil_of_mem member)

/-! Matches follow each other: one that starts at a position is past the end of the last one. -/

theorem le_start_of_mem_spansFrom {regex : Regex} {positions : List Nat} {last : Option Nat}
    {found : Found} (within : ∀ i ∈ positions, i ≤ text.size)
    (member : found ∈ regex.spansFrom text positions last) : last.getD 0 ≤ found.start := by
  induction positions generalizing last with
  | nil => cases member
  | cons i rest ih =>
      rw [List.forall_mem_cons] at within
      obtain ⟨here, later⟩ := within
      rw [spansFrom] at member
      split at member
      · exact ih later member
      · next passed =>
        split at member
        · exact ih later member
        · next j ended =>
          split at member
          · exact ih later member
          · rcases List.mem_cons.mp member with rfl | member
            · exact Nat.le_of_not_lt passed
            · have forward := (bounds_of_mem_ends (List.mem_of_head? ended) here).1
              have beyond : j ≤ found.start := ih later member
              omega

theorem pairwise_spansFrom {regex : Regex} {positions : List Nat} {last : Option Nat}
    (within : ∀ i ∈ positions, i ≤ text.size) :
    (regex.spansFrom text positions last).Pairwise fun first second =>
      first.stop ≤ second.start := by
  induction positions generalizing last with
  | nil => exact .nil
  | cons i rest ih =>
      rw [List.forall_mem_cons] at within
      obtain ⟨-, later⟩ := within
      rw [spansFrom]
      split
      · exact ih later
      · split
        · exact ih later
        · split
          · exact ih later
          · refine List.pairwise_cons.mpr ⟨?_, ih later⟩
            intro found member
            exact le_start_of_mem_spansFrom later member

theorem pairwise_spans (regex : Regex) (text : Array Char) :
    (regex.spans text).Pairwise fun first second => first.stop ≤ second.start :=
  pairwise_spansFrom fun _ member => Nat.le_of_lt_succ (List.mem_range.mp member)

/-! Combinations. -/

theorem ends_firstOf (regexes : List Regex) (text : Array Char) (i : Nat) :
    (firstOf regexes).ends text i = regexes.flatMap fun regex => regex.ends text i := by
  induction regexes with
  | nil =>
      rw [firstOf, fail, ends]
      cases text[i]? <;> simp
  | cons regex rest ih =>
      cases rest with
      | nil => simp [firstOf]
      | cons second others =>
          rw [firstOf, ends, List.flatMap_cons, ih]
          exact nofun

theorem mem_ends_firstOf {regexes : List Regex} {i j : Nat} :
    j ∈ (firstOf regexes).ends text i ↔ ∃ regex ∈ regexes, j ∈ regex.ends text i := by
  rw [ends_firstOf, List.mem_flatMap]

/-- Whether a literal stands at a position. -/
def Spelled (caseSensitive : Bool) (text : Array Char) : List Char → (i : Nat) → Prop
  | [], _ => True
  | c :: rest, i =>
    (∃ d, text[i]? = some d ∧ (CharSet.literal caseSensitive c).contains d = true) ∧
      Spelled caseSensitive text rest (i + 1)

theorem mem_ends_set {chars : CharSet} {i j : Nat} :
    j ∈ (set chars).ends text i ↔
      j = i + 1 ∧ ∃ d, text[i]? = some d ∧ chars.contains d = true := by
  rw [ends]
  cases text[i]? with
  | none => simp
  | some d => by_cases member : chars.contains d = true <;> simp [member]

private theorem mem_ends_foldl {caseSensitive : Bool} {chars : List Char} {regex : Regex}
    {i j : Nat} :
    j ∈ (chars.foldl (fun regex c => cat regex (set (CharSet.literal caseSensitive c)))
        regex).ends text i ↔
      ∃ middle ∈ regex.ends text i,
        j = middle + chars.length ∧ Spelled caseSensitive text chars middle := by
  induction chars generalizing regex with
  | nil => simp [Spelled]
  | cons c rest ih =>
      rw [List.foldl_cons, ih]
      simp only [ends, List.mem_eraseDups, List.mem_flatMap, List.length_cons, Spelled]
      constructor
      · intro given
        obtain ⟨next, ⟨middle, member, read⟩, rfl, spelled⟩ := given
        obtain ⟨rfl, here⟩ := mem_ends_set.mp read
        exact ⟨middle, member, by omega, here, spelled⟩
      · intro given
        obtain ⟨middle, member, rfl, here, spelled⟩ := given
        exact ⟨middle + 1, ⟨middle, member, mem_ends_set.mpr ⟨rfl, here⟩⟩, by omega, spelled⟩

theorem mem_ends_literal {caseSensitive : Bool} {chars : List Char} {i j : Nat} :
    j ∈ (literal caseSensitive chars).ends text i ↔
      j = i + chars.length ∧ Spelled caseSensitive text chars i := by
  rw [literal, mem_ends_foldl]
  simp [ends]

theorem Spelled.exists_contains {caseSensitive : Bool} {chars : List Char} {i : Nat} {c : Char}
    (spelled : Spelled caseSensitive text chars i) (member : c ∈ chars) :
    ∃ k d, i ≤ k ∧ k < i + chars.length ∧ text[k]? = some d ∧
      (CharSet.literal caseSensitive c).contains d = true := by
  induction chars generalizing i with
  | nil => cases member
  | cons first rest ih =>
      obtain ⟨⟨d, read, contained⟩, restSpelled⟩ := spelled
      rw [List.length_cons]
      rcases List.mem_cons.mp member with rfl | member
      · exact ⟨i, d, Nat.le_refl i, by omega, read, contained⟩
      · obtain ⟨k, d, low, high, read, contained⟩ := ih restSpelled member
        exact ⟨k, d, by omega, by omega, read, contained⟩

end Regex

end Concordance.Pattern
