import Concordance.Match.Combine

/-!
What odometers give.  From a cursor on it is the choices that are left there, so that an odometer at
its start gives all of them; but it gives nothing if there are no lists, of which there is one
choice.
-/

namespace Concordance.Match

variable {α : Type} {lists : List (List α)}

theorem choices_ne_nil_iff : choices lists ≠ [] ↔ ∀ list ∈ lists, list ≠ [] := by
  induction lists with
  | nil => simp [choices]
  | cons list rest ih =>
      rw [choices, List.forall_mem_cons, ← ih, ne_eq, List.flatMap_eq_nil_iff]
      simp only [List.map_eq_nil_iff]
      cases list with
      | nil => simp
      | cons first others =>
          constructor
          · intro some
            exact ⟨List.cons_ne_nil first others, fun none => some fun _ _ => none⟩
          · intro given none
            obtain ⟨-, some⟩ := given
            exact some (none first List.mem_cons_self)

namespace Odometer

variable {odometer next : Odometer α} {cursor : List Nat} {elements : List α}

/-! Steps. -/

theorem next?_of_done (done : odometer.done = true) : odometer.next? = none := by
  rw [next?, if_pos done]

theorem next?_of_pick? (picked : pick? lists cursor = some elements) :
    next? ⟨lists, cursor, false⟩ =
      some (elements, ⟨lists, (turn lists cursor).1, (turn lists cursor).2⟩) := by
  rw [next?, if_neg Bool.false_ne_true, picked]
  rfl

theorem toList_of_next?_eq_none (finished : odometer.next? = none) : odometer.toList = [] := by
  rw [toList]
  split
  · next stepped =>
    rw [finished] at stepped
    cases stepped
  · rfl

theorem toList_of_next?_eq_some (stepped : odometer.next? = some (elements, next)) :
    odometer.toList = elements :: next.toList := by
  rw [toList]
  split
  · next given =>
    rw [stepped] at given
    cases given
    rfl
  · next finished =>
    rw [stepped] at finished
    cases finished

/-! The start. -/

theorem done_ofLists_iff : (ofLists lists).done = true ↔ lists = [] ∨ [] ∈ lists := by
  simp [ofLists]

theorem full_of_not_done (running : ¬(ofLists lists).done = true) :
    lists ≠ [] ∧ ∀ list ∈ lists, list ≠ [] := by
  rw [done_ofLists_iff, not_or] at running
  exact ⟨running.1, fun list member none => running.2 (none ▸ member)⟩

theorem ofLists_eq (some : lists ≠ []) (all : ∀ list ∈ lists, list ≠ []) :
    ofLists lists = ⟨lists, start lists, false⟩ := by
  have running : (ofLists lists).done = false := by
    rw [Bool.eq_false_iff, ne_eq, done_ofLists_iff]
    rintro (none | empty)
    · exact some none
    · exact all [] empty rfl
  rw [← running]
  rfl

/-! What is given. -/

/-- An odometer gives the choices that are left at its cursor. -/
theorem toList_eq_choicesFrom (picked : pick? lists cursor = some elements) :
    toList ⟨lists, cursor, false⟩ = choicesFrom lists cursor := by
  induction given : choicesFrom lists cursor generalizing cursor elements with
  | nil =>
      rcases turn_cases picked with ⟨_, _, -, -, left⟩ | ⟨-, left⟩
      · cases left.symm.trans given
      · cases left.symm.trans given
  | cons first later ih =>
      rw [toList_of_next?_eq_some (next?_of_pick? picked)]
      rcases turn_cases picked with ⟨next, others, turned, nextPicked, left⟩ | ⟨turned, left⟩
      · obtain ⟨rfl, rfl⟩ := List.cons.inj (left.symm.trans given)
        rw [turned, ih nextPicked rfl]
      · obtain ⟨rfl, rfl⟩ := List.cons.inj (left.symm.trans given)
        rw [turned, toList_of_next?_eq_none (next?_of_done rfl)]

end Odometer

theorem combinations_eq (lists : List (List α)) :
    combinations lists = if lists = [] then [] else choices lists := by
  by_cases done : (Odometer.ofLists lists).done = true
  · rw [combinations, Odometer.toList_of_next?_eq_none (Odometer.next?_of_done done)]
    split
    · rfl
    · next some =>
      have empty := (Odometer.done_ofLists_iff.mp done).resolve_left some
      have none : choices lists = [] :=
        Classical.not_not.mp fun found => choices_ne_nil_iff.mp found [] empty rfl
      exact none.symm
  · obtain ⟨some, all⟩ := Odometer.full_of_not_done done
    obtain ⟨elements, picked⟩ := Odometer.exists_pick?_start all
    rw [if_neg some, combinations, Odometer.ofLists_eq some all,
      Odometer.toList_eq_choicesFrom picked, Odometer.choicesFrom_start]

end Concordance.Match
