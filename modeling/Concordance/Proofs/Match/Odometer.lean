import Concordance.Proofs.Match.Products
import Mathlib.Algebra.BigOperators.Ring.List
import Mathlib.Algebra.GroupWithZero.Nat
import Mathlib.Logic.Function.Iterate

/-!
Odometers step by step.  An odometer on lists of positions gives its own cursor and steps as one on
the lists themselves does.  So its cursors are the choices of one position for each list.
-/

namespace Concordance.Match

variable {α : Type} {lists : List (List α)} {cursor : List Nat} {elements : List α}

/-- One position for each list, and all of them in their lists. -/
def Fits (lists : List (List α)) (cursor : List Nat) : Prop :=
  List.Forall₂ (fun position list => position < list.length) cursor lists

/-- How many combinations lists have. -/
def total (lists : List (List α)) : Nat :=
  if lists = [] then 0 else (lists.map List.length).prod

theorem total_eq_zero_iff : total lists = 0 ↔ lists = [] ∨ [] ∈ lists := by
  rw [total]
  split
  · next none => simp [none]
  · next some => simp [some, List.prod_eq_zero_iff]

theorem length_choices (lists : List (List α)) :
    (choices lists).length = (lists.map List.length).prod := by
  induction lists with
  | nil => rfl
  | cons list rest ih => simp [choices, List.length_flatMap, ih]

/-! Combinations of positions. -/

def positions (lists : List (List α)) : List (List Nat) :=
  lists.map fun list => List.range list.length

theorem positions_eq_nil_iff : positions lists = [] ↔ lists = [] :=
  List.map_eq_nil_iff

theorem length_combinations_positions (lists : List (List α)) :
    (combinations (positions lists)).length = total lists := by
  rw [combinations_eq, total]
  simp only [positions_eq_nil_iff]
  split
  · rfl
  · rw [length_choices, positions, List.map_map]
    congr 2
    funext list
    exact List.length_range

theorem mem_combinations_positions_iff :
    cursor ∈ combinations (positions lists) ↔ lists ≠ [] ∧ Fits lists cursor := by
  rw [mem_combinations_iff, ne_eq, positions_eq_nil_iff, positions, List.forall₂_map_right_iff]
  simp only [List.mem_range]
  rfl

theorem pairwise_combinations_positions (lists : List (List α)) :
    (combinations (positions lists)).Pairwise (List.Lex (· < ·)) := by
  apply pairwise_combinations
  simp only [positions, List.forall_mem_map]
  intro list _
  exact List.pairwise_lt_range

namespace Odometer

variable {odometer : Odometer α} {steps : Nat}

/-! What is at a cursor. -/

theorem exists_pick?_iff :
    (∃ elements, pick? lists cursor = some elements) ↔ Fits lists cursor := by
  fun_induction pick? lists cursor with
  | case1 => exact ⟨fun _ => .nil, fun _ => ⟨[], rfl⟩⟩
  | case2 list lists position cursor ih =>
      rw [Fits, List.forall₂_cons, ← Fits, ← ih]
      constructor
      · rintro ⟨_, picked⟩
        obtain ⟨_, found, others, othersPicked, -⟩ := pick?_cons_eq_some_iff.mp picked
        exact ⟨(List.getElem?_eq_some_iff.mp found).1, others, othersPicked⟩
      · rintro ⟨inside, others, picked⟩
        have found := List.getElem?_eq_getElem inside
        exact ⟨_, pick?_cons_eq_some_iff.mpr ⟨_, found, others, picked, rfl⟩⟩
  | case3 lists cursor bothNil bothCons =>
      constructor
      · rintro ⟨_, found⟩
        cases found
      · intro fits
        cases fits with
        | nil => exact (bothNil rfl rfl).elim
        | cons _ _ => exact (bothCons _ _ _ _ rfl rfl).elim

theorem zipWith_getElem?_of_pick? (picked : pick? lists cursor = some elements) :
    List.zipWith (fun list position => list[position]?) lists cursor = elements.map some := by
  fun_induction pick? lists cursor generalizing elements with
  | case1 =>
      cases picked
      rfl
  | case2 list lists position cursor ih =>
      obtain ⟨first, found, others, othersPicked, rfl⟩ := pick?_cons_eq_some_iff.mp picked
      rw [List.zipWith_cons_cons, found, ih othersPicked]
      rfl
  | case3 => cases picked

theorem pick?_positions (lists : List (List α)) (cursor : List Nat) :
    pick? (positions lists) cursor = (pick? lists cursor).map fun _ => cursor := by
  induction lists generalizing cursor with
  | nil => cases cursor <;> rfl
  | cons list lists ih =>
      cases cursor with
      | nil => rfl
      | cons position cursor =>
          show pick? (List.range list.length :: positions lists) (position :: cursor) = _
          rw [pick?, pick?, ih]
          cases pick? lists cursor <;> by_cases inside : position < list.length <;> simp [inside]

theorem turn_positions (lists : List (List α)) (cursor : List Nat) :
    turn (positions lists) cursor = turn lists cursor := by
  induction lists generalizing cursor with
  | nil => cases cursor <;> rfl
  | cons list lists ih =>
      cases cursor with
      | nil => rfl
      | cons position cursor =>
          show turn (List.range list.length :: positions lists) (position :: cursor) = _
          rw [turn, turn, ih, List.length_range]

/-! Steps. -/

/-- The odometer one step on; one that is done stays as it is. -/
def advance (odometer : Odometer α) : Odometer α :=
  match odometer.next? with
  | some (_, next) => next
  | none => odometer

theorem advance_of_next?_eq_none (finished : odometer.next? = none) :
    odometer.advance = odometer := by
  rw [advance, finished]

theorem advance_of_next?_eq_some {next : Odometer α}
    (stepped : odometer.next? = some (elements, next)) : odometer.advance = next := by
  rw [advance, stepped]

/-- The choices are what the steps give one after the other. -/
theorem getElem?_toList (odometer : Odometer α) (steps : Nat) :
    odometer.toList[steps]? = (advance^[steps] odometer).next?.map Prod.fst := by
  induction steps generalizing odometer with
  | zero =>
      cases stepped : odometer.next? with
      | none => simp [toList_of_next?_eq_none stepped, stepped]
      | some given => simp [toList_of_next?_eq_some stepped, stepped]
  | succ steps ih =>
      rw [Function.iterate_succ_apply, ← ih]
      cases stepped : odometer.next? with
      | none => simp [advance_of_next?_eq_none stepped, toList_of_next?_eq_none stepped]
      | some given => simp [advance_of_next?_eq_some stepped, toList_of_next?_eq_some stepped]

theorem of_next?_eq_some {next : Odometer α} (stepped : odometer.next? = some (elements, next)) :
    pick? odometer.lists odometer.cursor = some elements ∧ next.lists = odometer.lists := by
  rw [next?] at stepped
  split at stepped
  · cases stepped
  · obtain ⟨_, picked, stepped⟩ := Option.bind_eq_some_iff.mp stepped
    cases stepped
    exact ⟨picked, rfl⟩

theorem lists_advance (odometer : Odometer α) : odometer.advance.lists = odometer.lists := by
  cases stepped : odometer.next? with
  | none => rw [advance_of_next?_eq_none stepped]
  | some given => rw [advance_of_next?_eq_some stepped, (of_next?_eq_some stepped).2]

/-- Until it is done, the cursor is at a choice. -/
def InRange (odometer : Odometer α) : Prop :=
  odometer.done = true ∨ Fits odometer.lists odometer.cursor

theorem inRange_ofLists (lists : List (List α)) : (ofLists lists).InRange := by
  by_cases done : (ofLists lists).done = true
  · exact .inl done
  · exact .inr (exists_pick?_iff.mp (exists_pick?_start (full_of_not_done done).2))

theorem InRange.advance (inRange : odometer.InRange) : odometer.advance.InRange := by
  obtain ⟨lists, cursor, done⟩ := odometer
  cases done with
  | true => exact .inl (congrArg Odometer.done (advance_of_next?_eq_none (next?_of_done rfl)))
  | false =>
      have fits := inRange.resolve_left Bool.false_ne_true
      obtain ⟨elements, picked⟩ := exists_pick?_iff.mpr fits
      rw [advance_of_next?_eq_some (next?_of_pick? picked)]
      rcases turn_cases picked with ⟨next, others, turned, nextPicked, -⟩ | ⟨turned, -⟩
      · rw [turned]
        exact .inr (exists_pick?_iff.mp ⟨others, nextPicked⟩)
      · rw [turned]
        exact .inl rfl

theorem InRange.done_of_next?_eq_none (inRange : odometer.InRange)
    (finished : odometer.next? = none) : odometer.done = true := by
  by_contra running
  obtain ⟨elements, picked⟩ := exists_pick?_iff.mpr (inRange.resolve_left running)
  rw [next?, if_neg running, picked] at finished
  cases finished

/-- The odometer that goes over the positions in place of what is there. -/
def onPositions (odometer : Odometer α) : Odometer Nat :=
  { odometer with lists := positions odometer.lists }

theorem next?_onPositions (odometer : Odometer α) :
    odometer.onPositions.next? =
      odometer.next?.map fun given => (odometer.cursor, given.2.onPositions) := by
  obtain ⟨lists, cursor, done⟩ := odometer
  cases done with
  | true => rfl
  | false =>
      show next? ⟨positions lists, cursor, false⟩ = _
      simp only [next?, if_neg Bool.false_ne_true, pick?_positions, turn_positions]
      cases pick? lists cursor with
      | none => rfl
      | some elements => rfl

theorem advance_onPositions (odometer : Odometer α) :
    odometer.onPositions.advance = odometer.advance.onPositions := by
  rw [advance, advance, next?_onPositions]
  cases odometer.next? <;> rfl

theorem onPositions_ofLists (lists : List (List α)) :
    (ofLists lists).onPositions = ofLists (positions lists) := by
  have done : (ofLists lists).done = (ofLists (positions lists)).done := by
    rw [Bool.eq_iff_iff, done_ofLists_iff, done_ofLists_iff, positions_eq_nil_iff]
    simp [positions]
  have cursor : start (positions lists) = start lists := List.map_map
  show Odometer.mk (positions lists) (start lists) _ = ⟨positions lists, start (positions lists), _⟩
  rw [done, cursor]
  rfl

/-! Runs. -/

/-- The odometer on lists after some steps. -/
def after (lists : List (List α)) (steps : Nat) : Odometer α :=
  advance^[steps] (ofLists lists)

theorem after_succ (lists : List (List α)) (steps : Nat) :
    after lists (steps + 1) = (after lists steps).advance :=
  Function.iterate_succ_apply' ..

theorem lists_after (lists : List (List α)) (steps : Nat) : (after lists steps).lists = lists := by
  induction steps with
  | zero => rfl
  | succ steps ih => rw [after_succ, lists_advance, ih]

theorem inRange_after (lists : List (List α)) (steps : Nat) : (after lists steps).InRange := by
  induction steps with
  | zero => exact inRange_ofLists lists
  | succ steps ih =>
      rw [after_succ]
      exact ih.advance

theorem onPositions_after (lists : List (List α)) (steps : Nat) :
    (after lists steps).onPositions = after (positions lists) steps := by
  induction steps with
  | zero => exact onPositions_ofLists lists
  | succ steps ih => rw [after_succ, after_succ, ← ih, advance_onPositions]

theorem getElem?_combinations_positions (lists : List (List α)) (steps : Nat) :
    (combinations (positions lists))[steps]? =
      (after lists steps).next?.map fun _ => (after lists steps).cursor := by
  rw [combinations, getElem?_toList, ← after, ← onPositions_after, next?_onPositions,
    Option.map_map]
  rfl

theorem next?_after_eq_none_iff : (after lists steps).next? = none ↔ total lists ≤ steps := by
  rw [← length_combinations_positions, ← List.getElem?_eq_none_iff,
    getElem?_combinations_positions, Option.map_eq_none_iff]

theorem getElem?_combinations_positions_eq_some_iff :
    (combinations (positions lists))[steps]? = some cursor ↔
      steps < total lists ∧ (after lists steps).cursor = cursor := by
  rw [getElem?_combinations_positions, Option.map_eq_some_iff, ← not_le, ← next?_after_eq_none_iff,
    ← ne_eq, Option.ne_none_iff_exists', exists_and_right]

theorem fits_cursor_after (inside : steps < total lists) :
    Fits lists (after lists steps).cursor := by
  have found := getElem?_combinations_positions_eq_some_iff.mpr ⟨inside, rfl⟩
  exact (mem_combinations_positions_iff.mp (List.mem_of_getElem? found)).2

theorem next?_after (inside : steps < total lists) :
    ∃ elements, (after lists steps).next? = some (elements, after lists (steps + 1)) ∧
      pick? lists (after lists steps).cursor = some elements := by
  have running : (after lists steps).next? ≠ none :=
    fun finished => inside.not_ge (next?_after_eq_none_iff.mp finished)
  obtain ⟨⟨elements, next⟩, stepped⟩ := Option.ne_none_iff_exists'.mp running
  obtain ⟨picked, -⟩ := of_next?_eq_some stepped
  rw [lists_after] at picked
  refine ⟨elements, ?_, picked⟩
  rw [after_succ, advance_of_next?_eq_some stepped, stepped]

theorem lex_cursor_after {earlier later : Nat} (before : earlier < later)
    (inside : later < total lists) :
    List.Lex (· < ·) (after lists earlier).cursor (after lists later).cursor := by
  have sorted := List.pairwise_iff_getElem.mp (pairwise_combinations_positions lists)
  have cursor {steps : Nat} (inside : steps < total lists) :
      (combinations (positions lists))[steps]? = some (after lists steps).cursor :=
    getElem?_combinations_positions_eq_some_iff.mpr ⟨inside, rfl⟩
  obtain ⟨earlierBound, earlierFound⟩ :=
    List.getElem?_eq_some_iff.mp (cursor (before.trans inside))
  obtain ⟨laterBound, laterFound⟩ := List.getElem?_eq_some_iff.mp (cursor inside)
  rw [← earlierFound, ← laterFound]
  exact sorted _ _ earlierBound laterBound before

theorem cursor_after_ne {earlier later : Nat} (before : earlier < later)
    (inside : later < total lists) :
    (after lists earlier).cursor ≠ (after lists later).cursor :=
  (List.Lex.imp (fun _ _ => Nat.ne_of_lt) _ _ (lex_cursor_after before inside)).to_ne

theorem existsUnique_cursor_after (some : lists ≠ []) (fits : Fits lists cursor) :
    ∃! steps, steps < total lists ∧ (after lists steps).cursor = cursor := by
  have member := mem_combinations_positions_iff.mpr ⟨some, fits⟩
  obtain ⟨steps, found⟩ := List.mem_iff_getElem?.mp member
  obtain ⟨inside, rfl⟩ := getElem?_combinations_positions_eq_some_iff.mp found
  refine ⟨steps, ⟨inside, rfl⟩, ?_⟩
  rintro other ⟨otherInside, same⟩
  rcases Nat.lt_trichotomy other steps with before | equal | after
  · exact (cursor_after_ne before inside same).elim
  · exact equal
  · exact (cursor_after_ne after otherInside same.symm).elim

/-! The size. -/

theorem foldl_saturated (lists : List (List α)) (full : ∀ list ∈ lists, list ≠ []) (count : Nat) :
    lists.foldl (fun count list => min (count * list.length) maxCount) (min count maxCount) =
      min (count * (lists.map List.length).prod) maxCount := by
  induction lists generalizing count with
  | nil => simp
  | cons list lists ih =>
      rw [List.forall_mem_cons] at full
      have room : 0 < list.length := List.length_pos_iff.mpr full.1
      have next : min (min count maxCount * list.length) maxCount =
          min (count * list.length) maxCount := by
        have most : maxCount ≤ maxCount * list.length := Nat.le_mul_of_pos_right maxCount room
        rw [← Nat.mul_min_mul_right, Nat.min_assoc, Nat.min_eq_right most]
      rw [List.foldl_cons, next, ih full.2, List.map_cons, List.prod_cons, Nat.mul_assoc]

theorem size_ofLists (lists : List (List α)) :
    (ofLists lists).size = min (total lists) maxCount := by
  rw [size]
  split
  · next done =>
    rw [total_eq_zero_iff.mpr (done_ofLists_iff.mp done), Nat.zero_min]
  · next running =>
    obtain ⟨some, all⟩ := full_of_not_done running
    rw [total, if_neg some]
    exact (foldl_saturated lists all 1).trans (by rw [Nat.one_mul])

/-! The whole run. -/

/-- Until it is done the cursor is in range, and a step gives what is there.  It comes once to every
choice of positions, in lexicographic order, and is done when there are no more. -/
theorem after_enumerates (lists : List (List α)) :
    (∀ steps < total lists, Fits lists (after lists steps).cursor ∧
      ∃ elements, (after lists steps).next? = some (elements, after lists (steps + 1)) ∧
        List.zipWith (fun list position => list[position]?) lists (after lists steps).cursor =
          elements.map some) ∧
    (∀ steps ≥ total lists, (after lists steps).done = true ∧ (after lists steps).next? = none) ∧
    (∀ later < total lists, ∀ earlier < later,
      List.Lex (· < ·) (after lists earlier).cursor (after lists later).cursor) ∧
    (lists ≠ [] → ∀ cursor, Fits lists cursor →
      ∃! steps, steps < total lists ∧ (after lists steps).cursor = cursor) ∧
    ((ofLists lists).next? = none ↔ lists = [] ∨ [] ∈ lists) ∧
    (ofLists lists).size = min (total lists) maxCount ∧
    ∀ steps, (combinations lists)[steps]? = (after lists steps).next?.map Prod.fst := by
  refine ⟨?running, ?finished, ?ordered, ?complete, ?none, size_ofLists lists, ?given⟩
  case running =>
    intro steps inside
    obtain ⟨elements, stepped, picked⟩ := next?_after inside
    exact ⟨fits_cursor_after inside, elements, stepped, zipWith_getElem?_of_pick? picked⟩
  case finished =>
    intro steps beyond
    have none := next?_after_eq_none_iff.mpr beyond
    exact ⟨(inRange_after lists steps).done_of_next?_eq_none none, none⟩
  case ordered => exact fun later inside earlier before => lex_cursor_after before inside
  case complete => exact fun some cursor fits => existsUnique_cursor_after some fits
  case none =>
    rw [← total_eq_zero_iff, ← Nat.le_zero]
    show (after lists 0).next? = none ↔ _
    exact next?_after_eq_none_iff
  case given => exact fun steps => getElem?_toList (ofLists lists) steps

example :
    (List.range 7).map (fun steps => (after [[0, 1], [5, 6, 7]] steps).next?.map Prod.fst) =
      [some [0, 5], some [0, 6], some [0, 7], some [1, 5], some [1, 6], some [1, 7], none] := by
  decide

end Odometer

end Concordance.Match
