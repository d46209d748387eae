/-!
Odometers.  An odometer gives the choices of one element of each of several lists, one after the
other.  It has a position in every list, of which the last moves on at every step; a position that
has no room goes back to zero and moves the one before it, and when the first has no room either the
odometer is done.
-/

namespace Concordance.Match

/-- All choices of one element of each list, the last list varying fastest. -/
def choices {α : Type} : List (List α) → List (List α)
  | [] => [[]]
  | list :: rest => list.flatMap fun first => (choices rest).map (first :: ·)

structure Odometer (α : Type) where
  lists : List (List α)
  /-- The position in each list. -/
  cursor : List Nat
  done : Bool
deriving Repr

namespace Odometer

variable {α : Type}

def start (lists : List (List α)) : List Nat :=
  lists.map fun _ => 0

/-- The odometer before its first choice; there is none without lists, or if a list is empty. -/
def ofLists (lists : List (List α)) : Odometer α :=
  ⟨lists, start lists, lists.isEmpty || lists.any List.isEmpty⟩

def maxCount : Nat := UInt64.size - 1

/-- How many choices there are, up to the largest number that is counted to. -/
def size (odometer : Odometer α) : Nat :=
  if odometer.done then 0
  else odometer.lists.foldl (fun count list => min (count * list.length) maxCount) 1

/-- The elements at the positions; none if a position is out of range. -/
def pick? : List (List α) → List Nat → Option (List α)
  | [], [] => some []
  | list :: lists, position :: cursor => do
    let element ← list[position]?
    return element :: (← pick? lists cursor)
  | _, _ => none

/-- The positions one step on, and whether not even the first of them had room. -/
def turn : List (List α) → List Nat → List Nat × Bool
  | list :: lists, position :: cursor =>
    match turn lists cursor with
    | (next, false) => (position :: next, false)
    | (next, true) =>
      if position + 1 < list.length then ((position + 1) :: next, false) else (0 :: next, true)
  | _, _ => ([], true)

/-- The choice at the cursor, and the odometer one step on. -/
def next? (odometer : Odometer α) : Option (List α × Odometer α) :=
  if odometer.done then none
  else do
    let elements ← pick? odometer.lists odometer.cursor
    let (cursor, done) := turn odometer.lists odometer.cursor
    return (elements, { odometer with cursor, done })

/-! A step gives the first of the choices that are left. -/

/-- The choices at a cursor and after it. -/
def choicesFrom : List (List α) → List Nat → List (List α)
  | list :: lists, position :: cursor =>
    match list.drop position with
    | [] => []
    | first :: later =>
      (choicesFrom lists cursor).map (first :: ·) ++
        later.flatMap fun other => (choices lists).map (other :: ·)
  | _, _ => [[]]

theorem choicesFrom_start (lists : List (List α)) :
    choicesFrom lists (start lists) = choices lists := by
  induction lists with
  | nil => rfl
  | cons list lists ih =>
      cases list with
      | nil => rfl
      | cons first later =>
          show (choicesFrom lists (start lists)).map (first :: ·) ++ _ = _
          rw [ih, choices, List.flatMap_cons]

theorem pick?_cons_eq_some_iff {list : List α} {lists : List (List α)} {position : Nat}
    {cursor : List Nat} {elements : List α} :
    pick? (list :: lists) (position :: cursor) = some elements ↔
      ∃ first, list[position]? = some first ∧
        ∃ others, pick? lists cursor = some others ∧ first :: others = elements := by
  simp [pick?, Option.bind_eq_some_iff]

theorem choicesFrom_cons {list : List α} {position : Nat} {first : α}
    (found : list[position]? = some first) (lists : List (List α)) (cursor : List Nat) :
    choicesFrom (list :: lists) (position :: cursor) =
      (choicesFrom lists cursor).map (first :: ·) ++
        (list.drop (position + 1)).flatMap fun other => (choices lists).map (other :: ·) := by
  obtain ⟨here, rfl⟩ := List.getElem?_eq_some_iff.mp found
  rw [choicesFrom, List.drop_eq_getElem_cons here]

theorem forall_ne_nil_of_pick? {lists : List (List α)} {cursor : List Nat} {elements : List α}
    (picked : pick? lists cursor = some elements) : ∀ list ∈ lists, list ≠ [] := by
  fun_induction pick? lists cursor generalizing elements with
  | case1 => nofun
  | case2 list lists position cursor ih =>
      obtain ⟨_, found, _, othersPicked, -⟩ := pick?_cons_eq_some_iff.mp picked
      exact List.forall_mem_cons.mpr
        ⟨List.ne_nil_of_mem (List.mem_of_getElem? found), ih othersPicked⟩
  | case3 => cases picked

theorem exists_pick?_start {lists : List (List α)} (all : ∀ list ∈ lists, list ≠ []) :
    ∃ elements, pick? lists (start lists) = some elements := by
  induction lists with
  | nil => exact ⟨[], rfl⟩
  | cons list lists ih =>
      rw [List.forall_mem_cons] at all
      obtain ⟨others, picked⟩ := ih all.2
      have first := List.getElem?_eq_getElem (List.length_pos_iff.mpr all.1)
      exact ⟨_, pick?_cons_eq_some_iff.mpr ⟨_, first, others, picked, rfl⟩⟩

/-- A step gives the choice at the cursor.  It leaves those from the next positions on, or there are
no more. -/
theorem turn_cases {lists : List (List α)} {cursor : List Nat} {elements : List α}
    (picked : pick? lists cursor = some elements) :
    (∃ next others, turn lists cursor = (next, false) ∧ pick? lists next = some others ∧
      choicesFrom lists cursor = elements :: choicesFrom lists next) ∨
    turn lists cursor = (start lists, true) ∧ choicesFrom lists cursor = [elements] := by
  fun_induction pick? lists cursor generalizing elements with
  | case1 =>
      cases picked
      exact .inr ⟨rfl, rfl⟩
  | case2 list lists position cursor ih =>
      obtain ⟨first, found, others, othersPicked, rfl⟩ := pick?_cons_eq_some_iff.mp picked
      rcases ih othersPicked with ⟨next, nextOthers, turned, nextPicked, left⟩ | ⟨turned, left⟩
      · have whole : turn (list :: lists) (position :: cursor) = (position :: next, false) := by
          simp only [turn, turned]
        refine .inl ⟨_, first :: nextOthers, whole,
          pick?_cons_eq_some_iff.mpr ⟨first, found, nextOthers, nextPicked, rfl⟩, ?_⟩
        rw [choicesFrom_cons found, choicesFrom_cons found, left]
        rfl
      · rw [choicesFrom_cons found, left]
        by_cases room : position + 1 < list.length
        · -- The positions that follow are back at zero, where all their choices are left.
          have whole : turn (list :: lists) (position :: cursor) =
              ((position + 1) :: start lists, false) := by
            simp only [turn, turned, if_pos room]
          have nextFound := List.getElem?_eq_getElem room
          obtain ⟨nextOthers, nextPicked⟩ :=
            exists_pick?_start (forall_ne_nil_of_pick? othersPicked)
          refine .inl ⟨_, _, whole,
            pick?_cons_eq_some_iff.mpr ⟨_, nextFound, nextOthers, nextPicked, rfl⟩, ?_⟩
          rw [choicesFrom_cons nextFound, choicesFrom_start, List.drop_eq_getElem_cons room]
          rfl
        · have whole : turn (list :: lists) (position :: cursor) =
              (start (list :: lists), true) := by
            simp only [turn, turned, if_neg room, start, List.map_cons]
          rw [List.drop_eq_nil_of_le (Nat.not_lt.mp room)]
          exact .inr ⟨whole, rfl⟩
  | case3 => cases picked

/-- How many choices an odometer has yet to give. -/
def left (odometer : Odometer α) : Nat :=
  if odometer.done then 0 else (choicesFrom odometer.lists odometer.cursor).length

theorem left_lt {odometer next : Odometer α} {elements : List α}
    (stepped : odometer.next? = some (elements, next)) : next.left < odometer.left := by
  rw [next?] at stepped
  split at stepped
  · cases stepped
  · next running =>
    obtain ⟨picked, found, stepped⟩ := Option.bind_eq_some_iff.mp stepped
    cases stepped
    rw [left, left, if_neg running]
    rcases turn_cases found with ⟨cursor, others, turned, -, left⟩ | ⟨turned, left⟩
    · rw [turned, left]
      exact Nat.lt_succ_self _
    · rw [turned, left]
      exact Nat.one_pos

/-- All choices that an odometer has yet to give, in order. -/
def toList (odometer : Odometer α) : List (List α) :=
  match _stepped : odometer.next? with
  | some (elements, next) => elements :: next.toList
  | none => []
termination_by odometer.left
decreasing_by exact left_lt _stepped

end Odometer

end Concordance.Match
