import Concordance.Event

/-!
Computations with an account of what they did: the events they reported and the layers whose token
index they needed, in order.  The account is kept up to an error, and the outcome does not depend on
it (`outcome_bind`).
-/

namespace Concordance

/-! Outcomes in sequence. -/

section

variable {ε α β : Type}

@[simp] theorem ok_bind (a : α) (next : α → Except ε β) : (Except.ok a >>= next) = next a := rfl

@[simp] theorem error_bind (error : ε) (next : α → Except ε β) :
    (Except.error error >>= next) = .error error := rfl

@[simp] theorem ok_mapError {δ : Type} (f : ε → δ) (a : α) :
    (Except.ok a).mapError f = .ok a := rfl

theorem bind_eq_ok_iff {first : Except ε α} {next : α → Except ε β} {b : β} :
    (first >>= next) = .ok b ↔ ∃ a, first = .ok a ∧ next a = .ok b := by
  cases first with
  | error error => simp
  | ok a => simp

/-- A function that succeeds on all elements of a list maps it. -/
theorem mapM_eq_ok_map {f : α → Except ε β} {g : α → β} {list : List α}
    (succeeds : ∀ a ∈ list, f a = .ok (g a)) : list.mapM f = .ok (list.map g) := by
  induction list with
  | nil => rfl
  | cons a rest ih =>
      rw [List.forall_mem_cons] at succeeds
      rw [List.mapM_cons, succeeds.1, ih succeeds.2]
      rfl

end

inductive Effect where
  | event (event : Event)
  /-- The token index of a layer was needed. -/
  | indexed (key : LayerKey)
  /-- The token index of a layer of a stored document was needed. -/
  | indexedWithin (id : String) (key : LayerKey)
  /-- The documents of a batch were asked for. -/
  | fetched (ids : List String)
deriving Repr

structure Traced (ε α : Type) where
  effects : List Effect
  outcome : Except ε α

namespace Traced

variable {ε α β : Type}

def bind (first : Traced ε α) (next : α → Traced ε β) : Traced ε β :=
  match first.outcome with
  | .ok a => ⟨first.effects ++ (next a).effects, (next a).outcome⟩
  | .error e => ⟨first.effects, .error e⟩

instance : Monad (Traced ε) where
  pure a := ⟨[], .ok a⟩
  bind := bind

instance : MonadLift (Except ε) (Traced ε) where
  monadLift outcome := ⟨[], outcome⟩

instance : MonadExceptOf ε (Traced ε) where
  throw e := ⟨[], .error e⟩
  tryCatch first handler :=
    match first.outcome with
    | .ok _ => first
    | .error e => ⟨first.effects ++ (handler e).effects, (handler e).outcome⟩

def report (event : Event) : Traced ε Unit :=
  ⟨[.event event], .ok ()⟩

def reportFetch (ids : List String) : Traced ε Unit :=
  ⟨[.fetched ids], .ok ()⟩

def needIndex (key : LayerKey) : Traced ε Unit :=
  ⟨[.indexed key], .ok ()⟩

def mapError {δ : Type} (f : ε → δ) (traced : Traced ε α) : Traced δ α :=
  ⟨traced.effects, traced.outcome.mapError f⟩

def attempt {δ : Type} (traced : Traced ε α) : Traced δ (Except ε α) :=
  ⟨traced.effects, .ok traced.outcome⟩

/-- The same computation with its document known as a stored one. -/
def within (id : String) (traced : Traced ε α) : Traced ε α :=
  ⟨traced.effects.map fun
    | .indexed key => .indexedWithin id key
    | effect => effect, traced.outcome⟩

def lines (traced : Traced ε α) : List String :=
  traced.effects.filterMap fun
    | .event event => some event.line
    | _ => none

def needed (traced : Traced ε α) : List LayerKey :=
  traced.effects.filterMap fun
    | .indexed key => some key
    | _ => none

/-- The layers of a stored document whose index was needed. -/
def neededWithin (id : String) (traced : Traced ε α) : List LayerKey :=
  traced.effects.filterMap fun
    | .indexedWithin other key => if other = id then some key else none
    | _ => none

def batches (traced : Traced ε α) : List (List String) :=
  traced.effects.filterMap fun
    | .fetched ids => some ids
    | _ => none

@[simp] theorem outcome_pure (a : α) : (pure a : Traced ε α).outcome = .ok a := rfl

@[simp] theorem outcome_bind (first : Traced ε α) (next : α → Traced ε β) :
    (first >>= next).outcome = first.outcome >>= fun a => (next a).outcome := by
  show (Traced.bind first next).outcome = Except.bind first.outcome _
  unfold Traced.bind Except.bind
  split <;> simp [*]

@[simp] theorem outcome_report (event : Event) :
    (report event : Traced ε Unit).outcome = .ok () := rfl

@[simp] theorem outcome_reportFetch (ids : List String) :
    (reportFetch ids : Traced ε Unit).outcome = .ok () := rfl

@[simp] theorem outcome_needIndex (key : LayerKey) :
    (needIndex key : Traced ε Unit).outcome = .ok () := rfl

@[simp] theorem outcome_mapError {δ : Type} (f : ε → δ) (traced : Traced ε α) :
    (traced.mapError f).outcome = traced.outcome.mapError f := rfl

@[simp] theorem outcome_within (id : String) (traced : Traced ε α) :
    (traced.within id).outcome = traced.outcome := rfl

@[simp] theorem outcome_liftM (outcome : Except ε α) :
    (liftM outcome : Traced ε α).outcome = outcome := rfl

@[simp] theorem outcome_attempt {δ : Type} (traced : Traced ε α) :
    (traced.attempt : Traced δ (Except ε α)).outcome = .ok traced.outcome := rfl

@[simp] theorem liftM_ok_bind (a : α) (next : α → Traced ε β) :
    (liftM (Except.ok a : Except ε α) >>= next) = next a := rfl

/-! What a computation needed. -/

@[simp] theorem needed_pure (a : α) : (pure a : Traced ε α).needed = [] := rfl

@[simp] theorem needed_report (event : Event) : (report event : Traced ε Unit).needed = [] := rfl

@[simp] theorem needed_needIndex (key : LayerKey) :
    (needIndex key : Traced ε Unit).needed = [key] := rfl

@[simp] theorem needed_liftM (outcome : Except ε α) :
    (liftM outcome : Traced ε α).needed = [] := rfl

theorem needed_bind {first : Traced ε α} {a : α} (succeeds : first.outcome = .ok a)
    (next : α → Traced ε β) : (first >>= next).needed = first.needed ++ (next a).needed := by
  show (Traced.bind first next).needed = _
  rw [Traced.bind, succeeds]
  exact List.filterMap_append

theorem needed_bind_error {first : Traced ε α} {error : ε} (fails : first.outcome = .error error)
    (next : α → Traced ε β) : (first >>= next).needed = first.needed := by
  show (Traced.bind first next).needed = _
  rw [Traced.bind, fails]
  rfl

theorem needed_bind_of_nil (first : Traced ε α) {next : α → Traced ε β}
    (none : ∀ a, (next a).needed = []) : (first >>= next).needed = first.needed := by
  cases result : first.outcome with
  | error error => exact needed_bind_error result next
  | ok a => rw [needed_bind result, none, List.append_nil]

end Traced

end Concordance
