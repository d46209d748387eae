import Concordance.Proofs.Expr.Support
import Mathlib.Data.Finset.Card
import Mathlib.Data.List.Dedup

/-!
The expansion of an expression without a limit, beside the largest number of terms that it comes to
on the way.  With a limit the terms are those of the expansion where that number is within the
limit, and there are none elsewhere; so what a limit decides is whether there is an answer, and
never which one.
-/

namespace Concordance.Expr

variable {assignment : Nat → Bool} {limit : Nat}

/-- Terms, and the largest number of terms that was compared with a limit to get them. -/
structure Expansion where
  terms : List Term
  peak : Nat

namespace Expansion

def append (left right : Expansion) : Expansion :=
  ⟨left.terms ++ right.terms,
    max (max left.peak right.peak) (left.terms.length + right.terms.length)⟩

def join (left right : Expansion) : Expansion :=
  ⟨joinTerms left.terms right.terms,
    max (max left.peak right.peak) (left.terms.length * right.terms.length)⟩

/-- The terms, given up where their number passes a limit on the way. -/
def within? (limit : Nat) (expansion : Expansion) : Option (List Term) :=
  if expansion.peak ≤ limit then some expansion.terms else none

theorem within?_eq_some {expansion : Expansion} (within : expansion.peak ≤ limit) :
    expansion.within? limit = some expansion.terms :=
  if_pos within

theorem within?_eq_none {expansion : Expansion} (beyond : limit < expansion.peak) :
    expansion.within? limit = none :=
  if_neg (Nat.not_le.mpr beyond)

/-- One child, with its terms, its count held against the limit, and the rest to follow. -/
theorem within?_step {found next combined whole : Expansion} {count : List Term → Nat}
    {rest : List Term → Option (List Term)} (within : found.peak ≤ limit)
    (peak : combined.peak = max (max found.peak next.peak) (count next.terms))
    (later : combined.peak ≤ whole.peak)
    (restEq : combined.peak ≤ limit → rest next.terms = whole.within? limit) :
    ((next.within? limit).bind fun terms => if limit < count terms then none else rest terms) =
      whole.within? limit := by
  by_cases nextWithin : next.peak ≤ limit
  · rw [within?_eq_some nextWithin, Option.bind_some]
    split
    · rw [within?_eq_none (by omega)]
    · exact restEq (by omega)
  · rw [within?_eq_none (by omega), within?_eq_none (by omega)]
    rfl

end Expansion

mutual

/-- The expansion of an expression, or of its negation if `polarity` is false. -/
def expand (polarity : Bool) : Expr → Expansion
  | const value => ⟨if value = polarity then [.always] else [], 0⟩
  | symbol id => ⟨[.ofSymbol polarity id], 0⟩
  | not inner => inner.expand (!polarity)
  | and children =>
    if polarity then expandConjunction polarity children ⟨[.always], 0⟩
    else expandDisjunction polarity children ⟨[], 0⟩
  | or children =>
    if polarity then expandDisjunction polarity children ⟨[], 0⟩
    else expandConjunction polarity children ⟨[.always], 0⟩

def expandDisjunction (polarity : Bool) : List Expr → Expansion → Expansion
  | [], found => found
  | child :: rest, found => expandDisjunction polarity rest (found.append (child.expand polarity))

def expandConjunction (polarity : Bool) : List Expr → Expansion → Expansion
  | [], found => found
  | child :: rest, found => expandConjunction polarity rest (found.join (child.expand polarity))

end

/-- The least limit that gives the terms of an expression. -/
def peak (expr : Expr) : Nat :=
  (expr.expand true).peak

theorem peak_le_expandDisjunction (polarity : Bool) (children : List Expr) (found : Expansion) :
    found.peak ≤ (expandDisjunction polarity children found).peak := by
  induction children generalizing found with
  | nil => exact Nat.le_refl _
  | cons child rest ih =>
      exact Nat.le_trans (by simp only [Expansion.append]; omega) (ih _)

theorem peak_le_expandConjunction (polarity : Bool) (children : List Expr) (found : Expansion) :
    found.peak ≤ (expandConjunction polarity children found).peak := by
  induction children generalizing found with
  | nil => exact Nat.le_refl _
  | cons child rest ih =>
      exact Nat.le_trans (by simp only [Expansion.join]; omega) (ih _)

mutual

theorem termsWith?_eq :
    ∀ (polarity : Bool) (expr : Expr),
      expr.termsWith? limit polarity = (expr.expand polarity).within? limit
  | _, const _ => rfl
  | _, symbol _ => rfl
  | polarity, not inner => termsWith?_eq (!polarity) inner
  | true, and children => conjunction?_eq true children ⟨[.always], 0⟩ (Nat.zero_le limit)
  | false, and children => disjunction?_eq false children ⟨[], 0⟩ (Nat.zero_le limit)
  | true, or children => disjunction?_eq true children ⟨[], 0⟩ (Nat.zero_le limit)
  | false, or children => conjunction?_eq false children ⟨[.always], 0⟩ (Nat.zero_le limit)

theorem disjunction?_eq :
    ∀ (polarity : Bool) (children : List Expr) (found : Expansion), found.peak ≤ limit →
      disjunction? limit polarity children found.terms =
        (expandDisjunction polarity children found).within? limit
  | _, [], _, within => (Expansion.within?_eq_some within).symm
  | polarity, child :: rest, found, within => by
      rw [disjunction?, expandDisjunction, termsWith?_eq polarity child]
      exact Expansion.within?_step within rfl (peak_le_expandDisjunction polarity rest _)
        (disjunction?_eq polarity rest (found.append (child.expand polarity)))

theorem conjunction?_eq :
    ∀ (polarity : Bool) (children : List Expr) (found : Expansion), found.peak ≤ limit →
      conjunction? limit polarity children found.terms =
        (expandConjunction polarity children found).within? limit
  | _, [], _, within => (Expansion.within?_eq_some within).symm
  | polarity, child :: rest, found, within => by
      rw [conjunction?, expandConjunction, termsWith?_eq polarity child]
      exact Expansion.within?_step within rfl (peak_le_expandConjunction polarity rest _)
        (conjunction?_eq polarity rest (found.join (child.expand polarity)))

end

theorem terms?_eq_none_iff {expr : Expr} : expr.terms? limit = none ↔ limit < expr.peak := by
  rw [terms?, termsWith?_eq, Expansion.within?, peak, ite_eq_right_iff, ← Nat.not_le]
  simp

/-- The expansion holds exactly where the expression does. -/
theorem anyHolds_expand_iff (expr : Expr) :
    AnyHolds assignment (expr.expand true).terms ↔ expr.eval assignment = true := by
  have expanded := termsWith?_eq true expr |>.trans (Expansion.within?_eq_some (Nat.le_refl _))
  exact anyHolds_termsWith?_iff expr expanded

/-! The least number of symbols. -/

theorem Term.holds_of_isSatisfiable {term : Term} (satisfiable : term.isSatisfiable = true) :
    term.Holds fun id => decide (id ∈ term.positive) := by
  constructor
  · exact fun id member => decide_eq_true member
  · intro id negated
    apply decide_eq_false
    intro member
    have apart := List.all_eq_true.mp satisfiable id member
    rw [List.contains_eq_mem, decide_eq_true negated] at apart
    cases apart

/-- The least number of positive symbols in a term of the expansion that can hold. -/
def leastSupport? (expr : Expr) : Option Nat :=
  (((expr.expand true).terms.filter Term.isSatisfiable).map fun term =>
    term.positive.length).min?

theorem minPositiveSupport?_eq (expr : Expr) :
    expr.minPositiveSupport? limit = if expr.peak ≤ limit then expr.leastSupport? else none := by
  rw [minPositiveSupport?, terms?, termsWith?_eq, Expansion.within?, peak]
  split <;> rfl

theorem minPositiveSupport?_eq_some_iff {expr : Expr} {minimum : Nat} :
    expr.minPositiveSupport? limit = some minimum ↔
      expr.peak ≤ limit ∧ expr.leastSupport? = some minimum := by
  rw [minPositiveSupport?_eq]
  split <;> simp_all

theorem leastSupport?_eq_none_iff {expr : Expr} :
    expr.leastSupport? = none ↔ ∀ assignment, expr.eval assignment = false := by
  rw [leastSupport?, List.min?_eq_none_iff, List.map_eq_nil_iff, List.filter_eq_nil_iff]
  constructor
  · intro none assignment
    rw [Bool.eq_false_iff, ne_eq, ← anyHolds_expand_iff]
    rintro ⟨term, member, holds⟩
    exact none term member (Term.isSatisfiable_of_holds holds)
  · intro never term member satisfiable
    have termHolds := Term.holds_of_isSatisfiable satisfiable
    have holds := (anyHolds_expand_iff expr).mp ⟨term, member, termHolds⟩
    rw [never] at holds
    cases holds

/-- A term with the least number of positive symbols holds where these alone are true. -/
theorem exists_chosen_of_leastSupport? {expr : Expr} {minimum : Nat}
    (least : expr.leastSupport? = some minimum) :
    ∃ chosen : Finset Nat, chosen.card = minimum ∧
      expr.eval (fun id => decide (id ∈ chosen)) = true := by
  obtain ⟨term, member, rfl⟩ := List.mem_map.mp (List.min?_mem least)
  obtain ⟨member, satisfiable⟩ := List.mem_filter.mp member
  have holds := Term.holds_of_isSatisfiable satisfiable
  have within := within_termsWith? expr (List.Subset.refl _)
    ((termsWith?_eq true expr).trans (Expansion.within?_eq_some (Nat.le_refl _))) term member
  refine ⟨term.positive.toFinset, ?_, ?_⟩
  · exact List.toFinset_card_of_nodup (within.sorted.imp Nat.ne_of_lt)
  · simp only [List.mem_toFinset]
    exact (anyHolds_expand_iff expr).mp ⟨term, member, holds⟩

/-- The positive symbols are listed once each, so counting them counts different symbols. -/
theorem card_filter_positiveSymbols (expr : Expr) (assignment : Nat → Bool) :
    (expr.positiveSymbols.toFinset.filter fun id => assignment id = true).card =
      expr.positiveSymbols.countP assignment := by
  have nodup : (expr.positiveSymbols.filter assignment).Nodup :=
    (nodup_collect (some true) true expr).filter assignment
  rw [← List.toFinset_filter, List.countP_eq_length_filter]
  simpa using List.toFinset_card_of_nodup nodup

/-- The least support is exact.  Where there is an answer, every assignment that makes the
expression true makes at least so many of its positive symbols true, some such assignment makes
exactly so many symbols true at all, and a larger limit gives the same answer.  For an expression
that can be true there is an answer from some limit on; and there is none exactly if nothing makes
the expression true or its expansion passes the limit, which it does below its peak. -/
theorem minPositiveSupport?_exact (expr : Expr) :
    (∀ limit minimum, expr.minPositiveSupport? limit = some minimum →
      (∀ assignment, expr.eval assignment = true →
        minimum ≤ (expr.positiveSymbols.toFinset.filter fun id => assignment id = true).card) ∧
      (∃ chosen : Finset Nat, chosen.card = minimum ∧
        expr.eval (fun id => decide (id ∈ chosen)) = true) ∧
      ∀ larger, limit ≤ larger → expr.minPositiveSupport? larger = some minimum) ∧
    ((∃ assignment, expr.eval assignment = true) →
      ∃ limit, ∀ larger, limit ≤ larger → (expr.minPositiveSupport? larger).isSome) ∧
    ∀ limit, (expr.terms? limit = none ↔ limit < expr.peak) ∧
      (expr.minPositiveSupport? limit = none ↔
        (∀ assignment, expr.eval assignment = false) ∨ limit < expr.peak) := by
  refine ⟨?_, ?_, ?_⟩
  · intro limit minimum supported
    obtain ⟨within, least⟩ := minPositiveSupport?_eq_some_iff.mp supported
    refine ⟨?_, exists_chosen_of_leastSupport? least, ?_⟩
    · intro assignment holds
      rw [card_filter_positiveSymbols]
      exact minPositiveSupport?_le supported holds
    · intro larger le
      exact minPositiveSupport?_eq_some_iff.mpr ⟨Nat.le_trans within le, least⟩
  · rintro ⟨assignment, holds⟩
    refine ⟨expr.peak, fun larger le => ?_⟩
    rw [minPositiveSupport?_eq, if_pos le, Option.isSome_iff_ne_none, ne_eq,
      leastSupport?_eq_none_iff]
    intro never
    rw [never assignment] at holds
    cases holds
  · intro limit
    refine ⟨terms?_eq_none_iff, ?_⟩
    rw [minPositiveSupport?_eq]
    split
    · next within => rw [leastSupport?_eq_none_iff, or_iff_left (Nat.not_lt.mpr within)]
    · next beyond => simp only [Nat.not_le.mp beyond, or_true]

/-- Two disjunctions that share a symbol need that symbol only, at the limit of their four joined
terms as at any larger one. -/
theorem minPositiveSupport?_exact_shared :
    let shared := and [or [symbol 0, symbol 1], or [symbol 0, symbol 2]]
    shared.minPositiveSupport? 3 = none ∧ shared.minPositiveSupport? 4 = some 1 ∧
      shared.minPositiveSupport? 1000 = some 1 ∧
      ∃ chosen : Finset Nat, chosen.card = 1 ∧
        shared.eval (fun id => decide (id ∈ chosen)) = true := by
  intro shared
  have supported : shared.minPositiveSupport? 4 = some 1 := by decide
  obtain ⟨-, exact, same⟩ := (minPositiveSupport?_exact shared).1 4 1 supported
  exact ⟨by decide, supported, same 1000 (by decide), exact⟩

end Concordance.Expr
