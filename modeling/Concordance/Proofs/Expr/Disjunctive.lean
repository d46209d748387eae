import Concordance.Proofs.Expr.Support

/-!
The terms of an expression as its disjunctive form.  One of them holds exactly where the expression
does, whatever the limit; there are no more of them than the limit, but for the single term of a
literal or of an empty conjunction; and the negation normal form has the same terms.
-/

namespace Concordance.Expr

variable {expr : Expr} {children : List Expr} {polarity : Bool} {limit bound : Nat}
  {found terms : List Term}

/-! The number of terms.  What a child brings is held against the limit, so the terms of the
children need no bound of their own. -/

theorem length_disjunction?_le (within : found.length ≤ bound) (wide : limit ≤ bound)
    (expanded : disjunction? limit polarity children found = some terms) :
    terms.length ≤ bound := by
  induction children generalizing found with
  | nil =>
      cases expanded
      exact within
  | cons child rest ih =>
      rw [disjunction?, Option.bind_eq_bind, Option.bind_eq_some_iff] at expanded
      obtain ⟨childTerms, -, expanded⟩ := expanded
      split at expanded
      · cases expanded
      · next counted =>
        have sum : (found ++ childTerms).length ≤ bound := by
          rw [List.length_append]
          exact Nat.le_trans (Nat.not_lt.mp counted) wide
        exact ih sum expanded

theorem length_conjunction?_le (within : found.length ≤ bound) (wide : limit ≤ bound)
    (expanded : conjunction? limit polarity children found = some terms) :
    terms.length ≤ bound := by
  induction children generalizing found with
  | nil =>
      cases expanded
      exact within
  | cons child rest ih =>
      rw [conjunction?, Option.bind_eq_bind, Option.bind_eq_some_iff] at expanded
      obtain ⟨childTerms, -, expanded⟩ := expanded
      split at expanded
      · cases expanded
      · next counted =>
        have product : (joinTerms found childTerms).length ≤ bound :=
          calc (joinTerms found childTerms).length
            _ ≤ found.length * childTerms.length := length_joinTerms_le found childTerms
            _ ≤ limit := Nat.not_lt.mp counted
            _ ≤ bound := wide
        exact ih product expanded

theorem length_termsWith?_le :
    ∀ {polarity : Bool} (expr : Expr) {terms : List Term},
      expr.termsWith? limit polarity = some terms → terms.length ≤ max limit 1
  | polarity, const value, terms, expanded => by
      rw [termsWith?, Option.some.injEq] at expanded
      subst expanded
      split
      · exact Nat.le_max_right limit 1
      · exact Nat.zero_le _
  | polarity, symbol id, terms, expanded => by
      rw [termsWith?, Option.some.injEq] at expanded
      subst expanded
      exact Nat.le_max_right limit 1
  | polarity, not inner, terms, expanded => length_termsWith?_le inner expanded
  | polarity, and children, terms, expanded => by
      have single : [Term.always].length ≤ max limit 1 := Nat.le_max_right limit 1
      rw [termsWith?] at expanded
      split at expanded
      · exact length_conjunction?_le single (Nat.le_max_left limit 1) expanded
      · exact length_disjunction?_le (Nat.zero_le _) (Nat.le_max_left limit 1) expanded
  | polarity, or children, terms, expanded => by
      have single : [Term.always].length ≤ max limit 1 := Nat.le_max_right limit 1
      rw [termsWith?] at expanded
      split at expanded
      · exact length_disjunction?_le (Nat.zero_le _) (Nat.le_max_left limit 1) expanded
      · exact length_conjunction?_le single (Nat.le_max_left limit 1) expanded

/-! Negation normal form. -/

mutual

/-- Pushing negations down first leaves the terms as they are, their order and the limit included.
-/
theorem termsWith?_nnfWith :
    ∀ (polarity : Bool) (expr : Expr),
      (expr.nnfWith polarity).termsWith? limit true = expr.termsWith? limit polarity
  | true, const true => rfl
  | true, const false => rfl
  | false, const true => rfl
  | false, const false => rfl
  | true, symbol _ => rfl
  | false, symbol _ => rfl
  | polarity, not inner => termsWith?_nnfWith (!polarity) inner
  | true, and children => conjunction?_nnfAll true children
  | false, and children => disjunction?_nnfAll false children
  | true, or children => disjunction?_nnfAll true children
  | false, or children => conjunction?_nnfAll false children

theorem disjunction?_nnfAll :
    ∀ (polarity : Bool) (children : List Expr) {found : List Term},
      disjunction? limit true (nnfAll polarity children) found =
        disjunction? limit polarity children found
  | _, [], _ => rfl
  | polarity, child :: rest, found => by
      simp only [nnfAll, disjunction?, termsWith?_nnfWith polarity child,
        disjunction?_nnfAll polarity rest]

theorem conjunction?_nnfAll :
    ∀ (polarity : Bool) (children : List Expr) {found : List Term},
      conjunction? limit true (nnfAll polarity children) found =
        conjunction? limit polarity children found
  | _, [], _ => rfl
  | polarity, child :: rest, found => by
      simp only [nnfAll, conjunction?, termsWith?_nnfWith polarity child,
        conjunction?_nnfAll polarity rest]

end

/-! The disjunctive form. -/

/-- An expression is true exactly where one of its terms holds: where its positive symbols are all
true and its negative ones all false.  The terms are within the limit, or but one where the limit is
zero, and the negation normal form has the same. -/
theorem terms?_disjunctive (expanded : expr.terms? limit = some terms) :
    (∀ assignment : Nat → Bool, expr.eval assignment = true ↔
      ∃ term ∈ terms, (∀ id ∈ term.positive, assignment id = true) ∧
        ∀ id ∈ term.negative, assignment id = false) ∧
      terms.length ≤ max limit 1 ∧ expr.toNnf.terms? limit = some terms := by
  refine ⟨?_, length_termsWith?_le expr expanded, ?_⟩
  · intro assignment
    rw [← anyHolds_termsWith?_iff expr expanded]
    constructor
    · rintro ⟨term, member, positive, negative⟩
      exact ⟨term, member, positive, negative⟩
    · rintro ⟨term, member, positive, negative⟩
      exact ⟨term, member, positive, negative⟩
  · rw [terms?, toNnf, termsWith?_nnfWith]
    exact expanded

/-! A negated conjunction beside a disjunction: of the four joined terms one contradicts itself. -/

def notBothThenEither : Expr :=
  and [not (and [symbol 0, symbol 1]), or [symbol 0, not (symbol 2)]]

theorem terms?_disjunctive_notBothThenEither :
    notBothThenEither.terms? 3 = none ∧
      notBothThenEither.terms? 4 = some [⟨[], [0, 2]⟩, ⟨[0], [1]⟩, ⟨[], [1, 2]⟩] ∧
      (notBothThenEither.eval fun id => id == 0) = true ∧
      (notBothThenEither.eval fun id => id != 0) = false := by
  have expanded : notBothThenEither.terms? 4 =
      some [⟨[], [0, 2]⟩, ⟨[0], [1]⟩, ⟨[], [1, 2]⟩] := by decide
  obtain ⟨sameTruth, -⟩ := terms?_disjunctive expanded
  refine ⟨by decide, expanded, (sameTruth _).mpr ⟨⟨[0], [1]⟩, by decide, by decide⟩, ?_⟩
  rw [Bool.eq_false_iff, ne_eq, sameTruth]
  decide

end Concordance.Expr
