import Concordance.Expr.Support
import Concordance.Proofs.Expr.Simplify
import Concordance.Proofs.Expr.Symbols

/-!
The disjunctive form of an expression holds exactly where the expression does, and its terms ask for
positive symbols of the expression only.  So whatever makes an expression true makes at least as
many of its positive symbols true as the thresholds say.
-/

namespace Concordance.Expr

variable {assignment : Nat → Bool} {limit : Nat}

namespace Term

/-- What a term asks of an assignment. -/
structure Holds (assignment : Nat → Bool) (term : Term) : Prop where
  positive : ∀ id ∈ term.positive, assignment id = true
  negative : ∀ id ∈ term.negative, assignment id = false

theorem holds_always : always.Holds assignment :=
  ⟨nofun, nofun⟩

theorem holds_ofSymbol_iff (polarity : Bool) (id : Nat) :
    (ofSymbol polarity id).Holds assignment ↔ assignment id = polarity := by
  cases polarity with
  | true => exact ⟨fun holds => holds.positive id (by simp [ofSymbol]),
      fun value => ⟨by simp [ofSymbol, value], by simp [ofSymbol]⟩⟩
  | false => exact ⟨fun holds => holds.negative id (by simp [ofSymbol]),
      fun value => ⟨by simp [ofSymbol], by simp [ofSymbol, value]⟩⟩

private theorem mem_foldr_insertSymbol {id : Nat} {left right : List Nat} :
    id ∈ right.foldr insertSymbol left ↔ id ∈ left ∨ id ∈ right := by
  induction right with
  | nil => simp
  | cons new rest ih =>
      rw [List.foldr_cons, mem_insertSymbol, ih, List.mem_cons, or_left_comm]

theorem holds_join_iff (left right : Term) :
    (left.join right).Holds assignment ↔ left.Holds assignment ∧ right.Holds assignment := by
  constructor
  · intro given
    obtain ⟨positive, negative⟩ := given
    simp only [join, mem_foldr_insertSymbol, or_imp, forall_and] at positive negative
    exact ⟨⟨positive.1, negative.1⟩, positive.2, negative.2⟩
  · intro given
    obtain ⟨leftHolds, rightHolds⟩ := given
    constructor
    · intro id member
      exact (mem_foldr_insertSymbol.mp member).elim (leftHolds.positive id) (rightHolds.positive id)
    · intro id member
      exact (mem_foldr_insertSymbol.mp member).elim (leftHolds.negative id) (rightHolds.negative id)

theorem isSatisfiable_of_holds {term : Term} (holds : term.Holds assignment) :
    term.isSatisfiable = true := by
  rw [isSatisfiable, List.all_eq_true]
  intro id member
  rw [Bool.not_eq_true', List.contains_eq_mem, decide_eq_false_iff_not]
  intro negated
  have clash := (holds.positive id member).symm.trans (holds.negative id negated)
  cases clash

end Term

def AnyHolds (assignment : Nat → Bool) (terms : List Term) : Prop :=
  ∃ term ∈ terms, term.Holds assignment

theorem anyHolds_append_iff (left right : List Term) :
    AnyHolds assignment (left ++ right) ↔
      AnyHolds assignment left ∨ AnyHolds assignment right := by
  simp only [AnyHolds, List.mem_append, or_and_right, exists_or]

theorem anyHolds_joinTerms_iff (left right : List Term) :
    AnyHolds assignment (joinTerms left right) ↔
      AnyHolds assignment left ∧ AnyHolds assignment right := by
  constructor
  · intro given
    obtain ⟨term, member, holds⟩ := given
    obtain ⟨joined, -⟩ := List.mem_filter.mp member
    obtain ⟨first, firstMember, joined⟩ := List.mem_flatMap.mp joined
    obtain ⟨second, secondMember, rfl⟩ := List.mem_map.mp joined
    obtain ⟨firstHolds, secondHolds⟩ := (Term.holds_join_iff first second).mp holds
    exact ⟨⟨first, firstMember, firstHolds⟩, second, secondMember, secondHolds⟩
  · intro given
    obtain ⟨⟨first, firstMember, firstHolds⟩, second, secondMember, secondHolds⟩ := given
    have holds := (Term.holds_join_iff first second).mpr ⟨firstHolds, secondHolds⟩
    refine ⟨first.join second, List.mem_filter.mpr ⟨?_, Term.isSatisfiable_of_holds holds⟩, holds⟩
    exact List.mem_flatMap.mpr ⟨first, firstMember, List.mem_map_of_mem secondMember⟩

theorem length_joinTerms_le (left right : List Term) :
    (joinTerms left right).length ≤ left.length * right.length := by
  refine Nat.le_trans (List.length_filter_le _ _) (Nat.le_of_eq ?_)
  simp only [List.length_flatMap, List.length_map, List.map_const', List.sum_replicate_nat]

mutual

theorem anyHolds_termsWith?_iff :
    ∀ {polarity : Bool} (expr : Expr) {terms : List Term},
      expr.termsWith? limit polarity = some terms →
        (AnyHolds assignment terms ↔ expr.eval assignment = polarity)
  | polarity, const value, terms, expanded => by
      rw [termsWith?, Option.some.injEq] at expanded
      subst expanded
      rw [eval]
      by_cases same : value = polarity
      · simp [same, AnyHolds, Term.holds_always]
      · simp [same, AnyHolds]
  | polarity, symbol id, terms, expanded => by
      rw [termsWith?, Option.some.injEq] at expanded
      subst expanded
      rw [eval, ← Term.holds_ofSymbol_iff]
      simp [AnyHolds]
  | polarity, not inner, terms, expanded => by
      rw [termsWith?] at expanded
      rw [anyHolds_termsWith?_iff inner expanded, eval, Bool.not_eq_eq_eq_not]
  | true, and children, terms, expanded => by
      rw [termsWith?, if_pos rfl] at expanded
      rw [anyHolds_conjunction?_iff children expanded, eval_and_eq_true_iff, List.forall_mem_map]
      simp [AnyHolds, Term.holds_always]
  | false, and children, terms, expanded => by
      rw [termsWith?, if_neg Bool.false_ne_true] at expanded
      rw [anyHolds_disjunction?_iff children expanded]
      exact ((@eval_dual_iff assignment false children).trans
        (by simp [AnyHolds])).symm
  | true, or children, terms, expanded => by
      rw [termsWith?, if_pos rfl] at expanded
      rw [anyHolds_disjunction?_iff children expanded]
      exact ((@eval_dual_iff assignment true children).trans
        (by simp [AnyHolds])).symm
  | false, or children, terms, expanded => by
      rw [termsWith?, if_neg Bool.false_ne_true] at expanded
      rw [anyHolds_conjunction?_iff children expanded, eval_or_eq_false_iff, List.forall_mem_map]
      simp [AnyHolds, Term.holds_always]

theorem anyHolds_disjunction?_iff :
    ∀ {polarity : Bool} (children : List Expr) {found terms : List Term},
      disjunction? limit polarity children found = some terms →
        (AnyHolds assignment terms ↔
          AnyHolds assignment found ∨ ∃ child ∈ children, child.eval assignment = polarity)
  | polarity, [], found, terms, expanded => by
      rw [disjunction?, Option.some.injEq] at expanded
      simp [expanded]
  | polarity, child :: rest, found, terms, expanded => by
      rw [disjunction?, Option.bind_eq_bind, Option.bind_eq_some_iff] at expanded
      obtain ⟨childTerms, childExpanded, expanded⟩ := expanded
      split at expanded
      · cases expanded
      · rw [anyHolds_disjunction?_iff rest expanded, anyHolds_append_iff,
          anyHolds_termsWith?_iff child childExpanded]
        simp [or_assoc]

theorem anyHolds_conjunction?_iff :
    ∀ {polarity : Bool} (children : List Expr) {found terms : List Term},
      conjunction? limit polarity children found = some terms →
        (AnyHolds assignment terms ↔
          AnyHolds assignment found ∧ ∀ child ∈ children, child.eval assignment = polarity)
  | polarity, [], found, terms, expanded => by
      rw [conjunction?, Option.some.injEq] at expanded
      simp [expanded]
  | polarity, child :: rest, found, terms, expanded => by
      rw [conjunction?, Option.bind_eq_bind, Option.bind_eq_some_iff] at expanded
      obtain ⟨childTerms, childExpanded, expanded⟩ := expanded
      split at expanded
      · cases expanded
      · rw [anyHolds_conjunction?_iff rest expanded, anyHolds_joinTerms_iff,
          anyHolds_termsWith?_iff child childExpanded]
        simp [and_assoc]

end

/-! Positive symbols. -/

/-- The positive symbols of a term are told apart and come from a list. -/
structure Term.Within (symbols : List Nat) (term : Term) : Prop where
  sorted : term.positive.Pairwise (· < ·)
  subset : term.positive ⊆ symbols

namespace Term

variable {symbols : List Nat}

theorem within_always : always.Within symbols :=
  ⟨.nil, List.nil_subset symbols⟩

theorem within_ofSymbol {polarity : Bool} {id : Nat}
    (subset : (symbol id).collect (some true) polarity [] ⊆ symbols) :
    (ofSymbol polarity id).Within symbols := by
  cases polarity with
  | true => exact ⟨List.pairwise_singleton _ id, subset⟩
  | false => exact ⟨.nil, List.nil_subset symbols⟩

private theorem sorted_foldr_insertSymbol {left : List Nat} (right : List Nat)
    (sorted : left.Pairwise (· < ·)) : (right.foldr insertSymbol left).Pairwise (· < ·) := by
  induction right with
  | nil => exact sorted
  | cons new rest ih => exact sorted_insertSymbol new ih

theorem within_join {left right : Term} (leftWithin : left.Within symbols)
    (rightWithin : right.Within symbols) : (left.join right).Within symbols := by
  refine ⟨sorted_foldr_insertSymbol right.positive leftWithin.sorted, ?_⟩
  intro id member
  exact (mem_foldr_insertSymbol.mp member).elim (leftWithin.subset ·) (rightWithin.subset ·)

theorem within_joinTerms {left right : List Term} (leftWithin : ∀ term ∈ left, term.Within symbols)
    (rightWithin : ∀ term ∈ right, term.Within symbols) :
    ∀ term ∈ joinTerms left right, term.Within symbols := by
  intro term member
  obtain ⟨joined, -⟩ := List.mem_filter.mp member
  obtain ⟨first, firstMember, joined⟩ := List.mem_flatMap.mp joined
  obtain ⟨second, secondMember, rfl⟩ := List.mem_map.mp joined
  exact within_join (leftWithin first firstMember) (rightWithin second secondMember)

/-- A term that holds makes its positive symbols true, and all of them are different. -/
theorem positive_length_le {term : Term} (within : term.Within symbols)
    (holds : term.Holds assignment) : term.positive.length ≤ symbols.countP assignment := by
  rw [List.countP_eq_length_filter]
  apply List.Nodup.length_le_of_subset (within.sorted.imp Nat.ne_of_lt)
  intro id member
  exact List.mem_filter.mpr ⟨within.subset member, holds.positive id member⟩

end Term

mutual

theorem within_termsWith? {symbols : List Nat} :
    ∀ {polarity : Bool} (expr : Expr) {terms : List Term},
      expr.collect (some true) polarity [] ⊆ symbols →
        expr.termsWith? limit polarity = some terms → ∀ term ∈ terms, term.Within symbols
  | polarity, const value, terms, subset, expanded => by
      rw [termsWith?, Option.some.injEq] at expanded
      subst expanded
      split
      · simp [Term.within_always]
      · simp
  | polarity, symbol id, terms, subset, expanded => by
      rw [termsWith?, Option.some.injEq] at expanded
      subst expanded
      simp [Term.within_ofSymbol subset]
  | polarity, not inner, terms, subset, expanded => by
      rw [termsWith?] at expanded
      exact within_termsWith? inner subset expanded
  | polarity, and children, terms, subset, expanded => by
      have childSubset := fun child (member : child ∈ children) =>
        List.Subset.trans (collect_subset_and member) subset
      rw [termsWith?] at expanded
      split at expanded
      · exact within_conjunction? children childSubset (by simp [Term.within_always]) expanded
      · exact within_disjunction? children childSubset (by simp) expanded
  | polarity, or children, terms, subset, expanded => by
      have childSubset := fun child (member : child ∈ children) =>
        List.Subset.trans (collect_subset_or member) subset
      rw [termsWith?] at expanded
      split at expanded
      · exact within_disjunction? children childSubset (by simp) expanded
      · exact within_conjunction? children childSubset (by simp [Term.within_always]) expanded

theorem within_disjunction? {symbols : List Nat} :
    ∀ {polarity : Bool} (children : List Expr) {found terms : List Term},
      (∀ child ∈ children, child.collect (some true) polarity [] ⊆ symbols) →
        (∀ term ∈ found, term.Within symbols) →
          disjunction? limit polarity children found = some terms →
            ∀ term ∈ terms, term.Within symbols
  | polarity, [], found, terms, _, within, expanded => by
      rw [disjunction?, Option.some.injEq] at expanded
      exact expanded ▸ within
  | polarity, child :: rest, found, terms, subset, within, expanded => by
      rw [disjunction?, Option.bind_eq_bind, Option.bind_eq_some_iff] at expanded
      obtain ⟨childTerms, childExpanded, expanded⟩ := expanded
      rw [List.forall_mem_cons] at subset
      have childWithin := within_termsWith? child subset.1 childExpanded
      split at expanded
      · cases expanded
      · exact within_disjunction? rest subset.2
          (List.forall_mem_append.mpr ⟨within, childWithin⟩) expanded

theorem within_conjunction? {symbols : List Nat} :
    ∀ {polarity : Bool} (children : List Expr) {found terms : List Term},
      (∀ child ∈ children, child.collect (some true) polarity [] ⊆ symbols) →
        (∀ term ∈ found, term.Within symbols) →
          conjunction? limit polarity children found = some terms →
            ∀ term ∈ terms, term.Within symbols
  | polarity, [], found, terms, _, within, expanded => by
      rw [conjunction?, Option.some.injEq] at expanded
      exact expanded ▸ within
  | polarity, child :: rest, found, terms, subset, within, expanded => by
      rw [conjunction?, Option.bind_eq_bind, Option.bind_eq_some_iff] at expanded
      obtain ⟨childTerms, childExpanded, expanded⟩ := expanded
      rw [List.forall_mem_cons] at subset
      have childWithin := within_termsWith? child subset.1 childExpanded
      split at expanded
      · cases expanded
      · exact within_conjunction? rest subset.2 (Term.within_joinTerms within childWithin) expanded

end

/-- An assignment that makes an expression true makes no fewer of its positive symbols true than its
terms ask for. -/
theorem minPositiveSupport?_le {expr : Expr} {minimum : Nat}
    (supported : expr.minPositiveSupport? limit = some minimum)
    (holds : expr.eval assignment = true) :
    minimum ≤ expr.positiveSymbols.countP assignment := by
  obtain ⟨terms, expanded, least⟩ := Option.bind_eq_some_iff.mp supported
  obtain ⟨term, member, termHolds⟩ := (anyHolds_termsWith?_iff expr expanded).mpr holds
  have within := within_termsWith? expr (List.Subset.refl _) expanded term member
  have smallest := (List.min?_eq_some_iff.mp least).2 term.positive.length
    (List.mem_map_of_mem (List.mem_filter.mpr ⟨member, Term.isSatisfiable_of_holds termHolds⟩))
  exact Nat.le_trans smallest (Term.positive_length_le within termHolds)

/-! The bound that needs no expansion. -/

private theorem countP_positiveSymbols_le {child : Expr} {symbols : List Nat}
    (subset : child.positiveSymbols ⊆ symbols) :
    child.positiveSymbols.countP assignment ≤ symbols.countP assignment := by
  rw [List.countP_eq_length_filter, List.countP_eq_length_filter]
  apply List.Nodup.length_le_of_subset ((nodup_collect _ _ child).filter _)
  exact List.filter_subset assignment subset

private theorem smallestBound?_le {child : Expr} {children : List Expr}
    (member : child ∈ children) :
    (smallestBound? children).getD 0 ≤ child.positiveLowerBound := by
  induction children with
  | nil => cases member
  | cons first rest ih =>
      rw [smallestBound?]
      rcases List.mem_cons.mp member with rfl | member
      · cases smallestBound? rest with
        | none => exact Nat.le_refl _
        | some least => exact Nat.min_le_left _ _
      · have restLe := ih member
        cases bound : smallestBound? rest with
        | none =>
            cases rest with
            | nil => cases member
            | cons second others =>
                rw [smallestBound?] at bound
                split at bound <;> cases bound
        | some least =>
            rw [bound] at restLe
            exact Nat.le_trans (Nat.min_le_right _ _) restLe

private theorem largestBound_le {bound : Nat} {children : List Expr}
    (bounded : ∀ child ∈ children, child.positiveLowerBound ≤ bound) :
    largestBound children ≤ bound := by
  induction children with
  | nil => exact Nat.zero_le bound
  | cons child rest ih =>
      rw [List.forall_mem_cons] at bounded
      exact Nat.max_le.mpr ⟨bounded.1, ih bounded.2⟩

mutual

theorem positiveLowerBound_le :
    ∀ expr : Expr, expr.eval assignment = true →
      expr.positiveLowerBound ≤ expr.positiveSymbols.countP assignment
  | const _, _ => Nat.zero_le _
  | symbol id, holds => by
      rw [eval] at holds
      simp [positiveLowerBound, positiveSymbols, collect, insertSymbol, holds]
  | not _, _ => Nat.zero_le _
  | and children, holds => by
      rw [eval_and_eq_true_iff, List.forall_mem_map] at holds
      apply largestBound_le
      intro child member
      exact Nat.le_trans (positiveLowerBound_le_of_mem children child member (holds child member))
        (countP_positiveSymbols_le (collect_subset_and member))
  | or children, holds => by
      obtain ⟨child, member, childHolds⟩ := (@eval_dual_iff assignment true children).mp holds
      refine Nat.le_trans (smallestBound?_le member) ?_
      exact Nat.le_trans (positiveLowerBound_le_of_mem children child member childHolds)
        (countP_positiveSymbols_le (collect_subset_or member))

theorem positiveLowerBound_le_of_mem :
    ∀ children : List Expr, ∀ child ∈ children, child.eval assignment = true →
      child.positiveLowerBound ≤ child.positiveSymbols.countP assignment
  | [] => nofun
  | child :: rest => by
      rw [List.forall_mem_cons]
      exact ⟨positiveLowerBound_le child, positiveLowerBound_le_of_mem rest⟩

end

private theorem length_positiveSymbols_le {child : Expr} {symbols : List Nat}
    (subset : child.positiveSymbols ⊆ symbols) : child.positiveSymbols.length ≤ symbols.length :=
  (nodup_collect _ _ child).length_le_of_subset subset

mutual

/-- The bound asks for no more symbols than there are, also where nothing makes the expression true.
-/
theorem positiveLowerBound_le_length :
    ∀ expr : Expr, expr.positiveLowerBound ≤ expr.positiveSymbols.length
  | const _ => Nat.zero_le _
  | symbol _ => Nat.le_refl _
  | not _ => Nat.zero_le _
  | and children => by
      apply largestBound_le
      intro child member
      exact Nat.le_trans (positiveLowerBound_le_length_of_mem children child member)
        (length_positiveSymbols_le (collect_subset_and member))
  | or [] => Nat.zero_le _
  | or (child :: rest) => by
      have member : child ∈ child :: rest := List.mem_cons_self
      refine Nat.le_trans (smallestBound?_le member) ?_
      exact Nat.le_trans (positiveLowerBound_le_length child)
        (length_positiveSymbols_le (collect_subset_or member))

theorem positiveLowerBound_le_length_of_mem :
    ∀ children : List Expr, ∀ child ∈ children,
      child.positiveLowerBound ≤ child.positiveSymbols.length
  | [] => nofun
  | child :: rest => by
      rw [List.forall_mem_cons]
      exact ⟨positiveLowerBound_le_length child, positiveLowerBound_le_length_of_mem rest⟩

end

end Concordance.Expr
