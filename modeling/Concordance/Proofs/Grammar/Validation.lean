import Concordance.Grammar.Validation
import Concordance.Proofs.Pattern.CaseFlag
import Concordance.Traced

/-!
Well-formed grammars.  Validation accepts a tree exactly if no node of it is at fault, wherever the
nodes are said to be.
-/

namespace Concordance

open Text

/-- The rules for what a terminal looks for. -/
def TerminalMatcher.Allowed (wholeWord : Bool) : TerminalMatcher → Prop
  | exact terms => terms ≠ [] ∧ ∀ term ∈ terms, isBlankText term = false
  | regex pattern =>
    wholeWord = false ∧ pattern ≠ "" ∧ (Pattern.compile? true pattern).isSome = true

namespace Terminal

/-- The rules for a terminal. -/
def Allowed (terminal : Terminal) : Prop :=
  terminal.layer ≠ "" ∧ terminal.matcher.Allowed terminal.wholeWord

variable {terminal : Terminal} {location : Location}

theorem error?_eq_none_iff : terminal.error? location = none ↔ terminal.Allowed := by
  rw [error?, Allowed]
  by_cases layer : terminal.layer = ""
  · simp [layer]
  · rw [if_neg layer, and_iff_right layer]
    cases terminal.matcher with
    | exact terms =>
        dsimp only
        by_cases empty : terms = []
        · simp [empty, TerminalMatcher.Allowed]
        · rw [if_neg (by rwa [List.isEmpty_iff]), Option.map_eq_none_iff,
            List.findIdx?_eq_none_iff, TerminalMatcher.Allowed, and_iff_right empty]
    | regex pattern =>
        cases marked : terminal.wholeWord with
        | true => simp [TerminalMatcher.Allowed]
        | false =>
            by_cases empty : pattern = ""
            · simp [empty, TerminalMatcher.Allowed]
            · simp [empty, TerminalMatcher.Allowed, Option.isSome_iff_ne_none]

theorem error?_eq_none_congr (terminal : Terminal) (location other : Location) :
    terminal.error? location = none ↔ terminal.error? other = none := by
  rw [error?_eq_none_iff, error?_eq_none_iff]

theorem terms_of_valid {terms : List String} (valid : terminal.error? location = none)
    (exact : terminal.matcher = .exact terms) :
    terms ≠ [] ∧ ∀ term ∈ terms, isBlankText term = false := by
  obtain ⟨-, allowed⟩ := error?_eq_none_iff.mp valid
  rwa [exact] at allowed

theorem pattern_of_valid {pattern : String} (valid : terminal.error? location = none)
    (regex : terminal.matcher = .regex pattern) :
    terminal.wholeWord = false ∧ ∀ caseSensitive,
      (Pattern.compile? caseSensitive pattern).isSome = true := by
  obtain ⟨-, allowed⟩ := error?_eq_none_iff.mp valid
  rw [regex] at allowed
  obtain ⟨unmarked, -, compiles⟩ := allowed
  refine ⟨unmarked, fun caseSensitive => ?_⟩
  rwa [Pattern.isSome_compile?]

end Terminal

namespace Operation

/-- The rules for a node, its children apart. -/
structure Allows (operation : Operation) (childCount : Nat) (slop : Option Nat)
    (matchFirst : Bool) : Prop where
  hasChildren : childCount ≠ 0
  negated : operation = .not → childCount = 1
  slopPlace : slop.isSome = true → operation = .gap
  slopPositive : slop ≠ some 0
  matchFirstPlace : matchFirst = true → operation = .intersect ∨ operation = .gap

theorem fault?_eq_none_iff {operation : Operation} {childCount : Nat} {slop : Option Nat}
    {matchFirst : Bool} :
    operation.fault? childCount slop matchFirst = none ↔
      operation.Allows childCount slop matchFirst := by
  rw [fault?]
  constructor
  · intro faultless
    split at faultless
    · cases faultless
    · next children =>
      split at faultless
      · cases faultless
      · next negated =>
        split at faultless
        · cases faultless
        · next slop =>
          split at faultless
          · cases faultless
          · next positive =>
            split at faultless
            · cases faultless
            · next matchFirst =>
              exact ⟨children, by simpa using negated, by simpa using slop, positive,
                fun first => Decidable.or_iff_not_imp_left.mpr fun other => by simp_all⟩
  · intro given
    obtain ⟨children, negated, slop, positive, matchFirst⟩ := given
    rw [if_neg children, if_neg (fun fault => fault.2 (negated fault.1)),
      if_neg (fun fault => fault.2 (slop fault.1)), if_neg positive, if_neg]
    intro given
    obtain ⟨first, notIntersect, notGap⟩ := given
    exact (matchFirst first).elim notIntersect notGap

end Operation

namespace Grammar

mutual

/-- No node is at fault. -/
def WellFormed : Grammar → Prop
  | terminal t => t.error? .root = none
  | composite _ operation children slop matchFirst =>
    operation.fault? children.length slop matchFirst = none ∧ AllWellFormed children

def AllWellFormed : List Grammar → Prop
  | [] => True
  | child :: rest => child.WellFormed ∧ AllWellFormed rest

end

theorem allWellFormed_iff {children : List Grammar} :
    AllWellFormed children ↔ ∀ child ∈ children, child.WellFormed := by
  induction children with
  | nil => simp [AllWellFormed]
  | cons child rest ih => rw [AllWellFormed, ih, List.forall_mem_cons]

mutual

theorem validateAt_eq_ok_iff : ∀ (grammar : Grammar) (path : List Nat),
    grammar.validateAt path = .ok () ↔ grammar.WellFormed
  | terminal t, path => by
      rw [validateAt, WellFormed, t.error?_eq_none_congr .root (.node path)]
      cases t.error? (.node path) with
      | none => simp
      | some error => simp
  | composite name operation children slop matchFirst, path => by
      rw [validateAt, WellFormed]
      cases operation.fault? children.length slop matchFirst with
      | none => simp [validateAll_eq_ok_iff children path 0]
      | some fault => simp

theorem validateAll_eq_ok_iff : ∀ (children : List Grammar) (path : List Nat) (index : Nat),
    validateAll path index children = .ok () ↔ AllWellFormed children
  | [], path, index => by simp [validateAll, AllWellFormed]
  | child :: rest, path, index => by
      rw [validateAll, AllWellFormed, ← validateAt_eq_ok_iff child (path ++ [index]),
        ← validateAll_eq_ok_iff rest path (index + 1), bind_eq_ok_iff]
      constructor
      · intro given
        obtain ⟨⟨⟩, first, others⟩ := given
        exact ⟨first, others⟩
      · intro given
        obtain ⟨first, others⟩ := given
        exact ⟨(), first, others⟩

end

/-- Validation accepts exactly the trees without a node at fault. -/
theorem validate_eq_ok_iff {grammar : Grammar} : grammar.validate = .ok () ↔ grammar.WellFormed :=
  validateAt_eq_ok_iff grammar []

/-! What is known of the nodes of a well-formed tree. -/

namespace WellFormed

variable {name : String} {operation : Operation} {children : List Grammar} {slop : Option Nat}
  {matchFirst : Bool}

theorem allows (valid : (composite name operation children slop matchFirst).WellFormed) :
    operation.Allows children.length slop matchFirst :=
  Operation.fault?_eq_none_iff.mp valid.1

theorem child (valid : (composite name operation children slop matchFirst).WellFormed) :
    ∀ child ∈ children, child.WellFormed :=
  allWellFormed_iff.mp valid.2

theorem children_ne_nil (valid : (composite name operation children slop matchFirst).WellFormed) :
    children ≠ [] :=
  fun none => valid.allows.hasChildren (congrArg List.length none)

theorem eq_singleton_of_not (valid : (composite name .not children slop matchFirst).WellFormed) :
    ∃ child, children = [child] :=
  List.length_eq_one_iff.mp (valid.allows.negated rfl)

end WellFormed

end Grammar

end Concordance
