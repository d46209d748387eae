import Concordance.Proofs.Expr.Conjunctive
import Concordance.Proofs.Query.Shape

/-!
Conjunctions of literals.  Without unions, and with no negations but of terminals, a grammar has its
connectives for an upper bound, and all symbols that are rendered are needed: both thresholds ask for
the same.
-/

namespace Concordance

open Concordance.Expr

namespace Grammar

mutual

/-- No unions, and every negation is that of a terminal. -/
def LiteralsOnly : Grammar → Prop
  | terminal _ => True
  | composite _ operation children _ _ =>
    match operation with
    | .union => False
    | .not => ∃ t, children = [terminal t]
    | .concat | .gap | .intersect | .layerMatch => AllLiteralsOnly children

def AllLiteralsOnly : List Grammar → Prop
  | [] => True
  | child :: rest => child.LiteralsOnly ∧ AllLiteralsOnly rest

end

mutual

theorem positionsLone_of_literalsOnly : ∀ grammar : Grammar, grammar.LiteralsOnly →
    grammar.PositionsLone true
  | terminal _, _ => trivial
  | composite _ operation children _ _, literals => by
      cases operation with
      | union => cases literals
      | not =>
          obtain ⟨t, rfl⟩ := literals
          exact ⟨rfl, trivial, trivial⟩
      | concat => exact ⟨rfl, allPositionsLone_of_allLiteralsOnly children literals⟩
      | gap => exact ⟨rfl, allPositionsLone_of_allLiteralsOnly children literals⟩
      | intersect => exact ⟨rfl, allPositionsLone_of_allLiteralsOnly children literals⟩
      | layerMatch => exact ⟨rfl, allPositionsLone_of_allLiteralsOnly children literals⟩

theorem allPositionsLone_of_allLiteralsOnly : ∀ children : List Grammar,
    AllLiteralsOnly children → AllPositionsLone true children
  | [], _ => trivial
  | child :: rest, literals =>
      ⟨positionsLone_of_literalsOnly child literals.1,
        allPositionsLone_of_allLiteralsOnly rest literals.2⟩

end

mutual

theorem constOrConjunctive_direct : ∀ (grammar : Grammar) (table : SymbolTable),
    grammar.LiteralsOnly → ConstOrConjunctive (grammar.direct table).1.toNnf.simplifyOnce
  | terminal t, table, _ => .inr (.symbol (table.intern t).1)
  | composite _ operation children _ _, table, literals => by
      have conjoined (each : AllLiteralsOnly children) :
          ConstOrConjunctive (Expr.and (directAll children table).1).toNnf.simplifyOnce :=
        constOrConjunctive_simplifyJunction (constOrConjunctive_directAll children table each)
      cases operation with
      | union => cases literals
      | not =>
          obtain ⟨t, rfl⟩ := literals
          have negated : ConstOrConjunctive
              (simplifyJunction false [.not (.symbol (table.intern t).1)]) := by
            rw [simplifyJunction_negated]
            exact .inr (.negated _)
          exact negated
      | concat => exact conjoined literals
      | gap => exact conjoined literals
      | intersect => exact conjoined literals
      | layerMatch => exact conjoined literals

theorem constOrConjunctive_directAll : ∀ (children : List Grammar) (table : SymbolTable),
    AllLiteralsOnly children →
      ∀ expr ∈ simplifyAll (nnfAll true (directAll children table).1), ConstOrConjunctive expr
  | [], _, _ => nofun
  | child :: rest, table, literals =>
      List.forall_mem_cons.mpr ⟨constOrConjunctive_direct child table literals.1,
        constOrConjunctive_directAll rest (child.direct table).2 literals.2⟩

end

end Grammar

namespace CompilerOptions

variable {limit : Nat}

theorem minimumOf_eq_of_conjunctive {expr : Expr} (conjunctive : Conjunctive expr)
    (normal : Normal expr) (positive : 1 ≤ limit) :
    minimumOf ⟨.requiredTerminals, limit⟩ expr = minimumOf ⟨.terminalCount, limit⟩ expr := by
  have least := conjunctive.minPositiveSupport?_eq normal positive
  exact congrArg (·.getD expr.positiveLowerBound) least

theorem queryOf_eq_of_conjunctive {expr : Expr} (shape : ConstOrConjunctive expr)
    (settled : Settled expr) (positive : 1 ≤ limit) (table : SymbolTable) :
    queryOf ⟨.requiredTerminals, limit⟩ expr table =
      queryOf ⟨.terminalCount, limit⟩ expr table := by
  rcases settled with ⟨value, rfl⟩ | normal
  · rfl
  · rcases shape with ⟨value, rfl⟩ | conjunctive
    · rfl
    · rw [queryOf, queryOf, minimumOf_eq_of_conjunctive conjunctive normal positive]

theorem inclusiveExpr_eq_of_positionsLone {grammar : Grammar} (lone : grammar.PositionsLone true) :
    inclusiveExpr ⟨.requiredTerminals, limit⟩ grammar =
      inclusiveExpr ⟨.terminalCount, limit⟩ grammar := by
  have upper : (grammar.bounds []).1.upper = (grammar.direct []).1 :=
    Grammar.side_eq_direct grammar [] lone
  show ((grammar.bounds []).1.upper.simplify, (grammar.bounds []).2) =
    ((grammar.direct []).1.simplify, (grammar.direct []).2)
  rw [upper, Grammar.table_direct]

theorem inclusiveQuery_eq_of_literalsOnly {grammar : Grammar} (literals : grammar.LiteralsOnly)
    (positive : 1 ≤ limit) :
    inclusiveQuery ⟨.requiredTerminals, limit⟩ grammar =
      inclusiveQuery ⟨.terminalCount, limit⟩ grammar := by
  have conjunctive : ConstOrConjunctive (grammar.direct []).1.simplify := by
    rw [simplify_eq_simplifyOnce]
    exact Grammar.constOrConjunctive_direct grammar [] literals
  rw [inclusiveQuery, inclusiveQuery, inclusiveExpr_eq_of_positionsLone
    (Grammar.positionsLone_of_literalsOnly grammar literals)]
  exact queryOf_eq_of_conjunctive conjunctive (settled_simplify _) positive _

/-- Both thresholds give the same query for a conjunction of literals, under any limit but zero. -/
theorem compile_thresholds_agree {grammar : Grammar} (valid : grammar.validate = .ok ())
    (literals : grammar.LiteralsOnly) (positive : 1 ≤ limit) :
    ∃ query,
      (compile ⟨.requiredTerminals, limit⟩ (some grammar) none).outcome = .ok query ∧
      (compile ⟨.terminalCount, limit⟩ (some grammar) none).outcome = .ok query := by
  have wellFormed := Grammar.validate_eq_ok_iff.mp valid
  refine ⟨_, compile_inclusive_outcome wellFormed, ?_⟩
  rw [inclusiveQuery_eq_of_literalsOnly literals positive]
  exact compile_inclusive_outcome wellFormed

end CompilerOptions

/-! A red hen soon after a fox, and nothing grey: three words are needed, and the least limit is large
enough to tell. -/

def Grammar.redHen : Grammar :=
  combine .intersect
    [gap (some 3) [word "fox", combine .concat [word "red", word "hen"]],
      combine .not [word "grey"], word "red"]

def Query.ofRedHen : Query :=
  ⟨["fox", "red", "hen"].map fun word => .term "text" word true true, [], [], some 3⟩

theorem CompilerOptions.compile_thresholds_agree_redHen :
    Grammar.redHen.validate = .ok () ∧ Grammar.redHen.LiteralsOnly ∧ 1 ≤ 1 ∧
      (compile ⟨.requiredTerminals, 1⟩ (some .redHen) none).outcome = .ok .ofRedHen ∧
      (compile ⟨.terminalCount, 1⟩ (some .redHen) none).outcome = .ok .ofRedHen := by
  have valid : Grammar.redHen.validate = .ok () := rfl
  have literals : Grammar.redHen.LiteralsOnly :=
    ⟨⟨trivial, ⟨trivial, trivial, trivial⟩, trivial⟩, ⟨_, rfl⟩, trivial, trivial⟩
  have counted : (compile ⟨.terminalCount, 1⟩ (some .redHen) none).outcome = .ok .ofRedHen := by cbv
  obtain ⟨query, required, same⟩ := compile_thresholds_agree valid literals (Nat.le_refl 1)
  obtain rfl := Except.ok.inj (same.symm.trans counted)
  exact ⟨valid, literals, Nat.le_refl 1, required, counted⟩

end Concordance
