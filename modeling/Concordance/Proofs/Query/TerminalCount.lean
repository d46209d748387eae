import Concordance.Proofs.Query.Branches
import Concordance.Proofs.Query.Choices
import Concordance.Proofs.Query.Recall

/-!
Counting all terminals.  A query that asks for every terminal it renders loses a document where the
grammar leaves a choice between them.  Without choices there is but one thing to lose: an expression
that has become false because it leaves positions out of account.
-/

namespace Concordance

namespace Grammar

variable {document : Document} {operation : Operation} {polarity : Bool}

/-! Expressions that can be true. -/

/-- An assignment that is true of some terminals and false of others. -/
structure Separates (assignment : Nat → Bool) (final : SymbolTable)
    (trueOf falseOf : List Terminal) : Prop where
  holds : ∀ id t, final[id]? = some t → t ∈ trueOf → assignment id = true
  fails : ∀ id t, final[id]? = some t → t ∈ falseOf → assignment id = false

theorem Separates.mono {assignment : Nat → Bool} {final : SymbolTable}
    {trueOf falseOf fewerTrue fewerFalse : List Terminal}
    (separates : Separates assignment final trueOf falseOf) (trueSubset : fewerTrue ⊆ trueOf)
    (falseSubset : fewerFalse ⊆ falseOf) : Separates assignment final fewerTrue fewerFalse where
  holds id t read member := separates.holds id t read (trueSubset member)
  fails id t read member := separates.fails id t read (falseSubset member)

theorem separates_of_disjoint {trueOf falseOf : List Terminal} (disjoint : trueOf.Disjoint falseOf)
    (final : SymbolTable) :
    Separates (fun id => final[id]?.any fun t => decide (t ∈ trueOf)) final trueOf falseOf := by
  constructor
  · intro id t read member
    simp [read, member]
  · intro id t read member
    have apart : t ∉ trueOf := fun inside => disjoint inside member
    simp [read, apart]

variable {assignment : Nat → Bool} {final : SymbolTable}

theorem eval_connective_of_forall {exprs : List Expr} (some : exprs ≠ [])
    (each : ∀ expr ∈ exprs, expr.eval assignment = operation.inside polarity) :
    (connective operation exprs).eval assignment = polarity := by
  cases operation with
  | not =>
      have negated := Expr.eval_junction_of_forall true some each
      exact (congrArg Bool.not negated).trans (Bool.not_not polarity)
  | union => exact Expr.eval_junction_of_forall false some each
  | intersect => exact Expr.eval_junction_of_forall true some each
  | concat => exact Expr.eval_junction_of_forall true some each
  | gap => exact Expr.eval_junction_of_forall true some each
  | layerMatch => exact Expr.eval_junction_of_forall true some each

theorem inside_not (operation : Operation) (polarity : Bool) :
    operation.inside (!polarity) = !operation.inside polarity := by
  cases operation <;> rfl

mutual

theorem eval_direct_of_separates : ∀ {polarity : Bool} (grammar : Grammar) (table : SymbolTable),
    grammar.WellFormed → (grammar.direct table).2 <+: final →
      Separates assignment final (grammar.terminalsAt polarity) (grammar.terminalsAt !polarity) →
        (grammar.direct table).1.eval assignment = polarity
  | true, terminal t, table, _, extended, separates =>
      separates.holds _ t (SymbolTable.getElem?_of_isPrefix extended SymbolTable.getElem?_intern)
        (List.mem_singleton_self t)
  | false, terminal t, table, _, extended, separates =>
      separates.fails _ t (SymbolTable.getElem?_of_isPrefix extended SymbolTable.getElem?_intern)
        (List.mem_singleton_self t)
  | polarity, composite _ operation children _ _, table, valid, extended, separates => by
      rw [terminalsAt, terminalsAt, inside_not] at separates
      have each := eval_directAll_of_separates children table valid.2 extended separates
      have some : (directAll children table).1 ≠ [] := by
        cases children with
        | nil => exact absurd rfl valid.children_ne_nil
        | cons child rest => exact List.cons_ne_nil _ _
      exact eval_connective_of_forall some each

theorem eval_directAll_of_separates : ∀ {polarity : Bool} (children : List Grammar)
    (table : SymbolTable), AllWellFormed children → (directAll children table).2 <+: final →
      Separates assignment final (terminalsAtOfAll polarity children)
          (terminalsAtOfAll (!polarity) children) →
        ∀ expr ∈ (directAll children table).1, expr.eval assignment = polarity
  | _, [], _, _, _, _ => nofun
  | polarity, child :: rest, table, valid, extended, separates => by
      have grows := isPrefix_directAll rest (child.direct table).2
      refine List.forall_mem_cons.mpr ⟨?_, ?_⟩
      · exact eval_direct_of_separates child table valid.1 (grows.trans extended)
          (separates.mono (List.subset_append_left _ _) (List.subset_append_left _ _))
      · exact eval_directAll_of_separates rest (child.direct table).2 valid.2 extended
          (separates.mono (List.subset_append_right _ _) (List.subset_append_right _ _))

end

/-- If the connectives of a grammar that has a match are false for all assignments, some terminal
stands on both sides of negations and some position is asked for below them. -/
theorem shared_of_simplify_direct {grammar : Grammar} (valid : grammar.WellFormed)
    (found : grammar.results document ≠ [])
    (constant : (grammar.direct []).1.simplify.const? = some false) :
    (∃ t ∈ grammar.terminalsAt true, t ∈ grammar.terminalsAt false) ∧
      ¬ grammar.PositionsLone true := by
  have never (assignment : Nat → Bool) : (grammar.direct []).1.eval assignment = false := by
    rw [← Expr.eval_simplify, Expr.eval_const?_eq_some constant]
  constructor
  · -- If no terminal is shared, those below even numbers of negations can be true and the rest false.
    by_contra apart
    have disjoint : (grammar.terminalsAt true).Disjoint (grammar.terminalsAt false) :=
      fun t even odd => apart ⟨t, even, odd⟩
    have holds := eval_direct_of_separates grammar [] valid (List.prefix_refl _)
      (separates_of_disjoint disjoint (grammar.direct []).2)
    rw [never] at holds
    cases holds
  · -- If no position is lost, the connectives are the upper bound, which the match makes true.
    intro lone
    have upper : (grammar.bounds []).1.upper = (grammar.direct []).1 :=
      side_eq_direct grammar [] lone
    have holds := (enclose_bounds grammar [] valid (List.prefix_refl _)).upper found
    rw [upper, never] at holds
    cases holds

end Grammar

namespace CompilerOptions

variable {limit : Nat} {document : Document}

/-- If all positive symbols are true, so is the query that asks for all of them. -/
theorem truth_queryOf_terminalCount {expr : Expr} {table : SymbolTable} (valid : table.Valid)
    (all : ∀ id ∈ expr.positiveSymbols, table.assignment document id = true)
    (possible : expr.const? ≠ some false) :
    (queryOf ⟨.terminalCount, limit⟩ expr table).truth document = true := by
  rw [queryOf]
  cases constant : expr.const? with
  | some value =>
      cases value with
      | true => rfl
      | false => exact absurd constant possible
  | none =>
      have each : ∀ clause ∈ expr.positiveSymbols.map table.clause,
          clause.truth document = true := by
        rw [List.forall_mem_map]
        intro id member
        rw [SymbolTable.truth_clause valid]
        exact all id member
      dsimp only
      split
      · rfl
      · rw [Query.truth, Query.toClause, Clause.truth_bool, List.countP_eq_length.mpr each,
          List.length_map]
        exact decide_eq_true (Nat.le_refl _)

theorem truth_inclusiveQuery_terminalCount {grammar : Grammar} (valid : grammar.WellFormed)
    (choiceFree : grammar.ChoiceFree true) (found : grammar.results document ≠ [])
    (possible : (grammar.direct []).1.simplify.const? ≠ some false) :
    (inclusiveQuery ⟨.terminalCount, limit⟩ grammar).truth document = true := by
  rw [inclusiveQuery, table_inclusiveExpr]
  refine truth_queryOf_terminalCount (valid_eraseDups_terminals valid) ?_ possible
  intro id member
  obtain ⟨t, inside, read⟩ := exists_terminal_of_mem_inclusiveExpr member
  rw [SymbolTable.assignment_eq_true_iff read]
  exact Grammar.results_ne_nil_of_evidence grammar valid choiceFree found t inside

/-- Where there is no choice between terminals, counting all of them loses no document, except where
the query holds for none: then some terminal stands both below an even and below an odd number of
negations, and positions are asked for below an odd number of them. -/
theorem compile_terminalCount_holds {grammar : Grammar} (choiceFree : grammar.ChoiceFree true)
    (accepted : ∃ matcher, Matcher.ofGrammar grammar = .ok matcher ∧
      (matcher.isMatch document).outcome = .ok true) :
    ∃ query, (compile ⟨.terminalCount, limit⟩ (some grammar) none).outcome = .ok query ∧
      ((query.holds document).outcome = .ok true ∨
        query = .matchNone ∧ (∃ t ∈ grammar.terminalsAt true, t ∈ grammar.terminalsAt false) ∧
          ¬ grammar.PositionsLone true) := by
  obtain ⟨matcher, built, decided⟩ := accepted
  obtain ⟨valid, matched⟩ := Grammar.results_of_isMatch built decided
  refine ⟨_, compile_inclusive_outcome valid, ?_⟩
  by_cases possible : (grammar.direct []).1.simplify.const? = some false
  · have constant : (inclusiveExpr ⟨.terminalCount, limit⟩ grammar).1.const? = some false := possible
    refine .inr ⟨?_, Grammar.shared_of_simplify_direct valid (matched.mp rfl) possible⟩
    rw [inclusiveQuery, queryOf, constant]
    rfl
  · refine .inl ?_
    rw [Query.holds_outcome (compiles_inclusiveQuery valid),
      truth_inclusiveQuery_terminalCount valid choiceFree (matched.mp rfl) possible]

end CompilerOptions

/-! A grey hen and no fox before it: the hen stands on both sides of a negation, below which positions
are asked for. -/

def Grammar.henNotAfterFox : Grammar :=
  combine .intersect
    [word "hen", combine .not [combine .concat [word "fox", word "hen"]],
      combine .not [combine .not [word "grey"]]]

private theorem hen_results :
    (Grammar.word "hen").results .greyHen = [⟨[2], ["text"], ["hen"]⟩] := by
  decide +kernel

private theorem hen_found : (Grammar.word "hen").results .greyHen ≠ [] := by
  rw [hen_results]
  exact List.cons_ne_nil _ _

private theorem henNotAfterFox_found : Grammar.henNotAfterFox.results .greyHen ≠ [] := by
  have foxMissing : (Grammar.word "fox").results .greyHen = [] := by decide +kernel
  have greyFound : (Grammar.word "grey").results .greyHen ≠ [] := by decide +kernel
  refine Grammar.results_intersect_ne_nil_iff.mpr ⟨List.cons_ne_nil _ _, ?_⟩
  simp only [List.forall_mem_cons]
  refine ⟨hen_found, Grammar.results_not_ne_nil_iff.mpr ?_, Grammar.results_not_ne_nil_iff.mpr ?_,
    nofun⟩
  · by_contra found
    exact Grammar.results_ne_nil_of_positional rfl found _ List.mem_cons_self foxMissing
  · by_contra found
    exact greyFound (Grammar.results_not_ne_nil_iff.mp found)

private theorem accepts_greyHen {grammar : Grammar} (valid : grammar.validate = .ok ())
    (present : grammar.PresentIn .greyHen) (found : grammar.results .greyHen ≠ []) :
    ∃ matcher, Matcher.ofGrammar grammar = .ok matcher ∧
      (matcher.isMatch .greyHen).outcome = .ok true := by
  have wellFormed := Grammar.validate_eq_ok_iff.mp valid
  refine ⟨_, Grammar.ofGrammar_eq_ok wellFormed, ?_⟩
  rw [Grammar.isMatch_matcher wellFormed present, List.isEmpty_eq_false_iff.mpr found]
  rfl

private theorem compile_henNotAfterFox :
    (CompilerOptions.compile ⟨.terminalCount, 256⟩ (some .henNotAfterFox) none).outcome =
      .ok ⟨[.term "text" "hen" true true, .term "text" "grey" true true], [], [], some 2⟩ := by
  cbv

theorem CompilerOptions.compile_terminalCount_holds_greyHen :
    Grammar.henNotAfterFox.ChoiceFree true ∧
      (∃ matcher, Matcher.ofGrammar .henNotAfterFox = .ok matcher ∧
        (matcher.isMatch .greyHen).outcome = .ok true) ∧
      ∃ query, (compile ⟨.terminalCount, 256⟩ (some .henNotAfterFox) none).outcome = .ok query ∧
        (query.holds .greyHen).outcome = .ok true := by
  have choiceFree : Grammar.henNotAfterFox.ChoiceFree true :=
    ⟨nofun, trivial, ⟨nofun, ⟨fun _ => .inr rfl, trivial, trivial, trivial⟩, trivial⟩,
      ⟨nofun, ⟨nofun, trivial, trivial⟩, trivial⟩, trivial⟩
  have present : Grammar.henNotAfterFox.PresentIn .greyHen := by decide
  have accepted := accepts_greyHen rfl present henNotAfterFox_found
  obtain ⟨query, compiled, holds⟩ := @compile_terminalCount_holds 256 .greyHen _ choiceFree accepted
  refine ⟨choiceFree, accepted, query, compiled, ?_⟩
  rcases holds with holds | ⟨rfl, -⟩
  · exact holds
  · rw [compile_henNotAfterFox] at compiled
    cases compiled

/-! Without unions there are choices below negations, and positions to lose. -/

namespace Grammar

mutual

def UnionFree : Grammar → Prop
  | terminal _ => True
  | composite _ operation children _ _ => operation ≠ .union ∧ AllUnionFree children

def AllUnionFree : List Grammar → Prop
  | [] => True
  | child :: rest => child.UnionFree ∧ AllUnionFree rest

end

/-- It is enough to lack one of two words: a fox is asked for where there is no wolf either. -/
def foxOrNoWolf : Grammar :=
  combine .not [combine .intersect [combine .not [word "fox"], word "wolf"]]

/-- Without positions, a hen that no hen follows is a hen and no hen. -/
def singleHen : Grammar :=
  combine .intersect [word "hen", combine .not [combine .concat [word "hen", word "hen"]]]

end Grammar

def Query.ofFox : Query :=
  ⟨[.term "text" "fox" true true], [], [], some 1⟩

private theorem foxOrNoWolf_found : Grammar.foxOrNoWolf.results .greyHen ≠ [] := by
  have wolfMissing : (Grammar.word "wolf").results .greyHen = [] := by decide +kernel
  refine Grammar.results_not_ne_nil_iff.mpr ?_
  by_contra found
  have each := (Grammar.results_intersect_ne_nil_iff.mp found).2
  exact each (.word "wolf") (List.mem_cons_of_mem _ (List.mem_singleton_self _)) wolfMissing

private theorem no_two_hens :
    (Grammar.combine .concat [.word "hen", .word "hen"]).results .greyHen = [] := by
  rw [Grammar.combine, Grammar.results, Grammar.matcher, Grammar.combined, Matcher.results,
    Grammar.resultsOfAll_matchers, List.map_cons, List.map_cons, hen_results]
  cbv

private theorem singleHen_found : Grammar.singleHen.results .greyHen ≠ [] := by
  refine Grammar.results_intersect_ne_nil_iff.mpr ⟨List.cons_ne_nil _ _, ?_⟩
  simp only [List.forall_mem_cons]
  exact ⟨hen_found, Grammar.results_not_ne_nil_iff.mpr no_two_hens, nofun⟩

namespace CompilerOptions

/-- A grammar without unions accepts a document with all its layers, and its query, which counts all
terminals, does not hold there. -/
structure Loses (grammar : Grammar) (document : Document) (query : Query) : Prop where
  valid : grammar.validate = .ok ()
  unionFree : grammar.UnionFree
  present : grammar.PresentIn document
  accepted : ∃ matcher, Matcher.ofGrammar grammar = .ok matcher ∧
    (matcher.isMatch document).outcome = .ok true
  compiled : (compile ⟨.terminalCount, 256⟩ (some grammar) none).outcome = .ok query
  lost : (query.holds document).outcome = .ok false

private theorem compile_foxOrNoWolf :
    (compile ⟨.terminalCount, 256⟩ (some .foxOrNoWolf) none).outcome = .ok .ofFox := by
  cbv

private theorem compile_singleHen :
    (compile ⟨.terminalCount, 256⟩ (some .singleHen) none).outcome = .ok .matchNone := by
  cbv

theorem terminalCount_loses_greyHen :
    Loses .foxOrNoWolf .greyHen .ofFox ∧ Loses .singleHen .greyHen .matchNone := by
  constructor
  · have present : Grammar.foxOrNoWolf.PresentIn .greyHen := by decide
    refine ⟨rfl, ?_, present, accepts_greyHen rfl present foxOrNoWolf_found,
      compile_foxOrNoWolf, ?_⟩
    · exact ⟨nofun, ⟨nofun, ⟨nofun, trivial, trivial⟩, trivial, trivial⟩, trivial⟩
    · have evaluates : Query.ofFox.toClause.Compiles := ⟨⟨trivial, trivial⟩, trivial, trivial⟩
      rw [Query.holds_outcome evaluates]
      exact congrArg Except.ok (by decide +kernel)
  · have present : Grammar.singleHen.PresentIn .greyHen := by decide
    refine ⟨rfl, ?_, present, accepts_greyHen rfl present singleHen_found,
      compile_singleHen, rfl⟩
    exact ⟨nofun, trivial, ⟨nofun, ⟨nofun, trivial, trivial, trivial⟩, trivial⟩, trivial⟩

end CompilerOptions

end Concordance
