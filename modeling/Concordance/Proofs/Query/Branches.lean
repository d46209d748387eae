import Concordance.Proofs.Query.Meaning
import Concordance.Proofs.Query.Shape

/-!
The two branches of a query.  What a query asks for comes from the inclusive grammar alone and what
it excludes from the exclusive one, so that it holds where the queries of both branches do.
-/

namespace Concordance

namespace CompilerOptions

variable {options : CompilerOptions} {inclusive exclusive : Option Grammar}

/-! Every query can be evaluated, whatever the threshold. -/

theorem valid_eraseDups_terminals {grammar : Grammar} (valid : grammar.WellFormed) :
    SymbolTable.Valid grammar.terminals.eraseDups := by
  intro t member
  exact Grammar.valid_terminals grammar valid t (List.mem_eraseDups.mp member)

theorem compiles_inclusiveQuery {grammar : Grammar} (valid : grammar.WellFormed) :
    (options.inclusiveQuery grammar).toClause.Compiles := by
  rw [inclusiveQuery, table_inclusiveExpr]
  exact compiles_queryOf (valid_eraseDups_terminals valid)

theorem allCompile_exclusiveClauses {grammar : Grammar} (valid : grammar.WellFormed) :
    Clause.AllCompile (options.exclusiveClauses grammar) := by
  obtain ⟨threshold, limit⟩ := options
  cases threshold with
  | requiredTerminals => exact compiles_exclusiveClauses valid rfl
  | terminalCount =>
      have table : (grammar.direct []).2.Valid := by
        rw [Grammar.table_direct]
        exact Grammar.valid_bounds valid
      have rendered : Clause.AllCompile
          ((grammar.direct []).1.simplify.positiveSymbols.map (grammar.direct []).2.clause) := by
        rw [Clause.allCompile_iff, List.forall_mem_map]
        intro id member
        exact SymbolTable.compiles_clause table id
      rw [exclusiveClauses]
      dsimp only
      split
      · exact ⟨trivial, rendered⟩
      · exact rendered

theorem compiles_query_of_wellFormed (inclusiveValid : ∀ grammar ∈ inclusive, grammar.WellFormed)
    (exclusiveValid : ∀ grammar ∈ exclusive, grammar.WellFormed) :
    (options.query inclusive exclusive).toClause.Compiles := by
  have wanted : (inclusive.elim Query.empty options.inclusiveQuery).toClause.Compiles := by
    cases inclusive with
    | none => exact ⟨trivial, trivial, trivial⟩
    | some grammar => exact compiles_inclusiveQuery (inclusiveValid grammar rfl)
  have unwanted : Clause.AllCompile (exclusive.elim [] options.exclusiveClauses) := by
    cases exclusive with
    | none => trivial
    | some grammar => exact allCompile_exclusiveClauses (exclusiveValid grammar rfl)
  exact ⟨wanted.1, wanted.2.1, unwanted⟩

theorem truth_query_eq_and (document : Document) :
    (options.query inclusive exclusive).truth document =
      ((options.query inclusive none).truth document &&
        (options.query none exclusive).truth document) := by
  have empty : Query.empty.truth document = true := rfl
  rw [truth_query inclusive exclusive, truth_query inclusive none, truth_query none exclusive,
    Option.elim_none, Option.elim_none, empty, List.any_nil, Bool.not_false, Bool.and_true,
    Bool.true_and]

/-- A query holds for a document exactly if the query of its inclusive branch does and that of its
exclusive branch does. -/
theorem compile_branches (options : CompilerOptions)
    (inclusiveValid : ∀ grammar ∈ inclusive, grammar.validate = .ok ())
    (exclusiveValid : ∀ grammar ∈ exclusive, grammar.validate = .ok ()) :
    ∃ query wanted unwanted,
      (options.compile inclusive exclusive).outcome = .ok query ∧
      (options.compile inclusive none).outcome = .ok wanted ∧
      (options.compile none exclusive).outcome = .ok unwanted ∧
      ∀ document : Document, ∃ wantedHolds unwantedHolds,
        (wanted.holds document).outcome = .ok wantedHolds ∧
        (unwanted.holds document).outcome = .ok unwantedHolds ∧
        (query.holds document).outcome = .ok (wantedHolds && unwantedHolds) := by
  have wanted : ∀ grammar ∈ inclusive, grammar.WellFormed :=
    fun grammar member => Grammar.validate_eq_ok_iff.mp (inclusiveValid grammar member)
  have unwanted : ∀ grammar ∈ exclusive, grammar.WellFormed :=
    fun grammar member => Grammar.validate_eq_ok_iff.mp (exclusiveValid grammar member)
  have absent : ∀ grammar ∈ (none : Option Grammar), grammar.WellFormed := nofun
  refine ⟨_, _, _, compile_outcome wanted unwanted, compile_outcome wanted absent,
    compile_outcome absent unwanted, ?_⟩
  intro document
  refine ⟨_, _, Query.holds_outcome (compiles_query_of_wellFormed wanted absent) document,
    Query.holds_outcome (compiles_query_of_wellFormed absent unwanted) document, ?_⟩
  rw [Query.holds_outcome (compiles_query_of_wellFormed wanted unwanted), truth_query_eq_and]

end CompilerOptions

/-! A coloured hen is asked for, and documents without a hen are excluded: all terminals are counted
in the one branch, and the other has none to count. -/

theorem CompilerOptions.compile_branches_greyHen :
    Grammar.henWithoutFox.validate = .ok () ∧
      (Grammar.combine .not [.word "hen"]).validate = .ok () ∧
      ∃ query wanted unwanted,
        (compile ⟨.terminalCount, 256⟩ (some .henWithoutFox)
          (some (.combine .not [.word "hen"]))).outcome = .ok query ∧
        (compile ⟨.terminalCount, 256⟩ (some .henWithoutFox) none).outcome = .ok wanted ∧
        (compile ⟨.terminalCount, 256⟩ none (some (.combine .not [.word "hen"]))).outcome =
          .ok unwanted ∧
        ∃ wantedHolds unwantedHolds,
          (wanted.holds .greyHen).outcome = .ok wantedHolds ∧
          (unwanted.holds .greyHen).outcome = .ok unwantedHolds ∧
          (query.holds .greyHen).outcome = .ok (wantedHolds && unwantedHolds) := by
  have wantedValid : Grammar.henWithoutFox.validate = .ok () := rfl
  have unwantedValid : (Grammar.combine .not [.word "hen"]).validate = .ok () := rfl
  obtain ⟨query, wanted, unwanted, compiled, wantedCompiled, unwantedCompiled, evaluated⟩ :=
    @compile_branches (some .henWithoutFox) (some (.combine .not [.word "hen"]))
      ⟨.terminalCount, 256⟩ (by simpa using wantedValid) (by simpa using unwantedValid)
  exact ⟨wantedValid, unwantedValid, query, wanted, unwanted, compiled, wantedCompiled,
    unwantedCompiled, evaluated .greyHen⟩

end Concordance
