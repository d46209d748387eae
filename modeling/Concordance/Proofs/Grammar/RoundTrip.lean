import Concordance.Grammar.Printer
import Concordance.Grammar.Reader
import Concordance.Proofs.Grammar.Validation

/-!
Grammars through JSON.  What is written of a well-formed grammar is read as that grammar, and what
is read is well-formed.
-/

namespace Concordance.Grammar

theorem termsOf_strings (path : List Nat) (terms : List String) :
    termsOf path (.strings terms) = .ok terms := by
  have read : (terms.map Json.string).mapM termOf? = some terms := by
    induction terms with
    | nil => rfl
    | cons term rest ih =>
        rw [List.map_cons, List.mapM_cons, ih]
        rfl
  rw [Json.strings, termsOf, read]

/-! One node. -/

theorem readAt_exact (path : List Nat) (name layer : String) (terms : List String)
    (caseSensitive wholeWord : Bool) :
    readAt path (Terminal.toJson ⟨name, layer, .exact terms, caseSensitive, wholeWord⟩) =
      .ok (terminal ⟨name, layer, .exact terms, caseSensitive, wholeWord⟩) := by
  have fields : readAt path
        (Terminal.toJson ⟨name, layer, .exact terms, caseSensitive, wholeWord⟩) =
      ((termsOf path (.strings terms)).map TerminalMatcher.exact >>= fun matcher =>
        Except.ok (Terminal.mk name layer matcher caseSensitive wholeWord)).map terminal := rfl
  rw [fields, termsOf_strings]
  rfl

theorem readAt_regex (path : List Nat) (name layer pattern : String) (caseSensitive : Bool) :
    readAt path (Terminal.toJson ⟨name, layer, .regex pattern, caseSensitive, false⟩) =
      .ok (terminal ⟨name, layer, .regex pattern, caseSensitive, false⟩) := rfl

/-- The fields of a composite are read from the places where they are written, whichever of them are
left out. -/
theorem readAt_composite (path : List Nat) (name : String) (operation : Operation)
    (children : List Grammar) (slop : Option Nat) (matchFirst : Bool) :
    readAt path (composite name operation children slop matchFirst).toJson =
      readAll path 0 (toJsonAll children) >>= fun children =>
        .ok (composite name operation children slop matchFirst) := by
  cases operation <;> cases slop <;> cases matchFirst <;> rfl

/-! Trees. -/

mutual

theorem readAt_toJson : ∀ (grammar : Grammar) (path : List Nat), grammar.WellFormed →
    readAt path grammar.toJson = .ok grammar
  | terminal ⟨name, layer, .exact terms, caseSensitive, wholeWord⟩, path, _ =>
      readAt_exact path name layer terms caseSensitive wholeWord
  | terminal ⟨name, layer, .regex pattern, caseSensitive, wholeWord⟩, path, valid => by
      have unmarked : wholeWord = false := (Terminal.pattern_of_valid valid rfl).1
      subst unmarked
      exact readAt_regex path name layer pattern caseSensitive
  | composite name operation children slop matchFirst, path, valid => by
      rw [readAt_composite, readAll_toJsonAll children path 0 valid.2, ok_bind]

theorem readAll_toJsonAll : ∀ (children : List Grammar) (path : List Nat) (index : Nat),
    AllWellFormed children → readAll path index (toJsonAll children) = .ok children
  | [], _, _, _ => rfl
  | child :: rest, path, index, valid => by
      rw [toJsonAll, readAll, readAt_toJson child (path ++ [index]) valid.1, ok_bind,
        readAll_toJsonAll rest path (index + 1) valid.2, ok_bind]
      rfl

end

theorem ofJson_toJson {grammar : Grammar} (valid : grammar.WellFormed) :
    ofJson grammar.toJson = .ok grammar := by
  rw [ofJson, readAt_toJson grammar [] valid, ok_bind, validate_eq_ok_iff.mpr valid]
  rfl

theorem wellFormed_of_ofJson {json : Json} {grammar : Grammar} (read : ofJson json = .ok grammar) :
    grammar.WellFormed := by
  rw [ofJson, bind_eq_ok_iff] at read
  obtain ⟨other, -, checked⟩ := read
  rw [bind_eq_ok_iff] at checked
  obtain ⟨⟨⟩, valid, same⟩ := checked
  cases same
  exact validate_eq_ok_iff.mp valid

/-- Writing and reading a grammar that validation accepts changes nothing, and what is read from any
value is accepted, so that writing and reading it again changes nothing either. -/
theorem json_round_trip :
    (∀ grammar : Grammar, grammar.validate = .ok () → ofJson grammar.toJson = .ok grammar) ∧
      ∀ (json : Json) (grammar : Grammar), ofJson json = .ok grammar →
        grammar.validate = .ok () ∧ ofJson grammar.toJson = .ok grammar := by
  constructor
  · intro grammar valid
    exact ofJson_toJson (validate_eq_ok_iff.mp valid)
  · intro json grammar read
    have valid := wellFormed_of_ofJson read
    exact ⟨validate_eq_ok_iff.mpr valid, ofJson_toJson valid⟩

/-- A sequence whose fields are all set, and a union read from a value with other names of its
fields. -/
theorem json_round_trip_red :
    ofJson (composite "near" .gap
        [terminal ⟨"red", "text", .exact ["red", "crimson"], true, true⟩,
          terminal ⟨"", "kind", .exact ["noun"], false, false⟩] (some 2) true).toJson =
      .ok (composite "near" .gap
        [terminal ⟨"red", "text", .exact ["red", "crimson"], true, true⟩,
          terminal ⟨"", "kind", .exact ["noun"], false, false⟩] (some 2) true) ∧
    (combine .union [exact "red" "text" ["red"]]).validate = .ok () ∧
    ofJson (combine .union [exact "red" "text" ["red"]]).toJson =
      .ok (combine .union [exact "red" "text" ["red"]]) := by
  refine ⟨json_round_trip.1 _ rfl, ?_⟩
  exact json_round_trip.2 (.object [
    ("components", .array [.object [
      ("layer", .string "text"), ("name", .string "red"), ("terms", .strings ["red"])]]),
    ("match_first", .null), ("operation", .string "union")]) _ rfl

end Concordance.Grammar
