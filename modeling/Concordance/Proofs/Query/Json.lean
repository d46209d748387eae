import Concordance.Query.Basic

/-!
Queries as JSON.  Every part of a query stands in its rendering under a name of its own, so that
different queries are rendered differently.
-/

namespace Concordance

open Json

/-! The fields of a rendered query. -/

theorem nested_inj {name other : String} {fields others : List (String × Json)} :
    nested name fields = nested other others ↔ name = other ∧ fields = others := by
  simp [nested]

theorem natural_injective : Function.Injective natural := by
  intro value other same
  rwa [natural, natural, number.injEq, Number.natural.injEq] at same

theorem lookup?_minimumFields (name : String) (minimum : Option Nat) :
    lookup? name (minimumFields minimum) =
      if "minimum_should_match" = name then minimum.map natural else none := by
  cases minimum with
  | none => simp [minimumFields]
  | some minimum => simp [minimumFields, lookup?_cons]

theorem lookup?_clauseFields (name other : String) (items : List Json) :
    lookup? other (clauseFields name items) =
      if name = other ∧ items ≠ [] then some (.array items) else none := by
  cases items with
  | nil => simp [clauseFields]
  | cons item rest => simp [clauseFields, lookup?_cons]

/-- The rendered clauses under a name; there are none where the name is left out. -/
def listedUnder (name : String) (fields : List (String × Json)) : List Json :=
  match lookup? name fields with
  | some (.array items) => items
  | _ => []

theorem listedUnder_eq {name : String} {fields : List (String × Json)} {items : List Json}
    (found : lookup? name fields = if items ≠ [] then some (.array items) else none) :
    listedUnder name fields = items := by
  rw [listedUnder, found]
  cases items with
  | nil => rfl
  | cons item rest => rfl

def boolFields (should must mustNot : List Json) (minimum : Option Nat) : List (String × Json) :=
  minimumFields minimum ++ clauseFields "must" must ++ clauseFields "must_not" mustNot ++
    clauseFields "should" should

section

variable (should must mustNot : List Json) (minimum : Option Nat)

theorem lookup?_boolFields (name : String) :
    lookup? name (boolFields should must mustNot minimum) =
      (((lookup? name (minimumFields minimum)).or (lookup? name (clauseFields "must" must))).or
        (lookup? name (clauseFields "must_not" mustNot))).or
          (lookup? name (clauseFields "should" should)) := by
  rw [boolFields, lookup?_append, lookup?_append, lookup?_append]

theorem listedUnder_should :
    listedUnder "should" (boolFields should must mustNot minimum) = should := by
  apply listedUnder_eq
  simp [lookup?_boolFields, lookup?_minimumFields, lookup?_clauseFields]

theorem listedUnder_must :
    listedUnder "must" (boolFields should must mustNot minimum) = must := by
  apply listedUnder_eq
  simp [lookup?_boolFields, lookup?_minimumFields, lookup?_clauseFields]

theorem listedUnder_mustNot :
    listedUnder "must_not" (boolFields should must mustNot minimum) = mustNot := by
  apply listedUnder_eq
  simp [lookup?_boolFields, lookup?_minimumFields, lookup?_clauseFields]

theorem lookup?_minimum :
    lookup? "minimum_should_match" (boolFields should must mustNot minimum) =
      minimum.map natural := by
  simp [lookup?_boolFields, lookup?_minimumFields, lookup?_clauseFields]

end

theorem boolFields_inj {should must mustNot should' must' mustNot' : List Json}
    {minimum minimum' : Option Nat} :
    boolFields should must mustNot minimum = boolFields should' must' mustNot' minimum' ↔
      should = should' ∧ must = must' ∧ mustNot = mustNot' ∧ minimum = minimum' := by
  constructor
  · intro same
    have shoulds := congrArg (listedUnder "should") same
    have musts := congrArg (listedUnder "must") same
    have mustNots := congrArg (listedUnder "must_not") same
    have minima := congrArg (lookup? "minimum_should_match") same
    rw [listedUnder_should, listedUnder_should] at shoulds
    rw [listedUnder_must, listedUnder_must] at musts
    rw [listedUnder_mustNot, listedUnder_mustNot] at mustNots
    rw [lookup?_minimum, lookup?_minimum] at minima
    exact ⟨shoulds, musts, mustNots, Option.map_injective natural_injective minima⟩
  · rintro ⟨rfl, rfl, rfl, rfl⟩
    rfl

/-! Clauses, and queries as clauses.  The name at the root of a rendering is that of its form. -/

namespace Clause

theorem toJson_bool (should must mustNot : List Clause) (minimumShouldMatch : Option Nat) :
    (bool should must mustNot minimumShouldMatch).toJson =
      nested "bool" (boolFields (toJsonAll should) (toJsonAll must) (toJsonAll mustNot)
        minimumShouldMatch) := by
  rw [toJson, boolFields]

mutual

theorem toJson_injective : ∀ {left right : Clause}, left.toJson = right.toJson → left = right
  | term path text caseSensitive wholeWord, right, same => by
      cases right with
      | term path' text' caseSensitive' wholeWord' =>
          simp only [toJson, nested_inj, List.cons.injEq, Prod.mk.injEq, object.injEq,
            string.injEq, Json.bool.injEq, Bool.not_inj_iff, true_and, and_true] at same
          obtain ⟨rfl, rfl, rfl, rfl⟩ := same
          rfl
      | _ => simp [toJson, nested] at same
  | regexp path pattern caseSensitive, right, same => by
      cases right with
      | regexp path' pattern' caseSensitive' =>
          simp only [toJson, nested_inj, List.cons.injEq, Prod.mk.injEq, object.injEq,
            string.injEq, Json.bool.injEq, Bool.not_inj_iff, true_and, and_true] at same
          obtain ⟨rfl, rfl, rfl⟩ := same
          rfl
      | _ => simp [toJson, nested] at same
  | bool should must mustNot minimum, right, same => by
      cases right with
      | bool should' must' mustNot' minimum' =>
          rw [toJson_bool, toJson_bool, nested_inj, boolFields_inj] at same
          obtain ⟨-, shoulds, musts, mustNots, rfl⟩ := same
          rw [toJsonAll_injective shoulds, toJsonAll_injective musts, toJsonAll_injective mustNots]
      | _ => simp [toJson, nested] at same
  | matchAll, right, same => by
      cases right with
      | matchAll => rfl
      | _ => simp [toJson, nested] at same
  | matchNone, right, same => by
      cases right with
      | matchNone => rfl
      | _ => simp [toJson, nested] at same

theorem toJsonAll_injective : ∀ {lefts rights : List Clause},
    toJsonAll lefts = toJsonAll rights → lefts = rights
  | [], rights, same => by
      cases rights with
      | nil => rfl
      | cons right rest => simp [toJsonAll] at same
  | left :: lefts, rights, same => by
      cases rights with
      | nil => simp [toJsonAll] at same
      | cons right rights =>
          rw [toJsonAll, toJsonAll, List.cons.injEq] at same
          rw [toJson_injective same.1, toJsonAll_injective same.2]

end

end Clause

/-- Two queries have the same rendering only if they are the same query. -/
theorem Query.toJson_inj {left right : Query} : left.toJson = right.toJson ↔ left = right := by
  constructor
  · intro same
    have clauses := Clause.toJson_injective same
    cases left
    cases right
    simpa [toClause] using clauses
  · intro same
    rw [same]

end Concordance
