import Concordance.Proofs.Grammar.Fields

/-!
Spellings of a grammar.  Whichever of its names a field has, in whatever order the fields of an
object stand, and whatever unknown fields stand among them, the same grammar is read, or the same
error is given.
-/

namespace Concordance.Grammar

/-- Another way of writing the fields of an object: a field takes another of its names, which no
field beside it has, the fields change places, or an unknown field is added. -/
inductive Respelling : Fields → Fields → Prop
  | rename {before after : Fields} {names : List String} {name other : String} {value : Json}
      (known : names ∈ fieldNames) (named : name ∈ names) (renamed : other ∈ names)
      (alone : ∀ field ∈ before ++ after, field.1 ∉ names) :
      Respelling (before ++ (name, value) :: after) (before ++ (other, value) :: after)
  | reorder {fields others : Fields} (distinct : (fields.map Prod.fst).Nodup)
      (same : fields.Perm others) : Respelling fields others
  | extend {before after : Fields} {name : String} {value : Json}
      (unknown : ∀ names ∈ fieldNames, name ∉ names) :
      Respelling (before ++ after) (before ++ (name, value) :: after)

variable {fields others : Fields}

theorem Respelling.field?_eq (respelled : Respelling fields others) :
    ∀ names ∈ fieldNames, field? fields names = field? others names := by
  intro names looked
  cases respelled with
  | @rename before after names' name other value known named renamed alone =>
      -- Before and after, the field is the only one that its names find; other names miss it.
      by_cases same : names' = names
      · subst same
        rw [field?_append_cons_of_alone named alone, field?_append_cons_of_alone renamed alone]
      · have apart : ∀ name ∈ names', name ∉ names := fun name member inside =>
          same (eq_of_mem_names names' known names looked name member inside)
        rw [field?_append_cons_of_notMem (apart name named),
          field?_append_cons_of_notMem (apart other renamed)]
  | reorder distinct same =>
      apply field?_congr
      intro name _
      exact Json.lookup?_perm distinct same name
  | extend unknown => exact (field?_append_cons_of_notMem (unknown names looked)).symm

theorem Respelling.readAt_eq (respelled : Respelling fields others) (path : List Nat) :
    readAt path (.object fields) = readAt path (.object others) := by
  have same : SameFields fields others :=
    .of_field? fun names known _ => respelled.field?_eq names known
  apply same.readAt_eq
  rw [respelled.field?_eq childrenNames (by decide)]

/-- Values that differ only in how the nodes of a grammar are written, in as many of them and as
often as one likes, are read alike: as the same grammar, or with the same error at the same place.
-/
theorem ofJson_eq_of_respelled {json other : Json}
    (respelled : Relation.EqvGen (AtNode Respelling) json other) : ofJson json = ofJson other :=
  ofJson_eq_of_changes (fun changed path => changed.readAt_eq path) respelled

/-! A gap with a pattern in it, and the same gap with other names and with a note. -/

namespace Spelling

def red : Json :=
  .object [("layer", .string "text"), ("terms", .strings ["red"])]

def foxes : Json :=
  .object [("layer", .string "text"), ("pattern", .string "fox(es)?")]

def foxesRespelled : Json :=
  .object [("expression", .string "fox(es)?"), ("layer", .string "text")]

def redFoxes : Json :=
  .object [("components", .array [red, foxes]), ("op", .string "gap")]

def redFoxesRespelled : Json :=
  .object [("children", .array [red, foxesRespelled]), ("note", .bool true),
    ("operation", .string "gap")]

theorem respelled_foxes : Relation.EqvGen (AtNode Respelling) foxes foxesRespelled := by
  have renamed : Respelling [("layer", .string "text"), ("pattern", .string "fox(es)?")]
      [("layer", .string "text"), ("expression", .string "fox(es)?")] :=
    @Respelling.rename [("layer", .string "text")] [] patternNames "pattern" "expression" _
      (by decide) (by decide) (by decide) (by simp [patternNames])
  have swapped : Respelling
      [("layer", .string "text"), ("expression", .string "fox(es)?")]
      [("expression", .string "fox(es)?"), ("layer", .string "text")] :=
    .reorder (by decide) (.swap _ _ [])
  exact .trans _ _ _ (.rel _ _ (.here renamed)) (.rel _ _ (.here swapped))

theorem respelled_redFoxes : Relation.EqvGen (AtNode Respelling) redFoxes redFoxesRespelled := by
  have below : Relation.EqvGen (AtNode Respelling) redFoxes
      (.object [("components", .array [red, foxesRespelled]), ("op", .string "gap")]) :=
    @eqvGen_child "components" Respelling _ _ (by decide) respelled_foxes [] [("op", .string "gap")]
      [red] []
  have renamed : Respelling
      [("components", .array [red, foxesRespelled]), ("op", .string "gap")]
      [("children", .array [red, foxesRespelled]), ("op", .string "gap")] :=
    @Respelling.rename [] [("op", .string "gap")] childrenNames "components" "children" _
      (by decide) (by decide) (by decide) (by simp [childrenNames])
  have renamedAgain : Respelling
      [("children", .array [red, foxesRespelled]), ("op", .string "gap")]
      [("children", .array [red, foxesRespelled]), ("operation", .string "gap")] :=
    @Respelling.rename [("children", .array [red, foxesRespelled])] [] operationNames "op"
      "operation" _ (by decide) (by decide) (by decide) (by simp [operationNames])
  have extended : Respelling
      [("children", .array [red, foxesRespelled]), ("operation", .string "gap")]
      [("children", .array [red, foxesRespelled]), ("note", .bool true),
        ("operation", .string "gap")] :=
    @Respelling.extend [("children", .array [red, foxesRespelled])]
      [("operation", .string "gap")] "note" (.bool true) (by decide)
  refine .trans _ _ _ below ?_
  refine .trans _ _ _ (.rel _ _ (.here renamed)) ?_
  exact .trans _ _ _ (.rel _ _ (.here renamedAgain)) (.rel _ _ (.here extended))

end Spelling

theorem ofJson_eq_of_respelled_redFoxes :
    Relation.EqvGen (AtNode Respelling) Spelling.redFoxes Spelling.redFoxesRespelled ∧
      ofJson Spelling.redFoxes = ofJson Spelling.redFoxesRespelled :=
  ⟨Spelling.respelled_redFoxes, ofJson_eq_of_respelled Spelling.respelled_redFoxes⟩

end Concordance.Grammar
