/-!
JSON values.  Whole numbers are kept apart from all other numbers, and the fields of an object stand
in the order of their names, each name once.
-/

namespace Concordance

inductive Json.Number where
  | natural (value : Nat)
  /-- A negative whole number, `-value`. -/
  | negative (value : Nat)
  /-- `mantissa` times ten to the power `exponent`. -/
  | decimal (mantissa exponent : Int)
deriving DecidableEq, Repr, Inhabited

inductive Json where
  | null
  | bool (value : Bool)
  | number (value : Json.Number)
  | string (value : String)
  | array (items : List Json)
  | object (fields : List (String × Json))
deriving Repr, Inhabited

namespace Json

inductive Kind where
  | null
  | bool
  | number
  | string
  | array
  | object
deriving DecidableEq, Repr

def kind : Json → Kind
  | null => .null
  | bool _ => .bool
  | number _ => .number
  | string _ => .string
  | array _ => .array
  | object _ => .object

def Kind.name : Kind → String
  | null => "null"
  | bool => "bool"
  | number => "number"
  | string => "string"
  | array => "array"
  | object => "object"

def natural (value : Nat) : Json :=
  number (.natural value)

/-- The value of the first field of this name. -/
def lookup? (name : String) (fields : List (String × Json)) : Option Json :=
  (fields.find? fun field => field.1 == name).map Prod.snd

/-- The value under a name, if there is one and the value is an object. -/
def get? (json : Json) (name : String) : Option Json :=
  match json with
  | object fields => lookup? name fields
  | _ => none

/-- A field added to fields in the order of their names; it replaces a field of its own name. -/
def insertField (name : String) (value : Json) : List (String × Json) → List (String × Json)
  | [] => [(name, value)]
  | (other, kept) :: rest =>
    if name = other then (name, value) :: rest
    else if name < other then (name, value) :: (other, kept) :: rest
    else (other, kept) :: insertField name value rest

/-- The object with these fields; of fields with one name, the last counts. -/
def ofFields (fields : List (String × Json)) : Json :=
  object (fields.foldl (fun sorted field => insertField field.1 field.2 sorted) [])

def strings (texts : List String) : Json :=
  array (texts.map string)

def naturals (values : List Nat) : Json :=
  array (values.map natural)

def optional (value : Option Json) : Json :=
  value.getD null

@[simp] theorem lookup?_nil (name : String) : lookup? name [] = none := rfl

theorem lookup?_cons (name other : String) (value : Json) (rest : List (String × Json)) :
    lookup? name ((other, value) :: rest) =
      if other = name then some value else lookup? name rest := by
  by_cases h : other = name <;> simp [lookup?, h]

theorem lookup?_append (name : String) (first second : List (String × Json)) :
    lookup? name (first ++ second) = (lookup? name first).or (lookup? name second) := by
  rw [lookup?, List.find?_append, Option.map_or]
  rfl

end Json

end Concordance
