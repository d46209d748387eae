/-!
Matches: sequences of tokens, each with the feature it was found in and its text.  Two matches are
the same, and are ordered, by tokens and features; texts only inform.
-/

namespace Concordance

structure Match where
  tokens : List Nat
  features : List String
  texts : List String
deriving DecidableEq, Repr, Inhabited

namespace Match

def empty : Match := ⟨[], [], []⟩

def same (left right : Match) : Bool :=
  left.tokens == right.tokens && left.features == right.features

/-- Matches are ordered by tokens, then by features, lexicographically. -/
def le (left right : Match) : Bool :=
  left.tokens < right.tokens ||
    (left.tokens == right.tokens && !decide (right.features < left.features))

def compare (left right : Match) : Ordering :=
  if left.same right then .eq else if left.le right then .lt else .gt

def lt (left right : Match) : Bool :=
  left.le right && !left.same right

def append (left right : Match) : Match :=
  ⟨left.tokens ++ right.tokens, left.features ++ right.features, left.texts ++ right.texts⟩

def merge (parts : List Match) : Match :=
  parts.foldr append empty

def length (found : Match) : Nat :=
  found.tokens.length

def isEmpty (found : Match) : Bool :=
  found.tokens.isEmpty

def span? (found : Match) : Option (Nat × Nat) :=
  match found.tokens with
  | [] => none
  | token :: rest => some (rest.foldl min token, rest.foldl max token)

def linked (related : Nat → Nat → Bool) : List Nat → Bool
  | first :: second :: rest => related first second && linked related (second :: rest)
  | _ => true

def isContiguous (found : Match) : Bool :=
  linked (fun first second => second == first + 1) found.tokens

/-- Whether every token follows the one before, at a distance of at most `slop` if there is one. -/
def isWithin (slop : Option Nat) (found : Match) : Bool :=
  linked (fun first second => first < second && slop.all (second - first ≤ ·)) found.tokens

def distance (left right : Nat) : Nat :=
  (left - right) + (right - left)

/-- The sum of the distances of all pairs. -/
def spread : List Nat → Nat
  | [] => 0
  | token :: rest => (rest.map (distance token)).sum + spread rest

/-- The sum of the distances of all pairs of tokens, counted in 64 bits: a sum that does not fit
starts again from zero. -/
def dispersion (found : Match) : Nat :=
  spread found.tokens % UInt64.size

example :
    dispersion ⟨[1, 2, 4], ["text", "text", "text"], ["", "", ""]⟩ = 1 + 3 + 2 ∧
      dispersion ⟨[0, 2 ^ 64 - 1, 0], ["text", "text", "text"], ["", "", ""]⟩ = 2 ^ 64 - 2 := by
  decide

/-- A list in which, of neighbours that are the same, only the last is kept. -/
def keepLast : List Match → List Match
  | first :: second :: rest =>
    if first.same second then keepLast (second :: rest) else first :: keepLast (second :: rest)
  | found => found

/-- Matches in increasing order, each once; of those that are the same, the last one given. -/
def canonical (found : List Match) : List Match :=
  keepLast (found.mergeSort le)

/-- Matches in increasing order, each once; of those that are the same, the first one given. -/
def canonicalFirst (found : List Match) : List Match :=
  canonical found.reverse

@[simp] theorem append_empty (found : Match) : found.append empty = found := by
  simp [append, empty]

@[simp] theorem empty_append (found : Match) : empty.append found = found := by
  simp [append, empty]

theorem append_assoc (a b c : Match) : (a.append b).append c = a.append (b.append c) := by
  simp [append, List.append_assoc]

@[simp] theorem merge_nil : merge [] = empty := rfl

@[simp] theorem merge_cons (first : Match) (rest : List Match) :
    merge (first :: rest) = first.append (merge rest) := rfl

theorem merge_singleton (found : Match) : merge [found] = found := by
  rw [merge_cons, merge_nil, append_empty]

theorem merge_append (left right : List Match) :
    merge (left ++ right) = (merge left).append (merge right) := by
  induction left with
  | nil => rw [List.nil_append, merge_nil, empty_append]
  | cons first rest ih => rw [List.cons_append, merge_cons, merge_cons, ih, append_assoc]

@[simp] theorem same_self (found : Match) : found.same found = true := by
  simp [same]

end Match

end Concordance
