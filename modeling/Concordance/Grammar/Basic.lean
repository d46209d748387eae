import Concordance.Grammar.Operation

/-!
Grammars: trees whose leaves describe single occurrences in one layer, and whose inner nodes combine
what is below them.
-/

namespace Concordance

/-- What a terminal looks for: one of several literal terms, or a regular expression. -/
inductive TerminalMatcher where
  | exact (terms : List String)
  | regex (pattern : String)
deriving DecidableEq, Repr

/-- A leaf.  With `wholeWord`, terms count only as whole words. -/
structure Terminal where
  name : String
  layer : String
  matcher : TerminalMatcher
  caseSensitive : Bool
  wholeWord : Bool
deriving DecidableEq, Repr

inductive Grammar where
  | terminal (terminal : Terminal)
  | composite (name : String) (operation : Operation) (children : List Grammar)
      (slop : Option Nat) (matchFirst : Bool)
deriving Repr

namespace TerminalMatcher

/-- Terms come before patterns; terms and patterns are ordered lexicographically. -/
def le : TerminalMatcher → TerminalMatcher → Bool
  | exact left, exact right => !decide (right < left)
  | exact _, regex _ => true
  | regex _, exact _ => false
  | regex left, regex right => !decide (right < left)

end TerminalMatcher

namespace Terminal

/-- Order by name, layer, matcher and flags. -/
def le (left right : Terminal) : Bool :=
  if left.name ≠ right.name then decide (left.name < right.name)
  else if left.layer ≠ right.layer then decide (left.layer < right.layer)
  else if left.matcher ≠ right.matcher then left.matcher.le right.matcher
  else if left.caseSensitive ≠ right.caseSensitive then right.caseSensitive
  else right.wholeWord || !left.wholeWord

end Terminal

namespace Grammar

/-! Equality is decidable. -/

mutual

def decEq : (left right : Grammar) → Decidable (left = right)
  | terminal left, terminal right =>
    if h : left = right then isTrue (by rw [h]) else isFalse (by simpa using h)
  | terminal _, composite .. => isFalse nofun
  | composite .., terminal _ => isFalse nofun
  | composite name operation children slop matchFirst,
    composite name' operation' children' slop' matchFirst' =>
    match decEqAll children children' with
    | isTrue hc =>
      if h : name = name' ∧ operation = operation' ∧ slop = slop' ∧ matchFirst = matchFirst' then
        isTrue (by simp [hc, h])
      else
        isFalse (by
          intro e
          injection e with h1 h2 _ h4 h5
          exact h ⟨h1, h2, h4, h5⟩)
    | isFalse hc =>
      isFalse (by
        intro e
        injection e with _ _ h3 _ _
        exact hc h3)

def decEqAll : (left right : List Grammar) → Decidable (left = right)
  | [], [] => isTrue rfl
  | [], _ :: _ => isFalse nofun
  | _ :: _, [] => isFalse nofun
  | left :: lefts, right :: rights =>
    match decEq left right, decEqAll lefts rights with
    | isTrue h, isTrue hs => isTrue (by rw [h, hs])
    | isFalse h, _ => isFalse (by simp [h])
    | _, isFalse hs => isFalse (by simp [hs])

end

instance : DecidableEq Grammar := decEq

/-! Constructors. -/

def exact (name layer : String) (terms : List String) : Grammar :=
  terminal ⟨name, layer, .exact terms, false, false⟩

def regex (name layer pattern : String) : Grammar :=
  terminal ⟨name, layer, .regex pattern, false, false⟩

def combine (operation : Operation) (children : List Grammar) : Grammar :=
  composite "" operation children none false

def gap (slop : Option Nat) (children : List Grammar) : Grammar :=
  composite "" .gap children slop false

def matchingFirst : Grammar → Grammar
  | terminal t => terminal t
  | composite name operation children slop _ => composite name operation children slop true

def caseSensitive : Grammar → Grammar
  | terminal t => terminal { t with caseSensitive := true }
  | node => node

def wholeWord : Grammar → Grammar
  | terminal t => terminal { t with wholeWord := true }
  | node => node

def name : Grammar → String
  | terminal t => t.name
  | composite name .. => name

mutual

def terminals : Grammar → List Terminal
  | terminal t => [t]
  | composite _ _ children _ _ => terminalsOfAll children

def terminalsOfAll : List Grammar → List Terminal
  | [] => []
  | child :: rest => child.terminals ++ terminalsOfAll rest

end

/-- The names, apart from the empty one, that terminals with different definitions share, in order.
-/
def duplicateNames (grammar : Grammar) : List String :=
  let definitions := grammar.terminals.eraseDups.filter fun t => t.name ≠ ""
  let names := definitions.map Terminal.name
  let shared := names.eraseDups.filter fun name => 1 < names.count name
  shared.mergeSort fun left right => decide (left ≤ right)

end Grammar

end Concordance
