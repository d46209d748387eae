import Concordance.Match.Nearest
import Concordance.Match.Odometer

/-!
Combinations of matches.  From one list of matches for every component, a product combinator takes
all ways to choose one match of each, merges each choice in the order of the components, and keeps
what passes its test.
-/

namespace Concordance.Match

/-- All combinations of one element of each list; none without lists. -/
def combinations {α : Type} (lists : List (List α)) : List (List α) :=
  (Odometer.ofLists lists).toList

def combinationCount {α : Type} (lists : List (List α)) : Nat :=
  (Odometer.ofLists lists).size

def merged (lists : List (List Match)) (keep : List Match → Bool) : List Match :=
  canonical (((combinations lists).filter keep).map merge)

/-- Whether matches cover the same tokens, those of one token repeated to the length of the longest,
and those without tokens left out. -/
def isAligned (parts : List Match) : Bool :=
  let sized := parts.filter fun part => !part.isEmpty
  let most := (sized.map length).foldl max 0
  match sized.find? fun part => part.length == most with
  | none => true
  | some reference =>
    sized.all fun part =>
      if part.length == most then part.tokens == reference.tokens
      else part.length == 1 && reference.tokens.all fun token => part.tokens.head? == some token

/-- The matches as they are, or the nearest one of each cluster. -/
def finish (matchFirst : Bool) (found : List Match) : List Match :=
  if matchFirst then nearest found else found

def intersection (matchFirst : Bool) (lists : List (List Match)) : List Match :=
  finish matchFirst (merged lists fun _ => true)

def concatenation (lists : List (List Match)) : List Match :=
  merged lists fun parts => (merge parts).isContiguous

def gap (slop : Option Nat) (matchFirst : Bool) (lists : List (List Match)) : List Match :=
  finish matchFirst (merged lists fun parts => (merge parts).isWithin slop)

def layerMatch (lists : List (List Match)) : List Match :=
  merged lists isAligned

def union (lists : List (List Match)) : List Match :=
  canonicalFirst lists.flatten

def negation (found : List Match) : List Match :=
  if found.isEmpty then [empty] else []

end Concordance.Match
