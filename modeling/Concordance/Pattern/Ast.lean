/-!
Patterns as they are written.  What a part means depends on the flags in force where it stands, so
the parts keep the written form and the changes of flags.
-/

namespace Concordance.Pattern

inductive Flag where
  | caseInsensitive
  | multiLine
  | dotMatchesAll
  | swapGreed
  | unicode
  | crlf
  | ignoreBlanks
deriving DecidableEq, Repr

structure FlagChange where
  flag : Flag
  value : Bool
deriving DecidableEq, Repr

inductive Assertion where
  | caret
  | dollar
  | textStart
  | textEnd
  | wordBoundary
  | notWordBoundary
  | wordStart
  | wordEnd
  | wordStartHalf
  | wordEndHalf
deriving DecidableEq, Repr

inductive Shorthand where
  | digit
  | blank
  | word
deriving DecidableEq, Repr

/-- The name of a class of characters, alone or as a value of a property. -/
inductive PropertyQuery where
  | name (name : String)
  | value (property value : String)
deriving DecidableEq, Repr

inductive SetOperation where
  | intersection
  | difference
  | symmetricDifference
deriving DecidableEq, Repr

/-- A character; `isByte` if it is written as `\xNN` with two digits. -/
structure WrittenChar where
  char : Char
  isByte : Bool
deriving DecidableEq, Repr

inductive ClassAst where
  | empty
  | char (c : WrittenChar)
  | range (first last : WrittenChar)
  /-- A class of ASCII characters, by the intervals it consists of. -/
  | ascii (intervals : List (Nat × Nat)) (negated : Bool)
  | shorthand (kind : Shorthand) (negated : Bool)
  | property (query : PropertyQuery) (negated : Bool)
  | bracketed (negated : Bool) (body : ClassAst)
  | union (items : List ClassAst)
  | operation (op : SetOperation) (left right : ClassAst)
deriving Repr

inductive Ast where
  | empty
  | flags (changes : List FlagChange)
  | char (c : WrittenChar)
  | dot
  | assertion (kind : Assertion)
  | characters (body : ClassAst)
  | repetition (greedy : Bool) (least : Nat) (most : Option Nat) (body : Ast)
  | group (changes : List FlagChange) (body : Ast)
  | concat (items : List Ast)
  | alternation (branches : List Ast)
deriving Repr

mutual

def ClassAst.depth : ClassAst → Nat
  | .bracketed _ body => body.depth + 1
  | .union items => ClassAst.depthOfAll items + 1
  | .operation _ left right => max left.depth right.depth + 1
  | _ => 0

def ClassAst.depthOfAll : List ClassAst → Nat
  | [] => 0
  | item :: rest => max item.depth (ClassAst.depthOfAll rest)

end

mutual

def Ast.depth : Ast → Nat
  | .characters (.bracketed negated body) => (ClassAst.bracketed negated body).depth
  | .repetition _ _ _ body => body.depth + 1
  | .group _ body => body.depth + 1
  | .concat items => Ast.depthOfAll items + 1
  | .alternation branches => Ast.depthOfAll branches + 1
  | _ => 0

def Ast.depthOfAll : List Ast → Nat
  | [] => 0
  | item :: rest => max item.depth (Ast.depthOfAll rest)

end

end Concordance.Pattern
