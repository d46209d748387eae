import Concordance.Pattern.Ast
import Concordance.Text.Blank
import Concordance.Text.Property

/-!
Reading patterns.  `Ast.parse?` refuses a text that is no pattern: unbalanced groups and classes, a
repetition of nothing, an unknown escape or flag, look-around, references to groups, nesting beyond
`maxDepth`.
-/

namespace Concordance.Pattern

open Concordance.Text

namespace Reading

/-- What is still to be read, whether blanks and comments count for nothing, and the group names
seen. -/
structure State where
  rest : List Char
  ignoreBlanks : Bool
  names : List String

end Reading

/-- A step of reading; without a result, the text is no pattern. -/
abbrev Reading := StateT Reading.State Option

namespace Reading

def maxDepth : Nat := 250

def refuse {α : Type} : Reading α := fun _ => none

def require (condition : Bool) : Reading Unit :=
  if condition then pure () else refuse

def peek : Reading (Option Char) := do
  return (← get).rest.head?

def peekChar : Reading Char := do
  match (← get).rest with
  | c :: _ => return c
  | [] => refuse

def setRest (rest : List Char) : Reading Unit :=
  modify fun state => { state with rest }

def advance : Reading Unit := do
  setRest (← get).rest.tail

/-- The characters after blanks and comments; a comment goes from `#` to the end of the line. -/
def dropIgnored : List Char → (inComment : Bool) → List Char
  | [], _ => []
  | c :: rest, true => dropIgnored rest (c != '\n')
  | c :: rest, false =>
    if isBlank c then dropIgnored rest false
    else if c = '#' then dropIgnored rest true
    else c :: rest

def skipIgnored : Reading Unit := do
  let state ← get
  if state.ignoreBlanks then setRest (dropIgnored state.rest false)

def advanceSkipping : Reading Unit := do
  advance
  skipIgnored

def accept (word : List Char) : Reading Bool := do
  let state ← get
  if word.isPrefixOf state.rest then
    setRest (state.rest.drop word.length)
    return true
  else return false

/-- The character after the next one.  Where blanks are ignored, blanks between the two are passed
over, and one comment sign with them. -/
def peekSecond : Reading (Option Char) := do
  let state ← get
  let rest := state.rest.tail
  if state.ignoreBlanks then
    let afterBlanks := rest.dropWhile isBlank
    let afterSign :=
      match afterBlanks with
      | '#' :: rest => rest.dropWhile isBlank
      | rest => rest
    return afterSign.head?.or rest.head?
  else return rest.head?

/-! Flags and groups. -/

def flag? : Char → Option Flag
  | 'i' => some .caseInsensitive
  | 'm' => some .multiLine
  | 's' => some .dotMatchesAll
  | 'U' => some .swapGreed
  | 'u' => some .unicode
  | 'R' => some .crlf
  | 'x' => some .ignoreBlanks
  | _ => none

/-- The flags up to `:` or `)`, each at most once; those after a `-`, of which there is at least one
then, are switched off. -/
def flagsFrom (changes : List FlagChange) (negated : Bool) :
    List Char → Option (List FlagChange × List Char)
  | [] => none
  | c :: rest =>
    if c = ':' ∨ c = ')' then
      if negated && changes.all (·.value) then none else some (changes.reverse, c :: rest)
    else if c = '-' then
      if negated then none else flagsFrom changes true rest
    else
      match flag? c with
      | some flag =>
        if changes.any (·.flag == flag) then none
        else flagsFrom (⟨flag, !negated⟩ :: changes) negated rest
      | none => none

/-- Whether the last change of `ignoreBlanks`, if any, switches it on. -/
def ignoresBlanks (changes : List FlagChange) (before : Bool) : Bool :=
  match changes.find? (·.flag == .ignoreBlanks) with
  | some change => change.value
  | none => before

def isNameChar (first : Bool) (c : Char) : Bool :=
  c == '_' || if first then isAlphabetic c
    else c == '.' || c == '[' || c == ']' || isAlphanumeric c

def isName : List Char → Bool
  | [] => false
  | c :: rest => isNameChar true c && rest.all (isNameChar false)

def groupName : Reading Unit := do
  let state ← get
  let name := state.rest.takeWhile (· != '>')
  let text := String.ofList name
  require (isName name && name.length < state.rest.length && !state.names.contains text)
  set { state with rest := state.rest.drop (name.length + 1), names := text :: state.names }

inductive Opening where
  | flags (changes : List FlagChange)
  | group (changes : List FlagChange)

def opening : Reading Opening := do
  skipIgnored
  let lookAround ← [['?', '='], ['?', '!'], ['?', '<', '='], ['?', '<', '!']].anyM fun word => do
    return word.isPrefixOf (← get).rest
  require (!lookAround)
  if ← accept ['?', 'P', '<'] then
    groupName
    return .group []
  else if ← accept ['?', '<'] then
    groupName
    return .group []
  else if ← accept ['?'] then
    match flagsFrom [] false (← get).rest with
    | some (changes, ':' :: rest) =>
      setRest rest
      return .group changes
    | some (changes, _ :: rest) =>
      setRest rest
      require (!changes.isEmpty)
      return .flags changes
    | _ => refuse
  else return .group []

/-! Escapes. -/

def isMeta (c : Char) : Bool :=
  "\\.+*?()|[]^$#&-~".contains c || c == '\x7b' || c == '\x7d'

/-- Whether a backslash before a character that has no other meaning leaves it as it is. -/
def isEscapable (c : Char) : Bool :=
  isMeta c || (c.toNat < 0x80 && !c.isAlphanum && c != '<' && c != '>')

def charOfCode (code : Nat) : Reading Char :=
  if code < 0xD800 ∨ (0xDFFF < code ∧ code < 0x110000) then return Char.ofNat code else refuse

def hexDigits : (count value : Nat) → Reading Nat
  | 0, value => return value
  | count + 1, value => do
    match hexDigit? (← peekChar) with
    | some digit =>
      advanceSkipping
      hexDigits count (value * 16 + digit)
    | none => refuse

def bracedHex : (fuel : Nat) → (value count : Nat) → Reading Nat
  | 0, _, _ => refuse
  | fuel + 1, value, count => do
    let c ← peekChar
    advanceSkipping
    if c = '\x7d' then
      require (0 < count)
      return value
    else
      match hexDigit? c with
      | some digit => bracedHex fuel (value * 16 + digit) (count + 1)
      | none => refuse

/-- The escape of a code by `x`, `u` or `U`, which is the next character. -/
def hexEscape (count : Nat) : Reading Ast := do
  advanceSkipping
  if (← peekChar) = '\x7b' then
    advanceSkipping
    let code ← bracedHex ((← get).rest.length + 1) 0 0
    return .char ⟨← charOfCode code, false⟩
  else
    let code ← hexDigits count 0
    return .char ⟨← charOfCode code, count == 2⟩

def splitAt? (word : List Char) : List Char → Option (List Char × List Char)
  | [] => none
  | c :: rest =>
    if word.isPrefixOf (c :: rest) then some ([], (c :: rest).drop word.length)
    else (splitAt? word rest).map fun (before, after) => (c :: before, after)

/-- The query of a braced name.  `!=` parts a property from its value as `=` does: the class is the
same one. -/
def queryOf (name : List Char) : PropertyQuery :=
  let valued := fun (parts : List Char × List Char) =>
    PropertyQuery.value (String.ofList parts.1) (String.ofList parts.2)
  match splitAt? ['!', '='] name, splitAt? [':'] name, splitAt? ['='] name with
  | some parts, _, _ => valued parts
  | none, some parts, _ => valued parts
  | none, none, some parts => valued parts
  | none, none, none => .name (String.ofList name)

def bracedName : (fuel : Nat) → (name : List Char) → Reading (List Char)
  | 0, _ => refuse
  | fuel + 1, name => do
    let c ← peekChar
    if c = '\x7d' then
      advance
      return name.reverse
    else
      advanceSkipping
      bracedName fuel (c :: name)

/-- A class of characters by name, after its `p` or `P`, which is the next character. -/
def namedClass (negated : Bool) : Reading Ast := do
  advanceSkipping
  let c ← peekChar
  if c = '\x7b' then
    advanceSkipping
    let name ← bracedName ((← get).rest.length + 1) []
    return .characters (.property (queryOf name) negated)
  else
    require (c != '\\')
    advanceSkipping
    return .characters (.property (.name (String.ofList [c])) negated)

def isBoundaryNameChar (c : Char) : Bool :=
  ('A' ≤ c && c ≤ 'Z') || ('a' ≤ c && c ≤ 'z') || c == '-'

def boundaryName : (fuel : Nat) → (name : List Char) → Reading (List Char)
  | 0, _ => refuse
  | fuel + 1, name => do
    match ← peek with
    | some c =>
      if isBoundaryNameChar c then
        advanceSkipping
        boundaryName fuel (c :: name)
      else return name.reverse
    | none => return name.reverse

/-- A word boundary, `\b` being read; a name in braces makes it one side of a boundary, and any
other brace is left to be read as a repetition. -/
def boundary : Reading Ast := do
  if (← peek) = some '\x7b' then
    let state ← get
    advanceSkipping
    if isBoundaryNameChar (← peekChar) then
      let name ← boundaryName ((← get).rest.length + 1) []
      require ((← peek) = some '\x7d')
      advance
      match String.ofList name with
      | "start" => return .assertion .wordStart
      | "end" => return .assertion .wordEnd
      | "start-half" => return .assertion .wordStartHalf
      | "end-half" => return .assertion .wordEndHalf
      | _ => refuse
    else
      set state
      return .assertion .wordBoundary
  else return .assertion .wordBoundary

def shorthand? : Char → Option (Shorthand × Bool)
  | 'd' => some (.digit, false)
  | 'D' => some (.digit, true)
  | 's' => some (.blank, false)
  | 'S' => some (.blank, true)
  | 'w' => some (.word, false)
  | 'W' => some (.word, true)
  | _ => none

def letterEscape? : Char → Option Ast
  | 'a' => some (.char ⟨'\x07', false⟩)
  | 'f' => some (.char ⟨'\x0c', false⟩)
  | 't' => some (.char ⟨'\t', false⟩)
  | 'n' => some (.char ⟨'\n', false⟩)
  | 'r' => some (.char ⟨'\r', false⟩)
  | 'v' => some (.char ⟨'\x0b', false⟩)
  | 'A' => some (.assertion .textStart)
  | 'z' => some (.assertion .textEnd)
  | 'B' => some (.assertion .notWordBoundary)
  | '<' => some (.assertion .wordStart)
  | '>' => some (.assertion .wordEnd)
  | _ => none

def escape : Reading Ast := do
  let c ← peekChar
  match c with
  | 'x' => hexEscape 2
  | 'u' => hexEscape 4
  | 'U' => hexEscape 8
  | 'p' => namedClass false
  | 'P' => namedClass true
  | _ =>
    advance
    match shorthand? c with
    | some (kind, negated) => return .characters (.shorthand kind negated)
    | none =>
      if isEscapable c then return .char ⟨c, false⟩
      else if c = 'b' then boundary
      else
        match letterEscape? c with
        | some ast => return ast
        | none => refuse

def single : Reading Ast := do
  let c ← peekChar
  advance
  match c with
  | '\\' => escape
  | '.' => return .dot
  | '^' => return .assertion .caret
  | '$' => return .assertion .dollar
  | c => return .char ⟨c, false⟩

/-! Classes in brackets. -/

def asciiClass? : String → Option (List (Nat × Nat))
  | "alnum" => some [(0x30, 0x39), (0x41, 0x5A), (0x61, 0x7A)]
  | "alpha" => some [(0x41, 0x5A), (0x61, 0x7A)]
  | "ascii" => some [(0, 0x7F)]
  | "blank" => some [(0x09, 0x09), (0x20, 0x20)]
  | "cntrl" => some [(0, 0x1F), (0x7F, 0x7F)]
  | "digit" => some [(0x30, 0x39)]
  | "graph" => some [(0x21, 0x7E)]
  | "lower" => some [(0x61, 0x7A)]
  | "print" => some [(0x20, 0x7E)]
  | "punct" => some [(0x21, 0x2F), (0x3A, 0x40), (0x5B, 0x60), (0x7B, 0x7E)]
  | "space" => some [(0x09, 0x0D), (0x20, 0x20)]
  | "upper" => some [(0x41, 0x5A)]
  | "word" => some [(0x30, 0x39), (0x41, 0x5A), (0x5F, 0x5F), (0x61, 0x7A)]
  | "xdigit" => some [(0x30, 0x39), (0x41, 0x46), (0x61, 0x66)]
  | _ => none

/-- An ASCII class such as `[:alpha:]`, if one comes next; its end is returned with it. -/
def asciiClassAt? : List Char → Option (ClassAst × List Char)
  | '[' :: ':' :: rest => do
    let (negated, rest) :=
      match rest with
      | '^' :: rest => (true, rest)
      | rest => (false, rest)
    let name := rest.takeWhile (· != ':')
    let intervals ← asciiClass? (String.ofList name)
    match rest.drop name.length with
    | ':' :: ']' :: rest => return (.ascii intervals negated, rest)
    | _ => none
  | _ => none

def leadingDashes : (fuel : Nat) → (items : List ClassAst) → Reading (List ClassAst)
  | 0, items => return items
  | fuel + 1, items => do
    if (← peekChar) = '-' then
      advanceSkipping
      leadingDashes fuel (.char ⟨'-', false⟩ :: items)
    else return items

/-- The beginning of a class, whose bracket is the next character: whether it is negated, and the
items that can stand only here, dashes or else a closing bracket. -/
def classOpening : Reading (Bool × List ClassAst) := do
  advanceSkipping
  let negated := (← peekChar) == '^'
  if negated then advanceSkipping
  let items ← leadingDashes ((← get).rest.length + 1) []
  if items.isEmpty && (← peekChar) == ']' then
    advanceSkipping
    let _ ← peekChar
    return (negated, [.char ⟨']', false⟩])
  else return (negated, items)

def classItem : Reading Ast := do
  let c ← peekChar
  advance
  if c = '\\' then escape else return .char ⟨c, false⟩

/-- A character, a range of characters, or a class by a short name. -/
def classRange : Reading ClassAst := do
  let first ← classItem
  skipIgnored
  let c ← peekChar
  let second ← peekSecond
  if c != '-' || second == some ']' || second == some '-' then
    match first with
    | .char c => return .char c
    | .characters body => return body
    | _ => refuse
  else
    advanceSkipping
    let _ ← peekChar
    match first, ← classItem with
    | .char first, .char last =>
      require (first.char ≤ last.char)
      return .range first last
    | _, _ => refuse

def unionOf : List ClassAst → ClassAst
  | [] => .empty
  | [item] => item
  | items => .union items

/-- The operand that ends here, joined with what stands before its operator. -/
def operand (pending : Option (SetOperation × ClassAst)) (items : List ClassAst) : ClassAst :=
  let union := unionOf items.reverse
  match pending with
  | some (op, left) => .operation op left union
  | none => union

/-- A class up to its closing bracket.  Operators bind equally, the left one first. -/
def classBody : (fuel : Nat) → (pending : Option (SetOperation × ClassAst)) →
    (items : List ClassAst) → Reading ClassAst
  | 0, _, _ => refuse
  | fuel + 1, pending, items => do
    skipIgnored
    let c ← peekChar
    match c with
    | '[' =>
      match asciiClassAt? (← get).rest with
      | some (item, rest) =>
        setRest rest
        classBody fuel pending (item :: items)
      | none =>
        let (negated, first) ← classOpening
        let body ← classBody fuel none first
        classBody fuel pending (.bracketed negated body :: items)
    | ']' =>
      advance
      return operand pending items
    | _ =>
      if ← accept ['&', '&'] then
        classBody fuel (some (.intersection, operand pending items)) []
      else if ← accept ['-', '-'] then
        classBody fuel (some (.difference, operand pending items)) []
      else if ← accept ['~', '~'] then
        classBody fuel (some (.symmetricDifference, operand pending items)) []
      else
        let item ← classRange
        classBody fuel pending (item :: items)

def bracketed : Reading Ast := do
  let (negated, first) ← classOpening
  let body ← classBody (2 * (← get).rest.length + 2) none first
  return .characters (.bracketed negated body)

/-! Repetitions. -/

/-- The last part read, which a repetition applies to. -/
def repeatable (items : List Ast) : Reading (Ast × List Ast) :=
  match items with
  | [] => refuse
  | .flags _ :: _ => refuse
  | item :: rest => return (item, rest)

def greedy : Reading Bool := do
  if (← peek) = some '?' then
    advance
    return false
  else return true

def skipBlanks : Reading Unit := do
  setRest ((← get).rest.dropWhile isBlank)

def decimalDigits : (fuel : Nat) → (value count : Nat) → Reading (Nat × Nat)
  | 0, value, count => return (value, count)
  | fuel + 1, value, count => do
    match (← peek).bind decimalDigit? with
    | some digit =>
      advanceSkipping
      decimalDigits fuel (value * 10 + digit) (count + 1)
    | none => return (value, count)

/-- A decimal number with blanks around it, if there is one; it fits into 32 bits. -/
def decimal? : Reading (Option Nat) := do
  skipBlanks
  let (value, count) ← decimalDigits ((← get).rest.length + 1) 0 0
  skipBlanks
  skipIgnored
  require (value < UInt32.size)
  return if count = 0 then none else some value

def decimal : Reading Nat := do
  match ← decimal? with
  | some value => return value
  | none => refuse

/-- The bounds of a counted repetition, its opening brace being the next character. -/
def bounds : Reading (Nat × Option Nat) := do
  advanceSkipping
  let _ ← peekChar
  let least ← decimal
  let (least, most) ←
    if (← peekChar) = ',' then do
      advanceSkipping
      if (← peekChar) = '\x7d' then pure (least, none)
      else do
        let most ← decimal
        require (least ≤ most)
        pure (least, some most)
    else pure (least, some least)
  require ((← peek) = some '\x7d')
  advanceSkipping
  return (least, most)

/-! Whole patterns. -/

def concatOf : List Ast → Ast
  | [] => .empty
  | [item] => item
  | items => .concat items

/-- All alternatives, the last of which ends here. -/
def alternatives (branches items : List Ast) : Ast :=
  match branches with
  | [] => concatOf items.reverse
  | _ => .alternation (concatOf items.reverse :: branches).reverse

/-- The rest of a group, or of the pattern outside of all groups.  The parts of the branch being
read and the branches before it come last one first. -/
def parts : (fuel : Nat) → (inGroup : Bool) → (branches items : List Ast) → Reading Ast
  | 0, _, _, _ => refuse
  | fuel + 1, inGroup, branches, items => do
    skipIgnored
    match ← peek with
    | none =>
      require (!inGroup)
      return alternatives branches items
    | some ')' =>
      require inGroup
      advance
      return alternatives branches items
    | some '|' =>
      advance
      parts fuel inGroup (concatOf items.reverse :: branches) []
    | some '(' =>
      advance
      match ← opening with
      | .flags changes =>
        modify fun state =>
          { state with ignoreBlanks := ignoresBlanks changes state.ignoreBlanks }
        parts fuel inGroup branches (.flags changes :: items)
      | .group changes =>
        let before := (← get).ignoreBlanks
        modify fun state => { state with ignoreBlanks := ignoresBlanks changes before }
        let body ← parts fuel true [] []
        modify fun state => { state with ignoreBlanks := before }
        parts fuel inGroup branches (.group changes body :: items)
    | some '[' =>
      let item ← bracketed
      parts fuel inGroup branches (item :: items)
    | some '?' =>
      let (body, rest) ← repeatable items
      advance
      let isGreedy ← greedy
      parts fuel inGroup branches (.repetition isGreedy 0 (some 1) body :: rest)
    | some '*' =>
      let (body, rest) ← repeatable items
      advance
      let isGreedy ← greedy
      parts fuel inGroup branches (.repetition isGreedy 0 none body :: rest)
    | some '+' =>
      let (body, rest) ← repeatable items
      advance
      let isGreedy ← greedy
      parts fuel inGroup branches (.repetition isGreedy 1 none body :: rest)
    | some '\x7b' =>
      let (body, rest) ← repeatable items
      let (least, most) ← bounds
      let isGreedy ← greedy
      parts fuel inGroup branches (.repetition isGreedy least most body :: rest)
    | some _ =>
      let item ← single
      parts fuel inGroup branches (item :: items)

end Reading

def Ast.parse? (text : String) : Option Ast := do
  let chars := text.toList
  let (ast, _) ← (Reading.parts (chars.length + 1) false [] []).run ⟨chars, false, []⟩
  if ast.depth ≤ Reading.maxDepth then some ast else none

end Concordance.Pattern
