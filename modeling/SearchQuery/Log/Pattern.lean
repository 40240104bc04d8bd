import SearchQuery.Text.Alphanumeric
import SearchQuery.Text.Space

/-!
# Patterns

A filter may ask for values that match a pattern, a regular expression in the usual
notation. The program reports nothing that a pattern is ever compared with, so all
that matters is whether a text is a pattern at all. Reading a pattern therefore
tells only how deep it is nested, or nothing if there is no pattern.

Patterns are made to run over bytes in a single pass, and that leaves out some of
what others have: looking ahead or behind, repeating what a group matched, the
boundaries of Unicode words, and all that could match a part of a character. A
closing brace never occurs in the text, as it ends the demand that the pattern
stands in; so an opening one has no meaning but itself, in a set or after a
backslash.

Each step of the reading takes a character at least, so their number bounds it.
-/

namespace SearchQuery.Log.Pattern

/-- How a part of a pattern is read. -/
structure Mode where
  /-- Whether white space and comments are left out. -/
  isSpaced : Bool
  /-- Whether it matches characters; otherwise bytes, and then none beyond ASCII but those of
  characters that are written out. -/
  isUnicode : Bool
  deriving DecidableEq, Repr

/-- How far the reading has come. -/
structure Reader where
  rest : List Char
  mode : Mode
  /-- The names of groups so far. -/
  names : List (List Char)

/-- A reading of a part of a pattern. -/
abbrev Reading := StateT Reader Option

/-- What a single sign of a pattern matches. -/
inductive Sign where
  /-- A character; `isByte` if it is written as the two digits of a byte. -/
  | literal (c : Char) (isByte : Bool)
  /-- Any of several characters. -/
  | several
  /-- A place between characters. -/
  | place
  deriving DecidableEq, Repr

/-! ## White space and comments -/

/-- The text after white space and comments; a comment goes to the end of its line. -/
def afterLayout (isComment : Bool) : List Char → List Char
  | [] => []
  | c :: rest =>
    if isComment then afterLayout (c ≠ '\n') rest
    else if Text.isSpace c then afterLayout false rest
    else if c = '#' then afterLayout true rest
    else c :: rest

/-- The character that decides whether a dash before the text makes a range: the next one, or
with white space left out the first one that is not blank, be it in a comment. -/
def decisive? (mode : Mode) (text : List Char) : Option Char :=
  if !mode.isSpaced then text.head?
  else
    let shown := match text.dropWhile Text.isSpace with
      | '#' :: comment => comment.dropWhile Text.isSpace
      | rest => rest
    if shown.isEmpty then text.head? else shown.head?

namespace Reading

/-- There is no pattern. -/
def fail {α : Type} : Reading α := fun _ => none

/-- Goes on only if a condition holds. -/
def check (condition : Bool) : Reading Unit :=
  if condition then pure () else fail

/-- Skips white space and comments where they are left out. -/
def skipLayout : Reading Unit :=
  modify fun r => if r.mode.isSpaced then { r with rest := afterLayout false r.rest } else r

/-- The next character, which there must be. -/
def next : Reading Char := do
  match (← get).rest with
  | [] => fail
  | c :: _ => return c

/-- Skips some characters. -/
def skip (count : Nat) : Reading Unit :=
  modify fun r => { r with rest := r.rest.drop count }

/-- Skips a character and the white space and comments after it. -/
def advance : Reading Unit := do
  skip 1
  skipLayout

/-- Whether a word is next. -/
def sees (word : String) : Reading Bool := do
  return word.toList.isPrefixOf (← get).rest

/-! ## Signs -/

/-- The value of a hexadecimal digit. -/
def hexDigit? (c : Char) : Option Nat :=
  if c.isDigit then some (c.toNat - '0'.toNat)
  else if 'a' ≤ c && c ≤ 'f' then some (c.toNat - 'a'.toNat + 10)
  else if 'A' ≤ c && c ≤ 'F' then some (c.toNat - 'A'.toNat + 10)
  else none

/-- Reads a hexadecimal number of so many digits, after the number so far. -/
def hexNumber : Nat → Nat → Reading Nat
  | 0, number => return number
  | digits + 1, number => do
    match hexDigit? (← next) with
    | none => fail
    | some d =>
      advance
      hexNumber digits (number * 16 + d)

/-- Reads the character of a code. -/
def code (digits : Nat) : Reading Sign := do
  advance
  let number ← hexNumber digits 0
  check number.isValidChar
  return .literal (Char.ofNat number) (digits = 2)

/-- The letters of the categories of characters. -/
def categories : List Char := ['c', 'l', 'm', 'n', 'p', 's', 'z']

/-- Reads a category of characters, named by one letter. -/
def category : Reading Sign := do
  check (← get).mode.isUnicode
  advance
  check (categories.contains (← next).toLower)
  advance
  return .several

/-- Whether a sign after a backslash stands for itself. -/
def isEscapable (c : Char) : Bool :=
  c.toNat < 0x80 && !c.isAlphanum && c ≠ '<' && c ≠ '>'

/-- The control character of a letter after a backslash. -/
def control? (c : Char) : Option Char :=
  if c = 'a' then some '\x07'
  else if c = 'f' then some '\x0c'
  else if c = 't' then some '\t'
  else if c = 'n' then some '\n'
  else if c = 'r' then some '\r'
  else if c = 'v' then some '\x0b'
  else none

/-- The sign of a character after a backslash that has no more to it. -/
def simpleEscape? (mode : Mode) (c : Char) : Option Sign :=
  if isEscapable c then some (.literal c false)
  else if c = 'd' || c = 's' || c = 'w' then some .several
  else if c = 'D' || c = 'S' || c = 'W' then if mode.isUnicode then some .several else none
  else if c = 'A' || c = 'z' then some .place
  else if c = 'b' || c = 'B' || c = '<' || c = '>' then
    if mode.isUnicode then none else some .place
  else (control? c).map fun d => .literal d false

/-- Reads what a backslash stands before. -/
def escape : Reading Sign := do
  skip 1
  let c ← next
  if c = 'x' then code 2
  else if c = 'u' then code 4
  else if c = 'U' then code 8
  else if c = 'p' || c = 'P' then category
  else
    skip 1
    match simpleEscape? (← get).mode c with
    | none => fail
    | some sign => return sign

/-- Reads a sign outside sets. -/
def sign : Reading Unit := do
  let mode := (← get).mode
  match ← next with
  | '\\' =>
    match ← escape with
    | .literal c isByte => check (mode.isUnicode || !isByte || c.toNat < 0x80)
    | _ => pure ()
  | '.' =>
    check mode.isUnicode
    skip 1
  | '\x7b' => fail
  | _ => skip 1

/-! ## Sets of characters -/

/-- The names of the sets of ASCII. -/
def asciiNames : List String :=
  ["alnum", "alpha", "ascii", "blank", "cntrl", "digit", "graph", "lower", "print", "punct",
    "space", "upper", "word", "xdigit"]

/-- The set of ASCII whose name stands at the front, in brackets and colons: whether it is the
characters outside it, and what follows. -/
def asciiSet? (text : List Char) : Option (Bool × List Char) :=
  match text with
  | '[' :: ':' :: named =>
    let isNegated := named.head? = some '^'
    let named := if isNegated then named.drop 1 else named
    let name := named.takeWhile (· ≠ ':')
    match named.drop name.length with
    | ':' :: ']' :: rest =>
      if asciiNames.contains (String.ofList name) then some (isNegated, rest) else none
    | _ => none
  | _ => none

/-- Reads a sign in a set. -/
def member : Reading Sign := do
  let mode := (← get).mode
  let s ← match ← next with
    | '\\' => escape
    | c => do
      skip 1
      pure (.literal c false)
  match s with
  | .literal c _ => check (mode.isUnicode || c.toNat < 0x80)
  | .several => pure ()
  | .place => fail
  return s

/-- Reads a sign in a set, or a range of characters. -/
def range : Reading Unit := do
  let first ← member
  skipLayout
  let c ← next
  let after := decisive? (← get).mode ((← get).rest.drop 1)
  if c = '-' && after ≠ some ']' && after ≠ some '-' then
    advance
    match first, ← member with
    | .literal low _, .literal high _ => check (low ≤ high)
    | _, _ => fail

/-- How deep parts in a row are nested; one part alone is not a row. -/
def rowDepth : List Nat → Nat
  | [] => 0
  | [depth] => depth
  | depths => depths.foldl max 0 + 1

/-- How deep a set is nested that `parts` are left of, with the operands before them. -/
def operandDepth (before : Option Nat) (parts : List Nat) : Nat :=
  match before with
  | none => rowDepth parts
  | some depth => max depth (rowDepth parts) + 1

/-- Reads dashes at the start of a set, with a bound on their number, and counts them. -/
def dashes : Nat → Reading Nat
  | 0 => fail
  | fuel + 1 => do
    if (← next) = '-' then
      advance
      return (← dashes fuel) + 1
    else return 0

/-- Reads the opening of a set, with the signs that stand for themselves only there, and counts
these. -/
def openSet : Reading Nat := do
  advance
  if (← next) = '^' then
    check (← get).mode.isUnicode
    advance
  let count ← dashes ((← get).rest.length + 1)
  if count = 0 && (← next) = ']' then
    advance
    let _ ← next
    return 1
  return count

/-- Reads the rest of a set, after some parts and the operands before them. -/
def setWithin : Nat → Option Nat → List Nat → Reading Nat
  | 0, _, _ => fail
  | fuel + 1, before, parts => do
    skipLayout
    let c ← next
    match asciiSet? (← get).rest with
    | some (isNegated, rest) =>
      check ((← get).mode.isUnicode || !isNegated)
      modify fun r => { r with rest := rest }
      setWithin fuel before (parts ++ [0])
    | none =>
      if c = '[' then
        let count ← openSet
        let depth ← setWithin fuel none (List.replicate count 0)
        setWithin fuel before (parts ++ [depth])
      else if c = ']' then
        skip 1
        return operandDepth before parts + 1
      else if (← sees "&&") || (← sees "--") || (← sees "~~") then
        skip 2
        setWithin fuel (some (operandDepth before parts)) []
      else
        range
        setWithin fuel before (parts ++ [0])

/-- Reads a set. -/
def set : Reading Nat := do
  let count ← openSet
  setWithin ((← get).rest.length + 1) none (List.replicate count 0)

/-! ## Groups -/

/-- Whether a text is the name of a group. -/
def isName (name : List Char) : Bool :=
  match name with
  | [] => false
  | first :: rest =>
    (first = '_' || Text.isAlphabetic first) &&
      rest.all fun c => c = '_' || c = '.' || c = '[' || c = ']' || Text.isAlphanumeric c

/-- Reads the name of a group, which no group before has. -/
def name : Reading Unit := do
  let r ← get
  let name := r.rest.takeWhile (· ≠ '>')
  check (name.length < r.rest.length && isName name && !r.names.contains name)
  Reading.skip (name.length + 1)
  modify fun r => { r with names := name :: r.names }

/-- Whether a text is a list of options: letters, none of them twice, and among them a minus
before those that are turned off. -/
def areOptions (options : List Char) : Bool :=
  options.all ("imsUuRx-".toList.contains ·) && options.eraseDups.length = options.length &&
    options.getLast? ≠ some '-'

/-- The mode after options. -/
def Mode.set (mode : Mode) (options : List Char) : Mode :=
  let on := options.takeWhile (· ≠ '-')
  let off := options.dropWhile (· ≠ '-')
  let turned (option : Char) (before : Bool) : Bool :=
    on.contains option || (before && !off.contains option)
  ⟨turned 'x' mode.isSpaced, turned 'u' mode.isUnicode⟩

/-- Reads options, and with them the sign that ends them. -/
def options : Reading Char := do
  let r ← get
  let options := r.rest.takeWhile fun c => c ≠ ':' && c ≠ ')'
  check (areOptions options)
  Reading.skip options.length
  let last ← next
  check (last = ':' || !options.isEmpty)
  Reading.skip 1
  modify fun r => { r with mode := Mode.set r.mode options }
  return last

/-- Reads the opening of a group; or options for all that follows, and then there is no group. -/
def openGroup : Reading Bool := do
  advance
  if (← sees "?=") || (← sees "?!") || (← sees "?<=") || (← sees "?<!") then fail
  else if ← sees "?P<" then
    Reading.skip 3
    name
    return true
  else if ← sees "?<" then
    Reading.skip 2
    name
    return true
  else if ← sees "?" then
    Reading.skip 1
    return (← options) = ':'
  else return true

/-! ## Whole patterns -/

/-- The parts of a pattern in a row, each with its depth and whether it may be repeated. -/
abbrev Row := List (Nat × Bool)

/-- How deep alternatives are nested, the last of which is a row. -/
def alternativesDepth (alternatives : List Nat) (row : Row) : Nat :=
  rowDepth (alternatives ++ [rowDepth (row.map Prod.fst)])

/-- Repeats the last part of a row. -/
def repeatLast? (row : Row) : Option Row :=
  match row.getLast? with
  | some (depth, true) => some (row.dropLast ++ [(depth + 1, true)])
  | _ => none

/-- Reads a pattern up to the end of its group, after some alternatives and the first parts of
another one. -/
def alternativesWithin : Nat → List Nat → Row → Reading Nat
  | 0, _, _ => fail
  | fuel + 1, alternatives, row => do
    skipLayout
    match (← get).rest with
    | [] => return alternativesDepth alternatives row
    | c :: _ =>
      if c = ')' then return alternativesDepth alternatives row
      else if c = '|' then
        Reading.skip 1
        alternativesWithin fuel (alternatives ++ [rowDepth (row.map Prod.fst)]) []
      else if c = '(' then
        let outer := (← get).mode
        if ← openGroup then
          let depth ← alternativesWithin fuel [] []
          let _ ← next
          modify fun r => { r with mode := outer }
          Reading.skip 1
          alternativesWithin fuel alternatives (row ++ [(depth + 1, true)])
        else alternativesWithin fuel alternatives (row ++ [(0, false)])
      else if c = '[' then
        let depth ← set
        alternativesWithin fuel alternatives (row ++ [(depth, true)])
      else if c = '*' || c = '+' || c = '?' then
        match repeatLast? row with
        | none => fail
        | some row =>
          Reading.skip 1
          if ← sees "?" then Reading.skip 1
          alternativesWithin fuel alternatives row
      else
        sign
        alternativesWithin fuel alternatives (row ++ [(0, true)])

end Reading

/-- How deep a pattern is nested; none if the text is no pattern. -/
def depth? (text : List Char) : Option Nat :=
  match (Reading.alternativesWithin (text.length + 1) [] []).run ⟨text, ⟨false, true⟩, []⟩ with
  | some (depth, r) => if r.rest.isEmpty then some depth else none
  | none => none

/-- How deep a pattern may be nested. -/
def depthLimit : Nat := 250

/-- Whether a text is a pattern. -/
def isPattern (text : List Char) : Bool :=
  (depth? text).any (· ≤ depthLimit)

end SearchQuery.Log.Pattern
