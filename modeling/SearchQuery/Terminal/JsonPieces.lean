import SearchQuery.Terminal.Piece
import SearchQuery.Text.Alphanumeric
import SearchQuery.Text.Space

/-!
# The pieces of JSON

A JSON document is cut into pieces while a stack of levels tells what is open. A mark
of structure, a quote, an escape and a constant are pieces of their own; what stands
between these is *loose* and forms a piece together with its loose neighbours: white
space, or the text of a string. The levels outlive the lines.

What cannot stand where it stands is marked as misplaced, one character at a time,
and the reading goes on behind it as well as it can. Only so many levels may be open
at once: a mark that would open one more is not understood, and what it was to
enclose is read as if the mark were not there.

Comments are no part of JSON, but they are known and shown as such.
-/

namespace SearchQuery.Terminal.JsonPieces

/-- What is open at a place of a document. -/
inductive Level where
  | array
  | object
  /-- A string that is the key of a member. -/
  | key
  /-- A string that is a value. -/
  | string
  /-- The place after a colon, where a value is awaited. -/
  | awaited
  /-- The value of a member. -/
  | member
  /-- The place after the value of a member, up to the comma or the end of the object. -/
  | settled
  /-- A comment over several lines. -/
  | remark
  /-- A comment up to the end of its line. -/
  | lineRemark
  deriving DecidableEq, Repr

/-- What stands at a place: how many characters, of which kind, whether they are loose, and the
levels behind them. -/
structure Token where
  kind : PieceKind
  length : Nat
  isLoose : Bool
  levels : List Level
  deriving DecidableEq, Repr

/-- Characters that are a piece of their own. -/
def Token.apart (kind : PieceKind) (length : Nat) (levels : List Level) : Token :=
  ⟨kind, length, false, levels⟩

/-- A loose character. -/
def Token.loose (kind : PieceKind) (levels : List Level) : Token :=
  ⟨kind, 1, true, levels⟩

/-- How many levels may be open at once. -/
def levelLimit : Nat := 98

/-- Whether one more level may be opened. -/
def hasRoom (levels : List Level) : Bool := levels.length < levelLimit

/-! ## Constants, numbers and comments -/

/-- Whether a character can be part of a word. -/
def isWord (c : Char) : Bool := c = '_' || Text.isAlphanumeric c

/-- The length of the constant at the front; `previous` is the character before it. -/
def constantLength (previous : Option Char) (text : List Char) : Nat :=
  let word := text.takeWhile isWord
  if !previous.any isWord && ["true", "false", "null"].contains (String.ofList word) then
    word.length
  else 0

/-- How many digits there are at the front. -/
def digitsLength (text : List Char) : Nat := (text.takeWhile Char.isDigit).length

/-- The length of the number at the front. -/
def numberLength (text : List Char) : Nat :=
  let sign := if text.head? = some '-' then 1 else 0
  let whole := match text.drop sign with
    | '0' :: _ => 1
    | rest => digitsLength rest
  let fraction := match text.drop (sign + whole) with
    | '.' :: rest => if digitsLength rest = 0 then 0 else digitsLength rest + 1
    | _ => 0
  let exponent := match text.drop (sign + whole + fraction) with
    | e :: rest =>
      let sign := if rest.head? = some '+' || rest.head? = some '-' then 1 else 0
      let digits := digitsLength (rest.drop sign)
      if (e = 'e' || e = 'E') && digits ≠ 0 then 1 + sign + digits else 0
    | [] => 0
  if whole = 0 then 0 else sign + whole + fraction + exponent

/-- Whether a comment starts with this text. -/
def startsComment (text : List Char) : Bool :=
  ['/', '/'].isPrefixOf text || ['/', '*'].isPrefixOf text

/-- The opening of the comment at the front. -/
def comment? (levels : List Level) (text : List Char) : Option Token :=
  if ['/', '/'].isPrefixOf text then some (.apart .comment 2 (.lineRemark :: levels))
  else if ['/', '*'].isPrefixOf text && hasRoom levels then
    let isEmpty := ['/', '*', '*', '/'].isPrefixOf text
    let isLong := ['/', '*', '*'].isPrefixOf text && !isEmpty
    some (.apart .comment (if isLong then 3 else 2) (.remark :: levels))
  else none

/-! ## Tokens -/

/-- The first sign of a value. -/
def value? (levels : List Level) (previous : Option Char) (c : Char) (rest : List Char) :
    Option Token :=
  let constant := constantLength previous (c :: rest)
  let number := numberLength (c :: rest)
  if constant ≠ 0 then some (.apart .constant constant levels)
  else if number ≠ 0 then some (.apart .constant number levels)
  else if !hasRoom levels then none
  else if c = '"' then some (.apart .jsonQuote 1 (.string :: levels))
  else if c = '[' then some (.apart .plain 1 (.array :: levels))
  else if c = '\x7b' then some (.apart .plain 1 (.object :: levels))
  else none

/-- Whether a character is a hexadecimal digit. -/
def isHexDigit (c : Char) : Bool :=
  c.isDigit || ('a' ≤ c && c ≤ 'f') || ('A' ≤ c && c ≤ 'F')

/-- What stands in a string, which is the first of the levels. -/
def textToken (levels : List Level) (c : Char) (rest : List Char) : Token :=
  if c = '"' then .apart .jsonQuote 1 levels.tail
  else if c = '\n' then .apart .misplaced 1 levels.tail
  else if c = '\\' then
    match rest with
    | [] => .loose .stringText levels
    | d :: digits =>
      if "\"\\/bfnrt".toList.contains d then .apart .emphasis 2 levels
      else if d = 'u' && (digits.take 4).length = 4 && (digits.take 4).all isHexDigit then
        .apart .emphasis 6 levels
      else if d = '\n' then .loose .stringText levels
      else .apart .misplaced 2 levels
  else .loose .stringText levels

/-- What stands in an object, which is the first of the levels, outside its members. -/
def objectToken (levels : List Level) (c : Char) : Token :=
  if c = '\x7d' then .apart .plain 1 levels.tail
  else if c = '"' && hasRoom levels then .apart .jsonQuote 1 (.key :: levels)
  else if c = ':' && hasRoom levels then .apart .plain 1 (.awaited :: levels)
  else if Text.isSpace c then .loose .plain levels
  else .apart .misplaced 1 levels

/-- What stands after the value of a member; `object` are the levels of the object. -/
def settledToken (object : List Level) (c : Char) (rest : List Char) : Token :=
  if c = ',' then .apart .plain 1 object
  else if c = '\x7d' then objectToken object c
  else if !Text.isSpace c then .apart .misplaced 1 object
  else if (rest.dropWhile Text.isSpace).head? = some '\x7d' then .loose .plain object
  else if startsComment rest || rest.head?.all (fun d => Text.isSpace d || d = ',') then
    .loose .plain (.settled :: object)
  else .apart .misplaced 1 object

/-- What stands where the value of a member is. -/
def memberToken (object : List Level) (previous : Option Char) (c : Char) (rest : List Char) :
    Token :=
  (value? (.member :: object) previous c rest).getD (settledToken object c rest)

/-- What stands after a colon. -/
def awaitedToken (object : List Level) (previous : Option Char) (c : Char) (rest : List Char) :
    Token :=
  if c = ',' then .apart .misplaced 1 object
  else if c = '\x7d' then objectToken object c
  else if !Text.isSpace c then memberToken object previous c rest
  else if rest.head? = some '\x7d' then .apart .misplaced 1 object
  else .loose .plain (.awaited :: object)

/-- What stands in an array, which is the first of the levels. -/
def arrayToken (levels : List Level) (previous : Option Char) (c : Char) (rest : List Char) :
    Token :=
  if c = ']' then .apart .plain 1 levels.tail
  else
    (value? levels previous c rest).getD
      (if c = ',' then .apart .plain 1 levels
      else if Text.isSpace c then .loose .plain levels
      else .apart .misplaced 1 levels)

/-- What stands outside strings and comments. -/
def structureToken (levels : List Level) (previous : Option Char) (c : Char) (rest : List Char) :
    Token :=
  match comment? levels (c :: rest), levels with
  | some t, _ => t
  | none, .array :: _ => arrayToken levels previous c rest
  | none, .object :: _ => objectToken levels c
  | none, .awaited :: object => awaitedToken object previous c rest
  | none, .member :: object => memberToken object previous c rest
  | none, .settled :: object => settledToken object c rest
  | none, _ => (value? levels previous c rest).getD (.loose .plain levels)

/-- What stands at a place; `previous` is the character before it on its line. -/
def token (levels : List Level) (previous : Option Char) (c : Char) (rest : List Char) : Token :=
  match levels with
  | .key :: _ => textToken levels c rest
  | .string :: _ => textToken levels c rest
  | .remark :: outer =>
    if c = '*' && rest.head? = some '/' then ⟨.comment, 2, true, outer⟩ else .loose .comment levels
  | .lineRemark :: outer => .loose .comment (if c = '\n' then outer else levels)
  | _ => structureToken levels previous c rest

/-! ## Lines -/

/-- Puts a token in front of the pieces after it, which are loose or not. -/
def attach (t : Token) (word : List Char) (pieces : List (Piece × Bool)) : List (Piece × Bool) :=
  match pieces with
  | (p, true) :: more =>
    if t.isLoose && p.kind = t.kind then (⟨t.kind, word ++ p.text⟩, true) :: more
    else (⟨t.kind, word⟩, t.isLoose) :: pieces
  | _ => (⟨t.kind, word⟩, t.isLoose) :: pieces

/-- The pieces of the rest of a line, loose or not, and the levels behind it. -/
def cut (levels : List Level) (previous : Option Char) :
    List Char → List (Piece × Bool) × List Level
  | [] => ([], levels)
  | c :: rest =>
    let t := token levels previous c rest
    let word := c :: rest.take (t.length - 1)
    let (pieces, after) := cut t.levels word.getLast? (rest.drop (t.length - 1))
    (attach t word pieces, after)
  termination_by line => line.length
  decreasing_by
    rw [List.length_drop, List.length_cons]
    omega

/-- The pieces of lines. -/
def ofLines (levels : List Level) : List (List Char) → List (List Piece)
  | [] => []
  | line :: lines =>
    let (pieces, after) := cut levels none line
    pieces.map Prod.fst :: ofLines after lines

end SearchQuery.Terminal.JsonPieces
