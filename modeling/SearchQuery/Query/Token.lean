import SearchQuery.Query.Repair
import SearchQuery.Text.Space

/-!
# Tokens

A repaired query is cut into units: every white space character and every one of
`" + ( ) -` is a unit of its own, and the stretches between them are units as
wholes. A token is a unit with its kind. Cutting loses nothing, so the texts of
the tokens, joined, are the repaired query.
-/

namespace SearchQuery

/-- The kinds of token. -/
inductive Token.Kind where
  /-- Text without a meaning of its own. -/
  | word
  /-- One white space character. -/
  | space
  /-- A double quote. -/
  | quote
  /-- The sign that includes the next word. -/
  | plus
  /-- The sign that excludes the next word. -/
  | minus
  /-- An opening parenthesis. -/
  | parenOpen
  /-- A closing parenthesis. -/
  | parenClose
  /-- The keyword `and`, in any case. -/
  | and
  /-- The keyword `or`, in any case. -/
  | or
  /-- A colon that stands alone. -/
  | colon
  deriving DecidableEq, Repr

/-- A unit of a query with its kind. -/
structure Token where
  kind : Token.Kind
  text : String
  deriving DecidableEq, Repr

namespace Token

/-- All kinds, in the order in which they are listed to people. -/
def Kind.all : List Kind :=
  [.word, .space, .quote, .plus, .minus, .parenOpen, .parenClose, .and, .or, .colon]

/-- The name of a kind in tables and logs. -/
def Kind.label : Kind → String
  | .word => "string"
  | .space => "space"
  | .quote => "quote"
  | .plus => "plus"
  | .minus => "minus"
  | .parenOpen => "brace_open"
  | .parenClose => "brace_close"
  | .and => "and"
  | .or => "or"
  | .colon => "colon"

/-- The name of a kind in documents, where the keywords are marked as such. -/
def Kind.documentName : Kind → String
  | .and => "logical_and"
  | .or => "logical_or"
  | kind => kind.label

/-- Whether a character is always a unit of its own. -/
def isBoundary (c : Char) : Bool :=
  Text.isSpace c || c = '"' || c = '+' || c = '(' || c = ')' || c = '-'

/-- Puts an ordinary character in front of the units that follow it. -/
def joinRun (c : Char) : List (List Char) → List (List Char)
  | (d :: run) :: units =>
    if isBoundary d then [c] :: (d :: run) :: units else (c :: d :: run) :: units
  | units => [c] :: units

/-- Cuts a text into units. -/
def split : List Char → List (List Char)
  | [] => []
  | c :: rest => if isBoundary c then [c] :: split rest else joinRun c (split rest)

/-- The kind of a unit of one character, if the character has a meaning. -/
def Kind.ofChar? (c : Char) : Option Kind :=
  if Text.isSpace c then some .space
  else if c = '"' then some .quote
  else if c = '+' then some .plus
  else if c = '-' then some .minus
  else if c = '(' then some .parenOpen
  else if c = ')' then some .parenClose
  else if c = ':' then some .colon
  else none

/-- The kind of a unit of several characters: a keyword in any ASCII case, or text. -/
def Kind.ofRun (unit : List Char) : Kind :=
  let lower := unit.map Char.toLower
  if lower = ['a', 'n', 'd'] then .and
  else if lower = ['o', 'r'] then .or
  else .word

/-- The kind of a unit. -/
def Kind.ofUnit (unit : List Char) : Kind :=
  match unit with
  | [c] => (Kind.ofChar? c).getD .word
  | _ => Kind.ofRun unit

/-- The token of a unit. -/
def ofUnit (unit : List Char) : Token :=
  ⟨Kind.ofUnit unit, String.ofList unit⟩

end Token

/-- The units of a text. -/
def splitUnits (text : String) : List String :=
  (Token.split text.toList).map String.ofList

/-- The kind of a text that is taken as one unit. -/
def classify (unit : String) : Token.Kind :=
  Token.Kind.ofUnit unit.toList

/-- The tokens of a query, after its repair. -/
def tokenize (o : Options) (query : String) : List Token :=
  (Token.split (Repair.chars o query.toList)).map Token.ofUnit

end SearchQuery
