import SearchQuery.Toml.Scalar

/-!
# Strings in TOML

A string stands in double or in single quotes, on one line or, between triple
quotes, on several. Only double quotes know escapes. Triple quotes end at the first
three quotes in a row, and up to two more just before the end belong to the text; a
line break right after the opening is left out, and so is all white space after a
backslash at the end of a line.

The body of a string is read one character at a time, by a small machine.
-/

namespace SearchQuery.Toml

/-- The four forms of a string. -/
structure StringForm where
  /-- The quote around it. -/
  quote : Char
  /-- Whether it has escapes. -/
  escapes : Bool
  /-- Whether it stands between triple quotes. -/
  multiline : Bool
  deriving DecidableEq, Repr

namespace StringForm

/-- Where the reading of a string stands. -/
inductive State where
  | text
  /-- After a backslash. -/
  | backslash
  /-- In the code of an escape, with the digits that are missing and the number so far. -/
  | code (missing number : Nat)
  /-- After a backslash and white space, before the line break. -/
  | lineEnd
  /-- In the white space that a backslash at the end of a line leaves out. -/
  | blank
  /-- After some quotes in a row. -/
  | quotes (count : Nat)
  deriving DecidableEq, Repr

/-- What one character does. -/
inductive Step where
  /-- The text goes on, after some characters of content. -/
  | go (content : List Char) (next : State)
  /-- The string ends before this character, or with it. -/
  | stop (content : List Char) (withThis : Bool)
  | fail
  deriving DecidableEq, Repr

/-- Whether a character may stand in a string as itself. -/
def isPlain (c : Char) : Bool :=
  c = '\t' || (0x20 ≤ c.toNat && c.toNat ≠ 0x7F)

/-- Whether a line break starts with this character. -/
def startsBreak (c : Char) (following : List Char) : Bool :=
  c = '\n' || (c = '\r' && following.head? = some '\n')

/-- A character of the text; `following` is what stands after it. -/
def textStep (f : StringForm) (c : Char) (following : List Char) : Step :=
  if c = f.quote then (if f.multiline then .go [] (.quotes 1) else .stop [] true)
  else if f.escapes && c = '\\' then .go [] .backslash
  else if f.multiline && startsBreak c following then .go [c] .text
  else if isPlain c then .go [c] .text
  else .fail

/-- The character of an escape of one letter. -/
def letter? (c : Char) : Option Char :=
  if c = 'b' then some '\x08'
  else if c = 't' then some '\t'
  else if c = 'n' then some '\n'
  else if c = 'f' then some '\x0c'
  else if c = 'r' then some '\r'
  else if c = 'e' then some '\x1b'
  else if c = '"' then some '"'
  else if c = '\\' then some '\\'
  else none

/-- The digits of an escape with a code. -/
def codeLength? (c : Char) : Option Nat :=
  if c = 'x' then some 2
  else if c = 'u' then some 4
  else if c = 'U' then some 8
  else none

/-- The character of a code point, if it is one. -/
def ofCodePoint? (n : Nat) : Option Char :=
  if n.isValidChar then some (Char.ofNat n) else none

/-- The character after a backslash. -/
def backslashStep (f : StringForm) (c : Char) (following : List Char) : Step :=
  match letter? c, codeLength? c with
  | some d, _ => .go [d] .text
  | none, some digits => .go [] (.code digits 0)
  | none, none =>
    if f.multiline && startsBreak c following then .go [] .blank
    else if f.multiline && (c = ' ' || c = '\t') then .go [] .lineEnd
    else .fail

/-- A digit of a code. -/
def codeStep (missing number : Nat) (c : Char) : Step :=
  match Scalar.digit? 16 c with
  | none => .fail
  | some d =>
    let number := number * 16 + d
    if missing ≤ 1 then
      match ofCodePoint? number with
      | none => .fail
      | some ch => .go [ch] .text
    else .go [] (.code (missing - 1) number)

/-- A character after `count` quotes of a string between triple quotes. -/
def quotesStep (f : StringForm) (count : Nat) (c : Char) (following : List Char) : Step :=
  if c = f.quote then
    if 5 ≤ count then .stop (List.replicate (count - 3) f.quote) false
    else .go [] (.quotes (count + 1))
  else if 3 ≤ count then .stop (List.replicate (count - 3) f.quote) false
  else
    match f.textStep c following with
    | .go content next => .go (List.replicate count f.quote ++ content) next
    | other => other

/-- One character in any state. -/
def step (f : StringForm) (state : State) (c : Char) (following : List Char) : Step :=
  match state with
  | .text => f.textStep c following
  | .backslash => f.backslashStep c following
  | .code missing number => codeStep missing number c
  | .lineEnd =>
    if startsBreak c following then .go [] .blank
    else if c = ' ' || c = '\t' then .go [] .lineEnd
    else .fail
  | .blank =>
    if startsBreak c following || c = ' ' || c = '\t' then .go [] .blank
    else f.textStep c following
  | .quotes count => f.quotesStep count c following

/-- The content of the rest of a string, and what stands after the string. -/
def body? (f : StringForm) : State → List Char → Option (List Char × List Char)
  | .quotes count, [] =>
    if 3 ≤ count then some (List.replicate (count - 3) f.quote, []) else none
  | _, [] => none
  | state, c :: rest =>
    match f.step state c rest with
    | .fail => none
    | .stop content withThis => some (content, if withThis then rest else c :: rest)
    | .go content next => (f.body? next rest).map fun r => (content ++ r.1, r.2)

end StringForm

/-- The content of the string that stands at the front, with what stands after it. -/
def string? (text : List Char) : Option (List Char × List Char) :=
  let skipBreak : List Char → List Char
    | '\n' :: rest => rest
    | '\r' :: '\n' :: rest => rest
    | rest => rest
  match text with
  | '"' :: '"' :: '"' :: rest => StringForm.body? ⟨'"', true, true⟩ .text (skipBreak rest)
  | '"' :: rest => StringForm.body? ⟨'"', true, false⟩ .text rest
  | '\x27' :: '\x27' :: '\x27' :: rest =>
    StringForm.body? ⟨'\x27', false, true⟩ .text (skipBreak rest)
  | '\x27' :: rest => StringForm.body? ⟨'\x27', false, false⟩ .text rest
  | _ => none

end SearchQuery.Toml
