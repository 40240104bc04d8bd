import SearchQuery.Toml.Quoting
import SearchQuery.Toml.Table

/-!
# Reading TOML documents

A document is read line by line: settings, headers of tables and comments. Values
may go over several lines where brackets or braces are open, and comments may stand
at the ends of these lines too. The reading stops at
the first thing that is not TOML and says what and where it is.

Lines and nested values are counted down on the number of characters that are left,
since each takes at least one; `read` supplies the number.
-/

namespace SearchQuery.Toml

/-- What keeps a text from being a TOML document. -/
inductive Problem where
  | missingKey
  | missingEquals
  | missingValue
  | unclosedHeader
  | unclosedArray
  | unclosedInlineTable
  | invalidString
  | invalidValue
  | invalidComment
  | trailingText
  | alreadyDefined
  | tooDeep
  deriving DecidableEq, Repr

/-- The words of a problem. -/
def Problem.message : Problem → String
  | missingKey => "missing key"
  | missingEquals => "key with no value, expected `=`"
  | missingValue => "missing value"
  | unclosedHeader => "unclosed table, expected `]`"
  | unclosedArray => "unclosed array, expected `]`"
  | unclosedInlineTable => "unclosed inline table, expected `\x7d`"
  | invalidString => "invalid string"
  | invalidValue => "invalid value"
  | invalidComment => "invalid character in comment"
  | trailingText => "unexpected text, expected a line break"
  | alreadyDefined => "duplicate key"
  | tooDeep => "nested too deeply"

/-- A problem and the position where it was found. -/
structure SyntaxError where
  position : Nat
  problem : Problem
  deriving DecidableEq, Repr

/-- The place of a problem: one character. -/
def SyntaxError.span (e : SyntaxError) : Span := ⟨e.position, e.position + 1⟩

/-- How far the reading has come: characters read, and those that follow. -/
structure Cursor where
  position : Nat
  rest : List Char

/-- A reading of a part of a document. -/
abbrev Reading := StateT Cursor (Except SyntaxError)

namespace Reading

/-- Reports a problem where the reading stands. -/
def fail {α : Type} (p : Problem) : Reading α := do
  throw ⟨(← get).position, p⟩

/-- The next character. -/
def peek? : Reading (Option Char) := do
  return (← get).rest.head?

/-- Goes on by some characters. -/
def skip (count : Nat) : Reading Unit :=
  modify fun c => ⟨c.position + count, c.rest.drop count⟩

/-- Reads the characters that satisfy a test. -/
def takeWhile (test : Char → Bool) : Reading (List Char) := do
  let run := (← get).rest.takeWhile test
  skip run.length
  return run

/-- Skips spaces and tabs. -/
def skipBlanks : Reading Unit := do
  let _ ← takeWhile fun c => c = ' ' || c = '\t'

/-- Skips the character if it is the expected one. -/
def expect (c : Char) (otherwise : Problem) : Reading Unit := do
  if (← peek?) = some c then skip 1 else fail otherwise

/-- Reads a line break, if one is next. -/
def lineBreak? : Reading Bool := do
  match (← get).rest with
  | '\n' :: _ => skip 1; return true
  | '\r' :: '\n' :: _ => skip 2; return true
  | _ => return false

/-- Skips a comment, if one is next. -/
def skipComment : Reading Unit := do
  if (← peek?) = some '#' then
    let line := (← get).rest.takeWhile (· ≠ '\n')
    let endsFile := (← get).rest.length = line.length
    let comment := if !endsFile && line.getLast? = some '\r' then line.dropLast else line
    if comment.all StringForm.isPlain then skip comment.length else fail .invalidComment

/-- Reads the end of a line, after blanks and a comment. -/
def endLine : Reading Unit := do
  skipBlanks
  skipComment
  unless ← lineBreak? do
    unless (← get).rest.isEmpty do
      fail .trailingText

/-- Skips blanks, comments and line breaks, with a bound on their number. -/
def skipLayoutWithin : Nat → Reading Unit
  | 0 => pure ()
  | fuel + 1 => do
    skipBlanks
    skipComment
    if ← lineBreak? then skipLayoutWithin fuel

/-- Skips blanks, comments and line breaks. -/
def skipLayout : Reading Unit := do
  skipLayoutWithin (← get).rest.length

/-! ## Keys -/

/-- Whether a character may stand in a key without quotes. -/
def isBare (c : Char) : Bool :=
  let n := c.toNat
  (0x30 ≤ n && n ≤ 0x39) || (0x41 ≤ n && n ≤ 0x5A) || (0x61 ≤ n && n ≤ 0x7A) ||
    c = '_' || c = '-'

/-- Reads a string in one of the forms, after its opening quotes. -/
def stringBody (content? : Option (List Char × List Char)) : Reading String := do
  match content? with
  | none => fail .invalidString
  | some (content, rest) =>
    modify fun c => ⟨c.position + (c.rest.length - rest.length), rest⟩
    return String.ofList content

/-- Reads one key of a path. -/
def simpleKey : Reading Key := do
  let start := (← get).position
  let name ← match (← get).rest with
    | '"' :: rest => stringBody (StringForm.body? ⟨'"', true, false⟩ .text rest)
    | '\x27' :: rest => stringBody (StringForm.body? ⟨'\x27', false, false⟩ .text rest)
    | _ => do
      let run ← takeWhile isBare
      if run.isEmpty then fail .missingKey
      pure (String.ofList run)
  return ⟨name, ⟨start, (← get).position⟩⟩

/-- How deep arrays and tables in braces may be nested, and how many keys a path may have. -/
def depthLimit : Nat := 80

/-- Reads a path of keys and the blanks after it, with a bound on its length. -/
def keyPathWithin : Nat → Reading (List Key × Key)
  | 0 => fail .missingKey
  | fuel + 1 => do
    let key ← simpleKey
    skipBlanks
    if (← peek?) = some '.' then
      skip 1
      skipBlanks
      let (path, last) ← keyPathWithin fuel
      return (key :: path, last)
    else return ([], key)

/-- Reads a path of keys and the blanks after it: the keys before the last one, and that. -/
def keyPath : Reading (List Key × Key) := do
  let (path, last) ← keyPathWithin ((← get).rest.length + 1)
  if depthLimit ≤ path.length then fail .tooDeep
  return (path, last)

/-! ## Values -/

/-- Whether a character may stand in a value without quotes, brackets or braces. -/
def isRun (c : Char) : Bool :=
  !(c = ' ' || c = '\t' || c = '\n' || c = '\r' || c = '#' || c = ',' || c = '=' || c = '"' ||
    c = '\x27' || c = '[' || c = ']' || c = '\x7b' || c = '\x7d')

/-- Reads a value that is one word; a date and a time may have a space between them. -/
def scalar : Reading Value := do
  let word := (← get).rest.takeWhile isRun
  let time := match (← get).rest.drop word.length with
    | ' ' :: d :: rest =>
      if Scalar.isDate word && Scalar.isDigit d then ' ' :: (d :: rest).takeWhile isRun else []
    | _ => []
  let run := word ++ time
  if run.isEmpty then fail .missingValue
  match Scalar.ofRun? run with
  | some v => skip run.length; return v
  | none => fail .invalidValue

mutual

/-- Reads a value inside `depth` others. -/
def valueWithin : Nat → Nat → Reading (Span × Value)
  | 0, _ => fail .tooDeep
  | fuel + 1, depth => do
    let start := (← get).position
    let value ← match ← peek? with
      | none => fail .missingValue
      | some c =>
        if c = '"' || c = '\x27' then do
          pure (Value.string (← stringBody (string? (← get).rest)))
        else if c = '[' then do
          if depthLimit ≤ depth then fail .tooDeep
          skip 1
          pure (Value.array false (← arrayWithin fuel (depth + 1)))
        else if c = '\x7b' then do
          if depthLimit ≤ depth then fail .tooDeep
          skip 1
          pure (Value.table .inline (← inlineTableWithin fuel (depth + 1) []))
        else scalar
    return (⟨start, (← get).position⟩, value)

/-- Reads the rest of an array. -/
def arrayWithin : Nat → Nat → Reading (List (Span × Value))
  | 0, _ => fail .tooDeep
  | fuel + 1, depth => do
    skipLayout
    if (← peek?) = some ']' then
      skip 1
      return []
    else if (← peek?).isNone then fail .unclosedArray
    else
      let item ← valueWithin fuel depth
      skipLayout
      if (← peek?) = some ',' then
        skip 1
        return item :: (← arrayWithin fuel depth)
      else
        expect ']' .unclosedArray
        return [item]

/-- Reads the rest of a table in braces, after some entries. -/
def inlineTableWithin : Nat → Nat → Entries → Reading Entries
  | 0, _, _ => fail .tooDeep
  | fuel + 1, depth, entries => do
    skipLayout
    if (← peek?) = some '\x7d' then
      skip 1
      return entries
    else if (← peek?).isNone then fail .unclosedInlineTable
    else
      let (path, key) ← keyPath
      skipLayout
      expect '=' .missingEquals
      skipLayout
      let (span, value) ← valueWithin fuel depth
      match entries.addSetting path key span value .inline with
      | none => fail .alreadyDefined
      | some entries =>
        skipLayout
        if (← peek?) = some ',' then
          skip 1
          inlineTableWithin fuel depth entries
        else
          expect '\x7d' .unclosedInlineTable
          return entries

end

/-- Reads a value. -/
def value : Reading (Span × Value) := do
  valueWithin (2 * (← get).rest.length + 2) 0

/-! ## Lines -/

/-- The part of a document that has been read. -/
structure Draft where
  /-- All its entries. -/
  entries : Entries
  /-- The path of the last header. -/
  header : List Key

/-- Reads a setting and adds it to the table of the last header. -/
def setting (d : Draft) : Reading Draft := do
  let (path, key) ← keyPath
  expect '=' .missingEquals
  skipBlanks
  let (span, v) ← value
  match d.entries.descend false (Entries.addSetting path key span v) d.header .header with
  | none => fail .alreadyDefined
  | some entries => return { d with entries := entries }

/-- Reads a header and gives it its table. -/
def header (d : Draft) : Reading Draft := do
  let start := (← get).position
  skip 1
  let isArray := (← peek?) = some '['
  if isArray then skip 1
  skipBlanks
  let (path, key) ← keyPath
  expect ']' .unclosedHeader
  if isArray then expect ']' .unclosedHeader
  let span : Span := ⟨start, (← get).position⟩
  let entries? :=
    if isArray then d.entries.addArrayHeader path key span else d.entries.addHeader path key span
  match entries? with
  | none => fail .alreadyDefined
  | some entries => return ⟨entries, path ++ [key]⟩

/-- Reads lines, with a bound on their number. -/
def linesWithin : Nat → Draft → Reading Draft
  | 0, d => return d
  | fuel + 1, d => do
    skipBlanks
    match ← peek? with
    | none => return d
    | some c =>
      let d ←
        if c = '#' || c = '\n' || c = '\r' then pure d
        else if c = '[' then header d
        else setting d
      endLine
      linesWithin fuel d

/-- Reads all lines. -/
def document : Reading Entries := do
  if (← peek?) = some '\ufeff' then skip 1
  return (← linesWithin ((← get).rest.length + 1) ⟨[], []⟩).entries

end Reading

/-- The entries of the document that a text writes, or what is wrong with the text. -/
def read (source : List Char) : Except SyntaxError Entries :=
  Reading.document.run' ⟨0, source⟩

end SearchQuery.Toml
