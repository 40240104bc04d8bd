import SearchQuery.Settings.Basic
import SearchQuery.Text.Quoted
import SearchQuery.Toml.Document

/-!
# Layers from documents

A configuration file must have the shape of a layer: no other keys than those that
mean something, and a value of the right type under each. What is wrong is reported
with its place, one thing at a time. Entries are looked at in the order of their
names, a section when its name is reached.

A section is a table, or an array with the values of its settings in their order.
The format is its name, or a table with that name as only key and nothing below it.
-/

namespace SearchQuery

/-- What is wrong with the shape of a document. -/
inductive ShapeProblem where
  | unknownField (name : String) (expected : List String)
  | unknownVariant (name : String) (expected : List String)
  /-- A value of another type than the one that is expected. -/
  | invalidType (found expected : String)
  /-- A number that cannot be held. -/
  | overflow (number : String)
  | notStringOrTable
  | noElement
  | severalElements
  | notTable (found : String)
  | nonEmptyTable
  | nonEmptyArray
  deriving DecidableEq, Repr

namespace ShapeProblem

/-- A name between backticks. -/
def ticked (name : String) : String := "`" ++ name ++ "`"

/-- What is expected: the only choice, one of two, or one of a list. -/
def choices (expected : List String) : String :=
  match expected with
  | [a] => "expected " ++ ticked a
  | [a, b] => "expected " ++ ticked a ++ " or " ++ ticked b
  | _ => "expected one of " ++ ", ".intercalate (expected.map ticked)

/-- The words of a problem. -/
def message : ShapeProblem → String
  | unknownField name expected => "unknown field " ++ ticked name ++ ", " ++ choices expected
  | unknownVariant name expected => "unknown variant " ++ ticked name ++ ", " ++ choices expected
  | invalidType found expected => "invalid type: " ++ found ++ ", expected " ++ expected
  | overflow number => number ++ " number overflowed"
  | notStringOrTable => "wanted string or table"
  | noElement => "wanted exactly 1 element, found 0 elements"
  | severalElements => "wanted exactly 1 element, more than 1 element"
  | notTable found => "expected table, found " ++ found
  | nonEmptyTable => "expected empty table"
  | nonEmptyArray => "expected empty array"

end ShapeProblem

/-- A problem with the shape of a document and its place. -/
structure ShapeError where
  span : Toml.Span
  problem : ShapeProblem
  deriving DecidableEq, Repr

namespace Layer

open Toml (Span Value Entries)

/-- An integer as an error speaks of it, if it has at most 128 bits; one of more than 64 bits is
called by its type as well. -/
def describeInteger? (n : Int) : Option String :=
  let words := "integer " ++ ShapeProblem.ticked (toString n)
  let bound (bits : Nat) : Int := Binary64.twoTo bits
  if -bound 63 ≤ n && n < bound 64 then some words
  else if -bound 127 ≤ n && n < bound 127 then some (words ++ " as i128")
  else if 0 ≤ n && n < bound 128 then some (words ++ " as u128")
  else none

/-- What is wrong with a value where something else is expected. -/
def mismatch (expected : String) : Value → ShapeProblem
  | .boolean b => .invalidType ("boolean " ++ ShapeProblem.ticked (Settings.boolText b)) expected
  | .integer n =>
    match n.bind describeInteger? with
    | some words => .invalidType words expected
    | none => .overflow "integer"
  | .float (some x) => .invalidType ("floating point " ++ ShapeProblem.ticked x.text) expected
  | .float none => .overflow "floating-point"
  | .string s => .invalidType ("string " ++ Text.quoted s) expected
  | .datetime _ => .invalidType "map" expected
  | .array _ _ => .invalidType "sequence" expected
  | .table _ _ => .invalidType "map" expected

/-- A truth value. -/
def decodeBool (span : Span) : Value → Except ShapeError Bool
  | .boolean b => .ok b
  | v => .error ⟨span, mismatch "a boolean" v⟩

/-- The names of the formats. -/
def formatNames : List String := ["tree", "json"]

/-- The format of a name that stands somewhere. -/
def decodeFormatName (span : Span) (name : String) : Except ShapeError OutputFormat :=
  match OutputFormat.ofName? name with
  | some f => .ok f
  | none => .error ⟨span, .unknownVariant name formatNames⟩

/-- Checks that there is nothing in what stands below the name of a format. -/
def checkNothing (span : Span) : Value → Except ShapeError Unit
  | .table _ [] => .ok ()
  | .table _ _ => .error ⟨span, .nonEmptyTable⟩
  | .array _ [] => .ok ()
  | .array _ _ => .error ⟨span, .nonEmptyArray⟩
  | v => .error ⟨span, .notTable v.typeName⟩

/-- A format. -/
def decodeFormat (span : Span) : Value → Except ShapeError OutputFormat
  | .string name => decodeFormatName span name
  | .table _ [] => .error ⟨span, .noElement⟩
  | .table _ [(key, place, v)] => do
    let f ← decodeFormatName key.span key.name
    checkNothing place v
    return f
  | .table _ _ => .error ⟨span, .severalElements⟩
  | _ => .error ⟨span, .notStringOrTable⟩

/-- The name under which a date stands when it is looked at as a table. -/
def datetimeField : String := "$__toml_private_datetime"

/-- The fields of the section on queries. -/
def queryFields : List String := ["balance_single_quotes"]

/-- One entry of the section on queries. -/
def decodeQueryEntry (l : QueryLayer) (e : Toml.Key × Span × Value) :
    Except ShapeError QueryLayer :=
  if e.1.name = "balance_single_quotes" then
    (decodeBool e.2.1 e.2.2).map fun b => { l with balanceSingleQuotes := some b }
  else .error ⟨e.1.span, .unknownField e.1.name queryFields⟩

/-- The section on queries. -/
def decodeQuery (span : Span) : Value → Except ShapeError QueryLayer
  | .table _ entries => (Entries.byName entries).foldlM decodeQueryEntry ⟨none⟩
  | .array _ [] => .ok ⟨none⟩
  | .array _ ((place, v) :: _) => (decodeBool place v).map fun b => ⟨some b⟩
  | .datetime _ => .error ⟨span, .unknownField datetimeField queryFields⟩
  | v => .error ⟨span, mismatch "struct RawQuerySettings" v⟩

/-- The fields of the section on output. -/
def outputFields : List String := ["format", "color"]

/-- One entry of the section on output. -/
def decodeOutputEntry (l : OutputLayer) (e : Toml.Key × Span × Value) :
    Except ShapeError OutputLayer :=
  if e.1.name = "format" then
    (decodeFormat e.2.1 e.2.2).map fun f => { l with format := some f }
  else if e.1.name = "color" then
    (decodeBool e.2.1 e.2.2).map fun b => { l with color := some b }
  else .error ⟨e.1.span, .unknownField e.1.name outputFields⟩

/-- The section on output. -/
def decodeOutput (span : Span) : Value → Except ShapeError OutputLayer
  | .table _ entries => (Entries.byName entries).foldlM decodeOutputEntry ⟨none, none⟩
  | .array _ [] => .ok ⟨none, none⟩
  | .array _ [(place, v)] => (decodeFormat place v).map fun f => ⟨some f, none⟩
  | .array _ ((place, v) :: (place', v') :: _) => do
    let f ← decodeFormat place v
    let b ← decodeBool place' v'
    return ⟨some f, some b⟩
  | .datetime _ => .error ⟨span, .unknownField datetimeField outputFields⟩
  | v => .error ⟨span, mismatch "struct RawOutputSettings" v⟩

/-- The fields of a document. -/
def fields : List String := ["root", "query", "output"]

/-- One entry of a document. -/
def decodeEntry (l : Layer) (e : Toml.Key × Span × Value) : Except ShapeError Layer :=
  if e.1.name = "root" then
    (decodeBool e.2.1 e.2.2).map fun b => { l with root := some b }
  else if e.1.name = "query" then
    (decodeQuery e.2.1 e.2.2).map fun q => { l with query := some q }
  else if e.1.name = "output" then
    (decodeOutput e.2.1 e.2.2).map fun o => { l with output := some o }
  else .error ⟨e.1.span, .unknownField e.1.name fields⟩

/-- The layer that a document describes. -/
def decode (entries : Entries) : Except ShapeError Layer :=
  entries.byName.foldlM decodeEntry .empty

end Layer

/-- What keeps a text from being a layer. -/
inductive LayerError where
  /-- It is not a document. -/
  | grammar (e : Toml.SyntaxError)
  /-- It is a document of another shape. -/
  | shape (e : ShapeError)
  /-- It is a document of another shape, and some number in it cannot be held. -/
  | range (e : ShapeError)
  deriving DecidableEq, Repr

/-- An error as it is shown, with the place in the text. -/
def LayerError.excerpt (source : String) : LayerError → String
  | grammar e => Toml.excerpt source.toList e.span e.problem.message
  | shape e => Toml.excerpt source.toList e.span e.problem.message
  | range e => Toml.excerpt source.toList e.span e.problem.message

/-- The layer that a text describes. Numbers that cannot be held matter only where they are looked
at. -/
def Layer.read (text : String) : Except LayerError Layer :=
  match Toml.read text.toList with
  | .error e => .error (.grammar e)
  | .ok entries =>
    match Layer.decode entries with
    | .error e => .error (if Toml.entriesFit entries then .shape e else .range e)
    | .ok l => .ok l

end SearchQuery
