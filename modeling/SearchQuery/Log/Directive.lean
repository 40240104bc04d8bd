import SearchQuery.Log.Event
import SearchQuery.Log.Pattern
import SearchQuery.Text.Alphanumeric
import SearchQuery.Text.Bytes

/-!
# Rules on log lines

A directive sets the least important level that is shown, for all events or for some
of them: those from the parts of the program whose name starts with a text, those
with a value of some name, or those with both. It is written as a level, or as the
start of a name, then a value's name in brackets and braces, then an equals sign and
a level, where each of these may be missing:

    debug
    sift_query=trace
    sift_query::lexer[{opener}]=trace

A name in brackets without braces is that of a stretch of work, and a value's name
may have an equals sign and a pattern behind it. The program reports no stretches of
work, and values are compared with patterns only there, so a directive with one of
these speaks of nothing.

Blanks around a directive do not count for its form. They count for what its parts
are, however: a part is what stands at the same positions, counted in bytes, in the
text with its blanks. So a level with a blank before it is the start of a name.
-/

namespace SearchQuery.Log

/-- A rule on some events. -/
structure Directive where
  /-- How the name of the part of the program must start; none for all parts. -/
  target : Option String
  /-- The name that a value must have; none for no such demand. -/
  field : Option String
  /-- Whether it demands what no event has, a stretch of work or a value to compare. -/
  isIdle : Bool
  /-- The least important level that is shown; none to show nothing. -/
  level : Option Level
  deriving DecidableEq, Repr

/-! ## Levels -/

/-- The number that decimal digits write, which may have a plus before them. -/
def numberOfDigits? (text : List Char) : Option Nat :=
  let digits := match text with
    | '+' :: rest => rest
    | rest => rest
  if digits.isEmpty || !digits.all Char.isDigit then none
  else some (digits.foldl (fun n c => n * 10 + (c.toNat - '0'.toNat)) 0)

/-- The level of a number from 0 for none to 5 for all. -/
def levelOfNumber? : Nat → Option (Option Level)
  | 0 => some none
  | 1 => some (some .error)
  | 2 => some (some .warn)
  | 3 => some (some .info)
  | 4 => some (some .debug)
  | 5 => some (some .trace)
  | _ => none

/-- The level of a name, in any ASCII case. -/
def levelOfName? (name : String) : Option (Option Level) :=
  let lower := String.ofList (name.toList.map Char.toLower)
  if lower = "off" then some none
  else if lower = "error" then some (some .error)
  else if lower = "warn" then some (some .warn)
  else if lower = "info" then some (some .info)
  else if lower = "debug" then some (some .debug)
  else if lower = "trace" then some (some .trace)
  else none

/-- The level of a text, a number or a name: first none for no level, then none for `off`. -/
def levelOfText? (text : List Char) : Option (Option Level) :=
  match numberOfDigits? text with
  | some n => levelOfNumber? n
  | none => levelOfName? (String.ofList text)

namespace Directive

/-! ## Reading -/

/-- The level after an equals sign; none written means all levels. -/
def levelAfterEquals? (text : List Char) : Option (Option Level) :=
  if text.isEmpty then some (some .trace) else levelOfText? text

/-- The directive of a text without brackets and equals signs: a level for all events, or the
start of a name. -/
def ofWord (text : List Char) : Directive :=
  match levelOfText? text with
  | some level => ⟨none, none, false, level⟩
  | none => ⟨some (String.ofList text), none, false, some .trace⟩

/-- Whether a text is a number without sign: infinite, none at all, or decimal digits with an
optional point among them and an optional power of ten. -/
def isUnsigned (text : List Char) : Bool :=
  let whole := text.takeWhile Char.isDigit
  let (fraction, rest) := match text.drop whole.length with
    | '.' :: rest => (rest.takeWhile Char.isDigit, rest.dropWhile Char.isDigit)
    | rest => ([], rest)
  let isPower := match rest with
    | [] => true
    | [_] => false
    | e :: sign :: digits =>
      let digits := if sign = '+' || sign = '-' then digits else sign :: digits
      (e = 'e' || e = 'E') && !digits.isEmpty && digits.all Char.isDigit
  (!(whole ++ fraction).isEmpty && isPower) ||
    ["inf", "infinity", "nan"].contains (String.ofList (text.map Char.toLower))

/-- Whether a value can be compared with: a number with a plus, or a pattern. Other numbers are
patterns too. -/
def isComparable (text : List Char) : Bool :=
  match text with
  | '+' :: number => isUnsigned number
  | _ => Pattern.isPattern text

/-- A demand between braces: the name of a value, and whether the value is to be compared. -/
def demand? (text : List Char) : Option (String × Bool) :=
  let name := String.ofList (text.takeWhile (· ≠ '='))
  match text.dropWhile (· ≠ '=') with
  | [] => if name = "" then none else some (name, false)
  | _ :: rest => if isComparable (rest.takeWhile (· ≠ '=')) then some (name, true) else none

/-- The level after an equals sign that ends at a position of the text. -/
def levelFrom? (text : List Char) (position : Nat) : Option (Option Level) :=
  (Text.dropBytes? position text).bind levelAfterEquals?

/-- The end of a directive after brackets: nothing, or an equals sign and a level. `text` has the
blanks, and `form` is what follows at `position` without them. -/
def levelAfterBrackets? (text form : List Char) (position : Nat) : Option (Option Level) :=
  match form with
  | [] => some (some .trace)
  | '=' :: _ => levelFrom? text (position + 1)
  | _ => none

/-- A directive with brackets; `form` is what follows after the opening one at `position`. -/
def ofBrackets? (target : Option String) (text form : List Char) (position : Nat) :
    Option Directive :=
  let work := form.takeWhile fun c => c ≠ ']' && c ≠ '\x7b'
  let next := position + Text.byteCount work
  match form.drop work.length with
  | ']' :: rest =>
    (levelAfterBrackets? text rest (next + 1)).map fun level => ⟨target, none, true, level⟩
  | '\x7b' :: rest =>
    let inside := rest.takeWhile (· ≠ '\x7d')
    let stop := next + 1 + Text.byteCount inside
    match rest.drop inside.length, (Text.bytesBetween? (next + 1) stop text).bind demand? with
    | '\x7d' :: ']' :: rest, some (name, isCompared) =>
      (levelAfterBrackets? text rest (stop + 2)).map fun level =>
        ⟨target, some name, !work.isEmpty || isCompared, level⟩
    | _, _ => none
  | _ => none

/-- Whether a character may start a directive that has no brackets at its start. -/
def startsWord (c : Char) : Bool :=
  c = '-' || c = ':' || c = '_' || Text.isAlphanumeric c

/-- A directive that starts with a name, which ends before `form` at `position`. -/
def ofName? (text form : List Char) (position : Nat) : Option Directive :=
  match form, (Text.takeBytes? position text).map String.ofList with
  | '=' :: _, some target =>
    (levelFrom? text (position + 1)).map fun level => ⟨some target, none, false, level⟩
  | _ :: rest, some target => ofBrackets? (some target) text rest (position + 1)
  | _, _ => none

/-- The directive of a text. -/
def ofText? (text : List Char) : Option Directive :=
  match Text.trim text with
  | [] => none
  | c :: rest =>
    if c = '[' then ofBrackets? none text rest 1
    else if !startsWord c then none
    else
      let form := c :: rest
      let target := form.takeWhile fun c => c ≠ '=' && c ≠ '['
      let after := form.drop target.length
      if after.isEmpty then some (ofWord text) else ofName? text after (Text.byteCount target)

/-! ## What a directive speaks of -/

/-- Whether a directive speaks of an event. -/
def concerns (d : Directive) (e : Event) : Bool :=
  !d.isIdle && d.target.all (fun name => name.toList.isPrefixOf e.target.toList) &&
    d.field.all e.valueNames.contains

/-- How specific a directive is: the longer its start of a name, the more, and a demand for a
value counts less than any letter. -/
def weight (d : Directive) : Nat :=
  2 * (match d.target with
    | none => 0
    | some name => name.utf8ByteSize + 1) + (if d.field.isSome then 1 else 0)

/-- Whether a directive goes before an earlier one that speaks of the same event: it is at least
as specific, and of two equally specific ones the demand for the later name decides. -/
def outranks (d earlier : Directive) : Bool :=
  if d.weight = earlier.weight then earlier.field.getD "" ≤ d.field.getD ""
  else earlier.weight < d.weight

end Directive

end SearchQuery.Log
