import SearchQuery.Log.Directive

/-!
# Choosing log lines

A filter is a list of directives, written with commas between them. The most
specific directive that speaks of an event decides whether it is shown; what none
speaks of is not shown. The empty text shows errors only.
-/

namespace SearchQuery.Log

/-- A list of directives, the later ones taking precedence among equals. -/
abbrev Filter := List Directive

namespace Filter

/-- The filter of a text, if all its directives can be read. -/
def ofText? (text : String) : Option Filter :=
  let parts := (Text.pieces (· = ',') text.toList).filter (fun part => !part.isEmpty)
  if parts.isEmpty then some [⟨none, none, false, some .error⟩] else parts.mapM Directive.ofText?

/-- The name of the level that a number of requests for more log asks for. -/
def levelNameOfCount (count : Nat) : String :=
  match count with
  | 0 => "warn"
  | 1 => "debug"
  | _ => "trace"

/-- The filter that applies: the one that is set if it can be read, or else that of the count. -/
def choose (text : Option String) (count : Nat) : Filter :=
  match text.bind ofText? with
  | some f => f
  | none => (ofText? (levelNameOfCount count)).getD []

/-- The directives that speak of an event. -/
def applicable (f : Filter) (e : Event) : List Directive :=
  f.filter (·.concerns e)

/-- The most specific directive that speaks of an event, the last one among equals. -/
def decisive? (f : Filter) (e : Event) : Option Directive :=
  (f.applicable e).foldl (fun best d => if best.all d.outranks then some d else best) none

/-- Whether an event is shown. -/
def shows (f : Filter) (e : Event) : Bool :=
  match (f.decisive? e).bind Directive.level with
  | some level => e.level.rank ≤ level.rank
  | none => false

end Filter

/-! ## Writing the log -/

/-- How the log is written. -/
structure Writer where
  filter : Filter
  color : Bool

/-- The line of an event, if it is shown. -/
def Writer.line? (w : Writer) (e : Event) : Option String :=
  if w.filter.shows e then some (if w.color then e.colorLine else e.plainLine) else none

end SearchQuery.Log
