import SearchQuery.Query.Parser
import SearchQuery.Settings.Discovery
import SearchQuery.Terminal.Style

/-!
# Log lines

The log tells what happened: repairs, tokens, configuration files. An event has a
level of importance, the part of the program that it comes from, a message and
named values. A line of the log is all of that on one line, plain or in colour.
-/

namespace SearchQuery.Log

/-- The levels of importance, from the most to the least important. -/
inductive Level where
  | error
  | warn
  | info
  | debug
  | trace
  deriving DecidableEq, Repr

/-- The place of a level in the order of importance. -/
def Level.rank : Level → Nat
  | error => 1
  | warn => 2
  | info => 3
  | debug => 4
  | trace => 5

/-- The level as lines show it, five columns wide. -/
def Level.label : Level → String
  | error => "ERROR"
  | warn => " WARN"
  | info => " INFO"
  | debug => "DEBUG"
  | trace => "TRACE"

/-- The colour of a level. -/
def Level.color : Level → Terminal.Code
  | error => .red
  | warn => .yellow
  | info => .green
  | debug => .blue
  | trace => .magenta

/-- What happened. -/
inductive Event where
  | repair (n : Repair.Notice)
  | reading (n : Reader.Notice)
  | settings (n : Site.Notice)
  deriving DecidableEq, Repr

/-- Settings with the names of their fields. -/
def settingsRecord (s : Settings) : String :=
  "Config \x7b query: QuerySettings \x7b balance_single_quotes: " ++
    Settings.boolText s.query.balanceSingleQuotes ++
    " \x7d, output: OutputSettings \x7b format: " ++ s.output.format.constructorName ++
    ", color: " ++ Settings.boolText s.output.color ++ " \x7d, config_root: " ++
    (match s.origin with
      | none => "None"
      | some p => "Some(" ++ Text.quoted p.text ++ ")") ++ " \x7d"

namespace Event

/-- How important an event is. -/
def level : Event → Level
  | repair _ => .trace
  | reading (.token _ _) => .trace
  | reading .closerIgnored => .trace
  | reading (.textDropped _) => .debug
  | reading (.finished _ _ _) => .debug
  | settings _ => .debug

/-- The part of the program that an event comes from. -/
def target : Event → String
  | repair _ => "sift_query::lexer"
  | reading _ => "sift_query::parser"
  | settings (.loaded _ _) => "sift_config"
  | settings _ => "sift_config::discovery"

/-- The message of an event. -/
def message : Event → String
  | repair .openerAdded => "prepending '(' for unmatched ')'"
  | repair (.closedEarly _) => "closing interleaved delimiter"
  | repair (.closedAtEnd _) => "closing delimiter left open at end of query"
  | reading (.token _ _) => "token"
  | reading .closerIgnored => "ignoring ')' at top level"
  | reading (.textDropped _) => "discarding unterminated quoted text"
  | reading (.finished _ _ _) => "parsed query"
  | settings (.found _ _) => "discovered config file"
  | settings (.global _) => "using global config file"
  | settings (.loaded _ _) => "loaded configuration"

/-- The named values of an event. -/
def values : Event → List (String × String)
  | repair .openerAdded => []
  | repair (.closedEarly d) => [("opener", d.opener.toString)]
  | repair (.closedAtEnd d) => [("opener", d.opener.toString)]
  | reading (.token t quoted) =>
    [("kind", t.kind.label), ("text", Text.quoted t.text),
      ("state", if quoted then "InQuotes" else "Normal")]
  | reading .closerIgnored => []
  | reading (.textDropped text) => [("buffer", text)]
  | reading (.finished bytes tokens nodes) =>
    [("query_len", toString bytes), ("tokens", toString tokens), ("nodes", toString nodes)]
  | settings (.found path isRoot) =>
    [("path", path.text), ("is_root", Settings.boolText isRoot)]
  | settings (.global path) => [("path", path.text)]
  | settings (.loaded files s) => [("files", toString files), ("config", settingsRecord s)]

/-- The names of all that an event tells, its message included. -/
def valueNames (e : Event) : List String :=
  "message" :: e.values.map Prod.fst

/-- The line of an event without colour. -/
def plainLine (e : Event) : String :=
  e.level.label ++ " " ++ e.target ++ ": " ++ e.message ++
    String.join (e.values.map fun v => " " ++ v.1 ++ "=" ++ v.2)

/-- A text between an escape sequence and a reset. -/
def painted (parameter text : String) : String :=
  "\x1b[" ++ parameter ++ "m" ++ text ++ "\x1b[0m"

/-- The line of an event in colour. -/
def colorLine (e : Event) : String :=
  painted e.level.color.parameter e.level.label ++ " " ++ painted "2" e.target ++
    painted "2" ":" ++ " " ++ e.message ++
    String.join (e.values.map fun v => " " ++ painted "3" v.1 ++ painted "2" "=" ++ v.2)

end Event

/-! ## The events of the parts -/

/-- The events of repairing a query. -/
def repairEvents (o : Options) (query : String) : List Event :=
  (Repair.notices o query).map .repair

/-- The events of reading a query, its repair included. -/
def parseEvents (o : Options) (query : String) : List Event :=
  repairEvents o query ++ (parseNotices o query).map .reading

end SearchQuery.Log
