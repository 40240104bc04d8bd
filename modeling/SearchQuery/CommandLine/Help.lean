import SearchQuery.CommandLine.Grammar

/-!
# Help

A page of help says what the program or a command does, how it is called, and what
each operand and flag means. The entries of a section are set in two columns, the
second starting two spaces after the longest entry of the first.
-/

namespace SearchQuery.CommandLine

/-- A titled list of entries, each with what it means. -/
structure Section where
  title : String
  entries : List (String × String)

/-- A page of help. -/
structure Page where
  about : String
  usage : String
  sections : List Section
  /-- What follows at the end. -/
  afterword : Option String

/-- The text filled up with spaces to a width. -/
def padded (width : Nat) (text : String) : String :=
  text ++ String.ofList (List.replicate (width - text.length) ' ')

/-- The lines of a section, as one text without a final line break. -/
def Section.text (s : Section) : String :=
  let width := (s.entries.map fun e => e.1.length).foldl max 0
  "\n".intercalate
    ((s.title ++ ":") :: s.entries.map fun e => "  " ++ padded width e.1 ++ "  " ++ e.2)

/-- The line that shows how to call. -/
def Page.usageLine (p : Page) : String := "Usage: " ++ p.usage

/-- The text of a page. -/
def Page.text (p : Page) : String :=
  "\n\n".intercalate
    ([p.about, p.usageLine] ++ p.sections.map Section.text ++ p.afterword.toList) ++ "\n"

/-- A flag as the options list it, the letter first. -/
def Flag.entry (f : Flag) : String :=
  (match f.letter? with
    | some letter => "-" ++ letter.toString ++ ", "
    | none => "    ") ++ f.shown

/-- The section on the flags of a part of the command line. -/
def Part.optionsSection (p : Part) : Section :=
  ⟨"Options", p.flags.map fun f => (f.1.entry, f.2)⟩

/-- A short account of how queries are written. -/
def querySyntax : String :=
  "\n".intercalate
    ["QUERY SYNTAX:",
      "  term              Plain term",
      "  term1 term2       Both terms (default combinator)",
      "  \"a phrase\"        Words kept together as one phrase",
      "  -term             Term must NOT appear",
      "  +term             Explicitly included term",
      "  a or b            Either term (keyword is case-insensitive)",
      "  a and b           Both terms, explicitly",
      "  (expr)            Grouping; the group takes the pending combinator",
      "",
      "Unbalanced quotes and parentheses are repaired, never rejected.",
      "",
      "EXAMPLES:",
      "  sift parse 'rust -deprecated'",
      "  sift parse '\"error handling\" (tokio or async-std)'",
      "  sift words 'a -b (c or d)'",
      "  sift tokens --balanced '(unclosed \"quote'"]

/-- Whether the help of a command explains how queries are written. -/
def Verb.explainsQueries : Verb → Bool
  | parse | words | tokens => true
  | check | init | config => false

/-- The page of a command. -/
def Verb.page (v : Verb) : Page where
  about := v.about
  usage :=
    " ".intercalate
      ([programName, v.name, "[OPTIONS]"] ++ (v.operand?.map Operand.shown).toList)
  sections :=
    (v.operand?.map fun o => (⟨"Arguments", [(o.shown, o.about)]⟩ : Section)).toList ++
      [Part.optionsSection (some v)]
  afterword := if v.explainsQueries then some querySyntax else none

/-- What help can be about. -/
inductive Topic where
  | program
  | command (v : Verb)
  /-- Help itself. -/
  | help
  deriving DecidableEq, Repr

/-- The name that asks for help where a command may stand. -/
def helpName : String := "help"

/-- What asking for help does. -/
def helpAbout : String := "Print this message or the help of the given subcommand(s)"

/-- The page on a topic. -/
def Topic.page : Topic → Page
  | program =>
    { about := "Inspect how search queries are tokenized and parsed"
      usage := programName ++ " [OPTIONS] <COMMAND>"
      sections :=
        [⟨"Commands", Verb.all.map (fun v => (v.name, v.about)) ++ [(helpName, helpAbout)]⟩,
          Part.optionsSection none]
      afterword := none }
  | command v => v.page
  | help =>
    { about := helpAbout
      usage := programName ++ " " ++ helpName ++ " [COMMAND]..."
      sections := [⟨"Arguments", [("[COMMAND]...", "Print help for the subcommand(s)")]⟩]
      afterword := none }

/-- The topic of help that is asked for in a part of the command line. -/
def Part.topic : Part → Topic
  | none => .program
  | some v => .command v

end SearchQuery.CommandLine
