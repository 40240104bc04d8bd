import SearchQuery.CommandLine.Help
import SearchQuery.Terminal.Plain

/-!
# Reading the command line

Arguments are read from left to right. What starts with two dashes is the long name
of a flag, what starts with one dash is letters of flags, one after the other, and
all else is an operand, a lone dash and the empty text included. After `--` only
operands follow.

The first thing that cannot be right ends the reading, and so does the first request
for help; a missing operand shows only at the end.
-/

namespace SearchQuery.CommandLine

/-- Why a command line cannot be right. -/
inductive UsageError where
  /-- A flag that does not exist, or an operand too many. -/
  | unexpectedArgument (text : String)
  | repeatedFlag (f : Flag)
  /-- A value for a flag, which takes none. -/
  | unexpectedValue (value : String) (f : Flag)
  | unknownCommand (text : String)
  | missingOperand (v : Verb) (o : String)
  /-- Flags without a command. -/
  | missingCommand
  /-- Nothing at all. -/
  | nothingAsked
  deriving DecidableEq, Repr

namespace UsageError

/-- What is wrong. Arguments are repeated as `clean` leaves them. -/
def summary (clean : String → String) : UsageError → String
  | unexpectedArgument text => "error: unexpected argument '" ++ clean text ++ "' found"
  | repeatedFlag f => "error: the argument '" ++ f.shown ++ "' cannot be used multiple times"
  | unexpectedValue value f =>
    "error: unexpected value '" ++ clean value ++ "' for '" ++ f.shown ++
      "' found; no more were expected"
  | unknownCommand text => "error: unrecognized subcommand '" ++ clean text ++ "'"
  | missingOperand _ _ => "error: the following required arguments were not provided:"
  | missingCommand =>
    "error: '" ++ programName ++ "' requires a subcommand but one was not provided"
  | nothingAsked => Topic.program.page.about

/-- The lines of an error that tell more. -/
def details : UsageError → List String
  | missingOperand _ o => ["  " ++ o]
  | _ => []

/-- The page that helps with an error. -/
def page : UsageError → Page
  | missingOperand v _ => v.page
  | _ => Topic.program.page

/-- The account of an error: what is wrong and where help is, or the help itself when nothing
was asked. -/
def account (clean : String → String) (e : UsageError) : String :=
  if e = nothingAsked then Topic.program.page.text
  else
    "\n\n".intercalate
      ["\n".intercalate (e.summary clean :: e.details), e.page.usageLine,
        "For more information, try '--help'."] ++ "\n"

/-- The account of an error as a text on its own. -/
def text (e : UsageError) : String := e.account Terminal.plain

/-- The account of an error as a terminal is sent it. -/
def sent (e : UsageError) : String := e.account Terminal.sent

end UsageError

/-- Why reading ends before the command line does. -/
inductive Stop where
  | misuse (e : UsageError)
  | help (t : Topic)
  deriving DecidableEq, Repr

/-! ## Arguments -/

/-- An argument by its form. -/
inductive Argument where
  /-- The sign that only operands follow. -/
  | separator
  | long (name : String) (value : Option String)
  | letters (cs : List Char)
  | operand (text : String)
  deriving DecidableEq, Repr

/-- A long name, and the value after an equals sign if there is one. -/
def Argument.ofLong (cs : List Char) : Argument :=
  let name := String.ofList (cs.takeWhile (· ≠ '='))
  match cs.dropWhile (· ≠ '=') with
  | [] => long name none
  | _ :: value => long name (some (String.ofList value))

/-- The form of an argument. -/
def Argument.ofText (text : String) : Argument :=
  match text.toList with
  | ['-', '-'] => separator
  | '-' :: '-' :: cs => ofLong cs
  | '-' :: c :: cs => letters (c :: cs)
  | _ => operand text

/-! ## Flags -/

/-- Takes in a flag. -/
def giveFlag (p : Part) (given : List Flag) (f : Flag) : Except Stop (List Flag) :=
  if f = .help then .error (.help p.topic)
  else if given.contains f && !f.isCounted then .error (.misuse (.repeatedFlag f))
  else .ok (given ++ [f])

/-- Takes in a flag by its long name. -/
def giveLong (p : Part) (given : List Flag) (name : String) (value : Option String) :
    Except Stop (List Flag) :=
  match p.longFlag? name, value with
  | none, _ => .error (.misuse (.unexpectedArgument ("--" ++ name)))
  | some f, some value => .error (.misuse (.unexpectedValue value f))
  | some f, none => giveFlag p given f

/-- Takes in a flag by its letter. -/
def giveLetter (p : Part) (given : List Flag) (letter : Char) : Except Stop (List Flag) :=
  match p.letterFlag? letter with
  | none => .error (.misuse (.unexpectedArgument ("-" ++ letter.toString)))
  | some f => giveFlag p given f

/-! ## After the command -/

/-- What was given after a command. -/
structure Given where
  flags : List Flag
  operands : List String

/-- Takes in an operand, if there is room for it. -/
def giveOperand (v : Verb) (given : Given) (text : String) : Except Stop Given :=
  match v.operand? with
  | some ⟨_, _, many⟩ =>
    if many || given.operands.isEmpty then
      .ok { given with operands := given.operands ++ [text] }
    else .error (.misuse (.unexpectedArgument text))
  | none => .error (.misuse (.unexpectedArgument text))

/-- Takes in the arguments after a command. -/
def readRest (v : Verb) (given : Given) : List String → Except Stop Given
  | [] => .ok given
  | text :: rest =>
    match Argument.ofText text with
    | .separator => rest.foldlM (giveOperand v) given
    | .long name value => do
      let flags ← giveLong (some v) given.flags name value
      readRest v { given with flags := flags } rest
    | .letters cs => do
      let flags ← cs.foldlM (giveLetter (some v)) given.flags
      readRest v { given with flags := flags } rest
    | .operand text => do
      let given ← giveOperand v given text
      readRest v given rest

/-- The command of what was given. -/
def command (v : Verb) (given : Given) : Except Stop Command :=
  let has (f : Flag) : Bool := given.flags.contains f
  match v.operand?, given.operands with
  | some o, [] => .error (.misuse (.missingOperand v o.shown))
  | _, operands =>
    let query := operands.headD ""
    .ok (match v with
      | .parse => .parse query (has .json) (has .singleQuotes)
      | .words => .words query (has .json) (has .excluded) (has .singleQuotes)
      | .tokens => .tokens query (has .balanced) (has .json) (has .singleQuotes)
      | .check => .check operands (has .quiet) (has .singleQuotes)
      | .init => .init (has .global) (has .force)
      | .config => .config)

/-- How often more log was asked for: the flags after the command count if there are any. -/
def verbosity (before after : List Flag) : Nat :=
  if after.contains .verbose then after.count .verbose else before.count .verbose

/-- What is asked by a command and all that follows it, with the flags before it. -/
def readCommand (before : List Flag) (v : Verb) (rest : List String) :
    Except Stop Invocation := do
  let given ← readRest v ⟨[], []⟩ rest
  let command ← command v given
  return ⟨command, verbosity before given.flags,
    before.contains .noColor || given.flags.contains .noColor⟩

/-! ## Before the command -/

/-- The topic of the names after a request for help. -/
def readTopic : List String → Stop
  | [] => .help .program
  | name :: rest =>
    match Verb.ofName? name, rest with
    | some v, [] => .help (.command v)
    | some _, extra :: _ => .misuse (.unknownCommand extra)
    | none, [] => if name = helpName then .help .help else .misuse (.unknownCommand name)
    | none, extra :: _ => .misuse (.unknownCommand (if name = helpName then extra else name))

/-- The error of a command line that ends without a command. -/
def noCommand (before : List Flag) : UsageError :=
  if before.isEmpty then .nothingAsked else .missingCommand

/-- The error of what follows a separator before any command, where no operand can stand. -/
def afterSeparator (before : List Flag) : List String → UsageError
  | [] => noCommand before
  | text :: _ =>
    if (Verb.ofName? text).isSome || text = helpName then .unexpectedArgument text
    else .unknownCommand text

/-- What is asked by the arguments, with the flags before them. -/
def readFrom (before : List Flag) : List String → Except Stop Invocation
  | [] => .error (.misuse (noCommand before))
  | text :: rest =>
    match Verb.ofName? text with
    | some v => readCommand before v rest
    | none =>
      if text = helpName then .error (readTopic rest)
      else
        match Argument.ofText text with
        | .separator => .error (.misuse (afterSeparator before rest))
        | .long name value => do
          let before ← giveLong none before name value
          readFrom before rest
        | .letters cs => do
          let before ← cs.foldlM (giveLetter none) before
          readFrom before rest
        | .operand text => .error (.misuse (.unknownCommand text))

/-- What is asked by the arguments of a command line. -/
def read (arguments : List String) : Except Stop Invocation :=
  readFrom [] arguments

end SearchQuery.CommandLine
