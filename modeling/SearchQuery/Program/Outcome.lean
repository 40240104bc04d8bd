import SearchQuery.Log.Filter

/-!
# What a command comes to

Running a command has an outcome: an exit status, what is written to the two
streams, and the files afterwards. Nothing else happens, so a command is a function
and the disk is touched only when its outcome is carried out.

What goes to the error stream is kept as messages in their order, since the log is
written there too and may be filtered, coloured or left out.
-/

namespace SearchQuery

/-- How a command ends. -/
inductive Status where
  | success
  | failure
  /-- The command line could not be understood. -/
  | misuse
  deriving DecidableEq, Repr

/-- The number that the program exits with. -/
def Status.code : Status → Nat
  | success => 0
  | failure => 1
  | misuse => 2

/-- What goes to the error stream. -/
inductive Message where
  | event (e : Log.Event)
  | text (text : String)
  deriving DecidableEq, Repr

namespace Message

/-- A line of text. -/
def line (t : String) : Message := .text (t ++ "\n")

/-- What is written for a message, with the log or without. -/
def written (log : Option Log.Writer) : Message → String
  | event e =>
    match log.bind fun w => w.line? e with
    | none => ""
    | some l => l ++ "\n"
  | text t => t

end Message

/-- What a command comes to. -/
structure Outcome where
  status : Status
  /-- What is written to the output stream. -/
  output : String
  /-- What goes to the error stream. -/
  messages : List Message
  /-- The files afterwards. -/
  files : FileSystem

namespace Outcome

/-- What is written to the error stream, with the log or without. -/
def errorText (log : Option Log.Writer) (o : Outcome) : String :=
  String.join (o.messages.map (Message.written log))

/-- The outcome with log events in front of its messages. -/
def after (events : List Log.Event) (o : Outcome) : Outcome :=
  { o with messages := events.map .event ++ o.messages }

end Outcome

/-- What a command runs in: where, with what settings, and with or without colours. -/
structure Context where
  site : Site
  settings : Settings
  styler : Terminal.Styler

namespace Context

/-- The outcome that writes something and leaves the files alone. -/
def prints (ctx : Context) (output : String) (messages : List Message) : Outcome :=
  ⟨.success, output, messages, ctx.site.files⟩

/-- How queries are read: as the settings say, unless a flag asks for single quotes. -/
def options (ctx : Context) (singleQuotes : Bool) : Options :=
  ⟨singleQuotes || ctx.settings.query.balanceSingleQuotes⟩

/-- Whether results are printed as documents. -/
def wantsDocument (ctx : Context) (flag : Bool) : Bool :=
  flag || ctx.settings.output.format = .json

end Context

end SearchQuery
