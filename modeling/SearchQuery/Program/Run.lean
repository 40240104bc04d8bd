import SearchQuery.CommandLine.Reading
import SearchQuery.Program.Configuration
import SearchQuery.Program.Queries

/-!
# Running the program

`Program.run` takes a command line to its outcome: it reads the arguments, loads
the settings that the command needs, and runs the command. Arguments that cannot be
understood are reported before any file is looked at.
-/

namespace SearchQuery

open CommandLine (Invocation Command Stop)

/-- What surrounds the program. -/
structure Environment where
  /-- The wish to have no colours, which counts whatever it says. -/
  noColor : Option String
  /-- The filter of the log. -/
  logFilter : Option String
  /-- Whether the output stream is a terminal. -/
  isTerminal : Bool
  deriving DecidableEq, Repr

namespace Environment

/-- How the log is written, with so many requests for more of it. Unlike results, the log is
in colour also where no terminal reads it, and an empty wish against colours does not count. -/
def log (env : Environment) (verbosity : Nat) : Log.Writer :=
  ⟨Log.Filter.choose env.logFilter verbosity, env.noColor.getD "" = ""⟩

/-- Whether results are in colour: nobody may be against it, and a terminal must read them. -/
def styler (env : Environment) (noColorFlag : Bool) (s : Settings) : Terminal.Styler :=
  ⟨s.output.color && !noColorFlag && env.noColor.isNone && env.isTerminal⟩

end Environment

/-- Whether a command needs settings. -/
def CommandLine.Command.needsSettings : Command → Bool
  | .init _ _ => false
  | _ => true

/-- The outcome of a command. -/
def Context.outcome (ctx : Context) : Command → Outcome
  | .parse query json singleQuotes => ctx.parse query json singleQuotes
  | .words query json excluded singleQuotes => ctx.words query json excluded singleQuotes
  | .tokens query balanced json singleQuotes => ctx.tokens query balanced json singleQuotes
  | .check queries quiet singleQuotes => ctx.check queries quiet singleQuotes
  | .init global force => ctx.init global force
  | .config => ctx.config

namespace Program

/-- The outcome of what was asked. -/
def runInvocation (env : Environment) (site : Site) (i : Invocation) : Outcome :=
  let context (s : Settings) : Context := ⟨site, s, env.styler i.noColor s⟩
  if i.command.needsSettings then
    let outcome :=
      match site.load site.here with
      | .ok s => (context s).outcome i.command
      | .error e =>
        (context .default).fails ["error: failed to load configuration: " ++ e.message]
    outcome.after ((site.loadNotices site.here).map .settings)
  else (context .default).outcome i.command

/-- The outcome of a command line. -/
def run (env : Environment) (site : Site) (arguments : List String) : Outcome :=
  match CommandLine.read arguments with
  | .ok i => runInvocation env site i
  | .error (.help topic) => ⟨.success, topic.page.text, [], site.files⟩
  | .error (.misuse e) => ⟨.misuse, "", [.text e.sent], site.files⟩

/-- How a command line has the log written. -/
def log (env : Environment) (arguments : List String) : Log.Writer :=
  env.log (match CommandLine.read arguments with
    | .ok i => i.verbosity
    | .error _ => 0)

end Program

end SearchQuery
