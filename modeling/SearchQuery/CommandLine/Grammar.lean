/-!
# What may be asked on the command line

A command line names a command, and around it stand flags and operands. Which flags
and how many operands there are depends on the command; some flags may also stand
before it. Everything that is known of them is listed here once: reading arguments
and writing help both follow these lists.
-/

namespace SearchQuery.CommandLine

/-- The name under which the program is called. -/
def programName : String := "sift"

/-- The switches, which take no value. -/
inductive Flag where
  | json
  | excluded
  | balanced
  | quiet
  | singleQuotes
  | global
  | force
  | verbose
  | noColor
  | help
  deriving DecidableEq, Repr

namespace Flag

/-- The long name, without its dashes. -/
def longName : Flag → String
  | json => "json"
  | excluded => "excluded"
  | balanced => "balanced"
  | quiet => "quiet"
  | singleQuotes => "single-quotes"
  | global => "global"
  | force => "force"
  | verbose => "verbose"
  | noColor => "no-color"
  | help => "help"

/-- The one letter name, for the flags that have one. -/
def letter? : Flag → Option Char
  | quiet => some 'q'
  | verbose => some 'v'
  | help => some 'h'
  | _ => none

/-- Whether a flag says more when it is given more than once. -/
def isCounted (f : Flag) : Bool := f = verbose

/-- The flag as help and errors show it. -/
def shown (f : Flag) : String :=
  "--" ++ f.longName ++ if f.isCounted then "..." else ""

end Flag

/-- The commands. -/
inductive Verb where
  | parse
  | words
  | tokens
  | check
  | init
  | config
  deriving DecidableEq, Repr

/-- What a command is about: texts given by position. -/
structure Operand where
  /-- The name that help shows. -/
  name : String
  about : String
  /-- Whether more than one may be given. -/
  many : Bool

/-- The operand as help shows it. -/
def Operand.shown (o : Operand) : String :=
  "<" ++ o.name ++ ">" ++ if o.many then "..." else ""

namespace Verb

/-- All commands, in the order in which help lists them. -/
def all : List Verb := [parse, words, tokens, check, init, config]

/-- The name of a command. -/
def name : Verb → String
  | parse => "parse"
  | words => "words"
  | tokens => "tokens"
  | check => "check"
  | init => "init"
  | config => "config"

/-- The command of a name. -/
def ofName? (name : String) : Option Verb :=
  all.find? fun v => v.name = name

/-- What a command does. -/
def about : Verb → String
  | parse => "Show the expression tree a query parses into"
  | words => "List the words a search would use"
  | tokens => "Show the token stream of a query"
  | check => "Check that queries contain something to search for"
  | init => "Initialize sift configuration in current directory"
  | config => "Show effective configuration settings"

/-- The operand of a command, which must be given if there is one. -/
def operand? : Verb → Option Operand
  | parse => some ⟨"QUERY", "Query to parse", false⟩
  | words => some ⟨"QUERY", "Query to extract words from", false⟩
  | tokens => some ⟨"QUERY", "Query to tokenize", false⟩
  | check => some ⟨"QUERIES", "Queries to check", true⟩
  | init => none
  | config => none

/-- The flag of all commands that read queries, and what it does. -/
def quoteFlag : Flag × String :=
  (.singleQuotes, "Treat ' as a quote when repairing unbalanced input [default: from config]")

/-- The flags of a command that stand only after it, and what they do. -/
def ownFlags : Verb → List (Flag × String)
  | parse => [(.json, "Output the tree as JSON"), quoteFlag]
  | words =>
    [(.json, "Output the words as JSON"), (.excluded, "Also list the excluded words"), quoteFlag]
  | tokens =>
    [(.balanced, "Also print the query after quote and parenthesis repair"),
      (.json, "Output the tokens as JSON"), quoteFlag]
  | check => [(.quiet, "Print nothing; report through the exit status only"), quoteFlag]
  | init =>
    [(.global, "Create global ~/.sift.toml instead"),
      (.force, "Overwrite existing configuration file")]
  | config => []

end Verb

/-- The flags that may stand before a command as well as after it, and what they do. -/
def commonFlags : List (Flag × String) :=
  [(.verbose, "Log verbosity (-v for debug, -vv for trace); SIFT_LOG overrides"),
    (.noColor, "Disable colored output"),
    (.help, "Print help")]

/-- A part of the command line: what stands before the command, or what follows it. -/
abbrev Part := Option Verb

namespace Part

/-- The flags that may stand in a part of the command line, and what they do. -/
def flags : Part → List (Flag × String)
  | none => commonFlags
  | some v => v.ownFlags ++ commonFlags

/-- The flag with a long name. -/
def longFlag? (p : Part) (name : String) : Option Flag :=
  (p.flags.map Prod.fst).find? fun f => f.longName = name

/-- The flag with a one letter name. -/
def letterFlag? (p : Part) (letter : Char) : Option Flag :=
  (p.flags.map Prod.fst).find? fun f => f.letter? = some letter

end Part

/-! ## What was asked -/

/-- A command with all that was said about it. -/
inductive Command where
  | parse (query : String) (json singleQuotes : Bool)
  | words (query : String) (json excluded singleQuotes : Bool)
  | tokens (query : String) (balanced json singleQuotes : Bool)
  | check (queries : List String) (quiet singleQuotes : Bool)
  | init (global force : Bool)
  | config
  deriving DecidableEq, Repr

/-- A command with what was said about the program as a whole. -/
structure Invocation where
  command : Command
  /-- How often more log was asked for. -/
  verbosity : Nat
  noColor : Bool
  deriving DecidableEq, Repr

end SearchQuery.CommandLine
