import SearchQuery.Query.Token
import SearchQuery.Query.Phrase

/-!
# Colours on a terminal

A terminal takes colours from escape sequences inside the text. A `Styler` puts
them in when it is on and leaves the text alone when it is off, so every command
prints through one and need not ask again whether colours are wanted.

Each painted stretch ends with a reset. Removing the sequences gives the text back.
-/

namespace SearchQuery.Terminal

/-- The sequences that change how a terminal writes. -/
inductive Code where
  | bold
  | dim
  | red
  | green
  | yellow
  | blue
  | magenta
  | cyan
  | reset
  deriving DecidableEq, Repr

/-- The parameter of a sequence. -/
def Code.parameter : Code → String
  | bold => "1"
  | dim => "2"
  | red => "31"
  | green => "32"
  | yellow => "33"
  | blue => "34"
  | magenta => "35"
  | cyan => "36"
  | reset => "0"

/-- The characters of a sequence. -/
def Code.sequence (c : Code) : String :=
  "\x1b[" ++ c.parameter ++ "m"

/-- The colour of a kind of token, for the kinds that have one. -/
def kindColor? : Token.Kind → Option Code
  | .word | .space => none
  | .quote => some .yellow
  | .plus => some .green
  | .minus => some .red
  | .parenOpen | .parenClose => some .cyan
  | .and | .or => some .magenta
  | .colon => some .dim

/-- The colour of a mode. -/
def modeColor : Mode → Code
  | .default => .blue
  | .or => .magenta
  | .and => .cyan
  | .exclude => .red

/-- Puts colours into text, or does not. -/
structure Styler where
  enabled : Bool
  deriving DecidableEq, Repr

namespace Styler

/-- The text after some codes and before a reset, when the styler is on. -/
def paint (s : Styler) (codes : List Code) (text : String) : String :=
  if s.enabled && !codes.isEmpty then
    String.join (codes.map Code.sequence) ++ text ++ Code.reset.sequence
  else text

/-- Paints a heading. -/
def header (s : Styler) (text : String) : String := s.paint [.bold, .cyan] text

/-- Paints what matters less. -/
def dim (s : Styler) (text : String) : String := s.paint [.dim] text

/-- Paints good news. -/
def success (s : Styler) (text : String) : String := s.paint [.green] text

/-- Paints a warning. -/
def warning (s : Styler) (text : String) : String := s.paint [.yellow] text

/-- Paints a failure. -/
def failure (s : Styler) (text : String) : String := s.paint [.red] text

/-- The name of a mode in its colour. -/
def mode (s : Styler) (m : Mode) : String := s.paint [modeColor m] m.label

/-- The text of a token of some kind in the colour of the kind. -/
def token (s : Styler) (kind : Token.Kind) (text : String) : String :=
  s.paint (kindColor? kind).toList text

/-- The tokens of a query, joined and coloured. -/
def query (s : Styler) (tokens : List Token) : String :=
  String.join (tokens.map fun t => s.token t.kind t.text)

end Styler

end SearchQuery.Terminal
