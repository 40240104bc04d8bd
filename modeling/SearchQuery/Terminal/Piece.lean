/-!
# Pieces of a document in colour

A document is shown in colour line by line. Each line is cut into pieces, and every
piece is written after the colour of its kind.
-/

namespace SearchQuery.Terminal

/-- What a piece of a document is. -/
inductive PieceKind where
  /-- White space, punctuation and all that has no kind of its own. -/
  | plain
  /-- The quotes around a JSON string. -/
  | jsonQuote
  /-- Text inside a string. -/
  | stringText
  /-- An escape inside a string, or the name of a setting. -/
  | emphasis
  /-- A constant such as `true`. -/
  | constant
  | comment
  /-- What cannot stand where it stands. -/
  | misplaced
  deriving DecidableEq, Repr

/-- A stretch of a line with its kind. -/
structure Piece where
  kind : PieceKind
  text : List Char
  deriving DecidableEq, Repr

/-- The red, green and blue parts of the colour of a kind. -/
def PieceKind.color : PieceKind → String
  | plain => "248;248;242"
  | jsonQuote => "238;238;238"
  | stringText => "241;250;140"
  | emphasis => "255;121;198"
  | constant => "189;147;249"
  | comment => "98;114;164"
  | misplaced => "248;248;240"

/-- A piece after its colour. -/
def Piece.render (p : Piece) : String :=
  "\x1b[38;2;" ++ p.kind.color ++ "m" ++ String.ofList p.text

/-- The lines of a text, each with its line break. -/
def linesWithEnds : List Char → List (List Char)
  | [] => []
  | c :: rest =>
    if c = '\n' then [c] :: linesWithEnds rest
    else
      match linesWithEnds rest with
      | [] => [[c]]
      | line :: lines => (c :: line) :: lines

end SearchQuery.Terminal
