import SearchQuery.Terminal.JsonPieces
import SearchQuery.Terminal.TomlPieces

/-!
# Highlighting documents

JSON and TOML documents are shown in colour. The text is cut into lines, each line
into pieces, and every piece is written after the colour of its kind; one reset
ends the whole. The pieces of a line are always the whole line, so colour is all
that is added. Any other syntax is shown as plain text.
-/

namespace SearchQuery.Terminal

/-- A syntax that can be highlighted. -/
inductive Syntax where
  | json
  | toml
  | plainText
  deriving DecidableEq, Repr

/-- The syntax of a name, in any ASCII case. -/
def Syntax.ofName (name : String) : Syntax :=
  if name.toLower = "json" then .json
  else if name.toLower = "toml" then .toml
  else .plainText

/-- The pieces of the lines of a document. -/
def Syntax.pieces (s : Syntax) (lines : List (List Char)) : List (List Piece) :=
  match s with
  | .json => JsonPieces.ofLines [] lines
  | .toml => lines.map tomlPieces
  | .plainText => lines.map fun line => [⟨.plain, line⟩]

/-- A document in colour. -/
def highlight (s : Syntax) (content : String) : String :=
  String.join ((s.pieces (linesWithEnds content.toList)).map fun pieces =>
    String.join (pieces.map Piece.render)) ++ "\x1b[0m"

end SearchQuery.Terminal
