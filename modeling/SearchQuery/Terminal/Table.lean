import SearchQuery.Query.Token
import SearchQuery.Text.Columns
import SearchQuery.Text.Quoted

/-!
# The table of tokens

Tokens are shown in a frame of box drawing characters. A column is as wide as its
widest cell, measured in terminal columns, with one space on both sides.
-/

namespace SearchQuery.Terminal

/-- The characters of a horizontal rule: its left end, its line, its crossings, its right end. -/
structure Rule where
  left : Char
  line : Char
  crossing : Char
  right : Char

/-- The rule on top of a table. -/
def topRule : Rule := ⟨'┌', '─', '┬', '┐'⟩

/-- The rule below the headings. -/
def headingRule : Rule := ⟨'╞', '═', '╪', '╡'⟩

/-- The rule at the bottom. -/
def bottomRule : Rule := ⟨'└', '─', '┴', '┘'⟩

/-- The terminal columns of a cell. -/
def cellColumns (cell : String) : Nat := Text.columns cell.toList

/-- The width of each column: that of the widest cell in it. -/
def columnWidths : List (List String) → List Nat
  | [] => []
  | [row] => row.map cellColumns
  | row :: rows => List.zipWith max (row.map cellColumns) (columnWidths rows)

/-- A rule over columns of the given widths. -/
def Rule.draw (r : Rule) (widths : List Nat) : String :=
  let stretches := widths.map fun w => String.ofList (List.replicate (w + 2) r.line)
  r.left.toString ++ r.crossing.toString.intercalate stretches ++ r.right.toString

/-- A cell with the spaces around it. -/
def drawCell (width : Nat) (cell : String) : String :=
  " " ++ cell ++ String.ofList (List.replicate (width - cellColumns cell) ' ') ++ " "

/-- A row of cells. -/
def drawRow (widths : List Nat) (row : List String) : String :=
  "│" ++ "┆".intercalate (List.zipWith drawCell widths row) ++ "│"

/-- A table with one row of headings, without a final line break. -/
def drawTable (headings : List String) (rows : List (List String)) : String :=
  let widths := columnWidths (headings :: rows)
  "\n".intercalate
    ([topRule.draw widths, drawRow widths headings, headingRule.draw widths] ++
      rows.map (drawRow widths) ++ [bottomRule.draw widths])

/-- The row of a token. -/
def tokenRow (token : Token) (index : Nat) : List String :=
  [toString index, token.kind.label, Text.quoted token.text]

/-- The table of a list of tokens. -/
def tokenTable (tokens : List Token) : String :=
  drawTable ["#", "Kind", "Text"] (tokens.mapIdx fun index token => tokenRow token index)

end SearchQuery.Terminal
