import SearchQuery.Text.Bytes
import SearchQuery.Text.Space

/-!
# Places in a source text

An error in a configuration file is shown with its line and with carets under the
characters that are at fault. A `Span` holds the positions between which they
stand, counted in characters from the start of the file. The carets count bytes,
as the width of a file's text, and never go beyond the end of the line.
-/

namespace SearchQuery.Toml

/-- The stretch of a source text from the character at `start` up to the one at `stop`. -/
structure Span where
  start : Nat
  stop : Nat
  deriving DecidableEq, Repr

/-- How many line breaks there are in a text. -/
def lineBreaks (text : List Char) : Nat := text.countP (· = '\n')

/-- The text after the last line break. -/
def afterLastBreak (text : List Char) : List Char :=
  (text.reverse.takeWhile (· ≠ '\n')).reverse

/-- The line and the column of a position, both counted from 0. A position at the end of the
source is one column after its last character. -/
def locate (source : List Char) (position : Nat) : Nat × Nat :=
  let safe := min position (source.length - 1)
  let before := source.take safe
  (lineBreaks before, (afterLastBreak before).length + (position - safe))

/-- An error in a source text as it is shown: where it is, the line with carets below it, and what
is wrong. -/
def excerpt (source : List Char) (span : Span) (message : String) : String :=
  let (line, column) := locate source span.start
  let number := toString (line + 1)
  let gutter := String.ofList (List.replicate (number.length + 1) ' ')
  let content := (Text.pieces (· = '\n') source).getD line []
  let length := Text.byteCount ((source.drop span.start).take (span.stop - span.start))
  let carets := max 1 (min length (Text.byteCount content - column))
  "TOML parse error at line " ++ number ++ ", column " ++ toString (column + 1) ++ "\n" ++
    gutter ++ "|\n" ++
    number ++ " | " ++ String.ofList content ++ "\n" ++
    gutter ++ "|" ++ String.ofList (List.replicate (column + 1) ' ' ++ List.replicate carets '^') ++
    "\n" ++ message ++ "\n"

end SearchQuery.Toml
