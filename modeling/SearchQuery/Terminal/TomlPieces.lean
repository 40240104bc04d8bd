import SearchQuery.Terminal.Piece

/-!
# The pieces of TOML

The cutter knows the documents that the program itself prints: comments, headers and
plain settings, each on a line of its own.
-/

namespace SearchQuery.Terminal

namespace TomlPieces

/-- A piece, unless it is empty. -/
def piece? (kind : PieceKind) (text : List Char) : List Piece :=
  if text.isEmpty then [] else [⟨kind, text⟩]

/-- The pieces of a value: a string with its quotes, or a constant. -/
def value (text : List Char) : List Piece :=
  match text with
  | '"' :: rest =>
    let inner := rest.takeWhile (· ≠ '"')
    let after := rest.dropWhile (· ≠ '"')
    ⟨.stringText, ['"']⟩ :: piece? .stringText inner ++
      match after with
      | [] => []
      | quote :: more => ⟨.stringText, [quote]⟩ :: piece? .plain more
  | _ => piece? .constant text

/-- The pieces of a line without its line break. -/
def contents (line : List Char) : List Piece :=
  match line with
  | [] => []
  | '#' :: rest => ⟨.comment, ['#']⟩ :: piece? .comment rest
  | '[' :: rest =>
    let name := rest.takeWhile (· ≠ ']')
    ⟨.plain, ['[']⟩ :: piece? .plain name ++
      match rest.dropWhile (· ≠ ']') with
      | [] => []
      | bracket :: more => ⟨.plain, [bracket]⟩ :: piece? .plain more
  | _ =>
    let key := line.takeWhile (· ≠ ' ')
    piece? .emphasis key ++
      match line.dropWhile (· ≠ ' ') with
      | ' ' :: '=' :: ' ' :: rest =>
        ⟨.plain, [' ']⟩ :: ⟨.plain, ['=']⟩ :: ⟨.plain, [' ']⟩ :: value rest
      | rest => piece? .plain rest

end TomlPieces

/-- The pieces of a line of TOML. -/
def tomlPieces (line : List Char) : List Piece :=
  TomlPieces.contents (line.takeWhile (· ≠ '\n')) ++
    TomlPieces.piece? .plain (line.dropWhile (· ≠ '\n'))

end SearchQuery.Terminal
