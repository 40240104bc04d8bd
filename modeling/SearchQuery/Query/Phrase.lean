import SearchQuery.Text.Space

/-!
# Phrases

A phrase is a search term: one word, or several words kept together. It records
how it takes part in the search.
-/

namespace SearchQuery

/-- How a phrase or a group takes part in the group around it. -/
inductive Mode where
  /-- No keyword applies. -/
  | default
  /-- It follows the keyword `or`. -/
  | or
  /-- It follows the keyword `and`. -/
  | and
  /-- It must not be found. -/
  | exclude
  deriving DecidableEq, Repr

namespace Mode

/-- All modes, in the order in which they are listed to people. -/
def all : List Mode := [.default, .or, .and, .exclude]

/-- The name of a mode. -/
def label : Mode → String
  | default => "default"
  | or => "or"
  | and => "and"
  | exclude => "exclude"

/-- The name of a mode, capitalised, as record notation has it. -/
def constructorName : Mode → String
  | default => "Default"
  | or => "Or"
  | and => "And"
  | exclude => "Exclude"

end Mode

/-- A search term. -/
structure Phrase where
  /-- What to search for, without white space at the ends. -/
  text : String
  mode : Mode
  /-- Whether the text has white space inside. -/
  isMultiWord : Bool
  deriving DecidableEq, Repr

namespace Phrase

/-- The phrase of a text, which is trimmed. -/
def ofText (text : String) (mode : Mode) : Phrase :=
  let trimmed := Text.trim text.toList
  ⟨String.ofList trimmed, mode, trimmed.any Text.isSpace⟩

/-- Whether the phrase is something to find. -/
def isIncluded (p : Phrase) : Bool :=
  p.mode ≠ .exclude

/-- The words of the phrase. -/
def words (p : Phrase) : List String :=
  if p.isMultiWord then (Text.words p.text.toList).map String.ofList else [p.text]

end Phrase

end SearchQuery
