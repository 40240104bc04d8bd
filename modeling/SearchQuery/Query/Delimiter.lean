/-!
# Delimiters

Three kinds of delimiter can be open in a query: a parenthesis, a double quote
and, when the options ask for it, a single quote. A quote closes itself.
-/

namespace SearchQuery

/-- What the user may change about reading queries. -/
structure Options where
  /-- Whether the single quote counts as a quote when a query is repaired. -/
  singleQuotes : Bool
  deriving DecidableEq, Repr

/-- Only the double quote is a quote, unless the user says otherwise. -/
instance : Inhabited Options := ⟨⟨false⟩⟩

/-- A kind of delimiter that may be open. -/
inductive Delimiter where
  | paren
  | doubleQuote
  | singleQuote
  deriving DecidableEq, Repr

namespace Delimiter

/-- The character that opens the delimiter. -/
def opener : Delimiter → Char
  | paren => '('
  | doubleQuote => '"'
  | singleQuote => '\x27'

/-- The character that closes the delimiter. -/
def closer : Delimiter → Char
  | paren => ')'
  | doubleQuote => '"'
  | singleQuote => '\x27'

end Delimiter

/-- The quote that a character is under the options, if it is one. -/
def Options.quote? (o : Options) (c : Char) : Option Delimiter :=
  if c = '"' then some .doubleQuote
  else if c = '\x27' && o.singleQuotes then some .singleQuote
  else none

end SearchQuery
