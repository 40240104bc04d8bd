import SearchQuery.Text.Printable

/-!
# Quoted text

A text is shown between double quotes on one line. Quotes and backslashes get a
backslash, the common control characters get their letter, and every other
character that cannot be shown as it is becomes its code point in braces, as in
`\u{200b}`. So a quoted text never holds a line break or an escape character,
whatever was typed.
-/

namespace SearchQuery.Text

/-- The code point of a character in braces. -/
def codePoint (c : Char) : List Char :=
  "\\u\x7b".toList ++ Nat.toDigits 16 c.toNat ++ ['\x7d']

/-- How one character is written between the quotes. -/
def escape (c : Char) : List Char :=
  if c = '"' then ['\\', '"']
  else if c = '\\' then ['\\', '\\']
  else if c = '\x00' then ['\\', '0']
  else if c = '\t' then ['\\', 't']
  else if c = '\n' then ['\\', 'n']
  else if c = '\r' then ['\\', 'r']
  else if isExtender c || !isPrintable c then codePoint c
  else [c]

/-- The text between double quotes. -/
def quoted (text : String) : String :=
  String.ofList ('"' :: (text.toList.flatMap escape ++ ['"']))

end SearchQuery.Text
