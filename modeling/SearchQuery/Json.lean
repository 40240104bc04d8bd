/-!
# JSON documents

Documents are printed for people and for other programs: two spaces of indentation
a level, a space after each colon, an empty list or record on one line. Text is
written as it is, apart from quotes, backslashes and control characters.

The members of a record stay in the order in which they were put.
-/

namespace SearchQuery

/-- A document without numbers, which is all that is printed here. -/
inductive Json where
  | bool (value : Bool)
  | text (value : String)
  | list (items : List Json)
  | record (members : List (String × Json))

namespace Json

/-- A digit of a code point below 32. -/
def hexDigit (n : Nat) : Char :=
  if n < 10 then Char.ofNat (48 + n) else Char.ofNat (87 + n)

/-- How one character of a text is written. -/
def escape (c : Char) : List Char :=
  if c = '"' then ['\\', '"']
  else if c = '\\' then ['\\', '\\']
  else if c = '\n' then ['\\', 'n']
  else if c = '\r' then ['\\', 'r']
  else if c = '\t' then ['\\', 't']
  else if c = '\x08' then ['\\', 'b']
  else if c = '\x0c' then ['\\', 'f']
  else if c.toNat < 0x20 then
    ['\\', 'u', '0', '0', hexDigit (c.toNat / 16), hexDigit (c.toNat % 16)]
  else [c]

/-- A text between double quotes. -/
def quote (text : String) : String :=
  String.ofList ('"' :: (text.toList.flatMap escape ++ ['"']))

/-- A line break and the white space of a level. -/
def lineBreak (level : Nat) : String :=
  "\n" ++ String.join (List.replicate level "  ")

mutual

/-- The document at a level of indentation. -/
def render (level : Nat) : Json → String
  | bool value => if value then "true" else "false"
  | text value => quote value
  | list [] => "[]"
  | list (item :: items) =>
    "[" ++ lineBreak (level + 1) ++ render (level + 1) item ++ renderItems (level + 1) items ++
      lineBreak level ++ "]"
  | record [] => "\x7b\x7d"
  | record ((name, value) :: members) =>
    "\x7b" ++ lineBreak (level + 1) ++ quote name ++ ": " ++ render (level + 1) value ++
      renderMembers (level + 1) members ++ lineBreak level ++ "\x7d"

/-- The items after the first. -/
def renderItems (level : Nat) : List Json → String
  | [] => ""
  | item :: items => "," ++ lineBreak level ++ render level item ++ renderItems level items

/-- The members after the first. -/
def renderMembers (level : Nat) : List (String × Json) → String
  | [] => ""
  | (name, value) :: members =>
    "," ++ lineBreak level ++ quote name ++ ": " ++ render level value ++
      renderMembers level members

end

/-- The document as text, without a final line break. -/
def pretty (j : Json) : String := j.render 0

end Json

end SearchQuery
