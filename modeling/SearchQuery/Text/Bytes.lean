/-!
# Texts counted in bytes

Some positions in a text count the bytes that it takes in a file. A text can be cut
at such a position unless it lies inside a character.
-/

namespace SearchQuery.Text

/-- The bytes that a text takes in a file. -/
def byteCount : List Char → Nat
  | [] => 0
  | c :: rest => c.utf8Size + byteCount rest

/-- The text without its first bytes. -/
def dropBytes? : Nat → List Char → Option (List Char)
  | 0, text => some text
  | _, [] => none
  | count, c :: rest =>
    if c.utf8Size ≤ count then dropBytes? (count - c.utf8Size) rest else none

/-- The first bytes of a text. -/
def takeBytes? : Nat → List Char → Option (List Char)
  | 0, _ => some []
  | _, [] => none
  | count, c :: rest =>
    if c.utf8Size ≤ count then (takeBytes? (count - c.utf8Size) rest).map (c :: ·) else none

/-- The stretch of a text between two positions. -/
def bytesBetween? (start stop : Nat) (text : List Char) : Option (List Char) :=
  (dropBytes? start text).bind (takeBytes? (stop - start))

end SearchQuery.Text
