/-!
# Texts without control sequences

What a user typed is repeated in messages, and it must not reach the terminal as a
command. A text is made plain by leaving out control characters and the sequences
that an escape character starts: one letter, perhaps after signs; an opening bracket
with parameters up to a letter; or a whole string up to its end. White space is kept,
line breaks included, also in sequences of the first two kinds.

A text on its own and a text on its way to a terminal differ in what white space
inside a sequence does. In a text on its own it ends the sequence. On the way to a
terminal the sequence waits: all that can be shown is let through as it is, until a
control character comes, and then the sequence goes on.

Texts are read one character at a time, by a small machine.
-/

namespace SearchQuery.Terminal

/-- Where the reading of a text stands. -/
inductive Sequence where
  /-- Outside sequences. -/
  | outside
  /-- After an escape character. -/
  | escape
  /-- After an escape character and signs. -/
  | signs
  /-- In the parameters of a sequence. -/
  | parameters
  /-- In a title, a string that a bell ends. -/
  | title
  /-- Before a string for a device. -/
  | device
  /-- In the parameters before a string for a device. -/
  | deviceParameters
  /-- In the signs before a string for a device. -/
  | deviceSigns
  /-- In a string that a terminator ends, or the next escape character. -/
  | string
  deriving DecidableEq, Repr

namespace Sequence

/-- Whether a character is white space that is kept. -/
def isBlank (c : Char) : Bool :=
  c = ' ' || c = '\t' || c = '\n' || c = '\x0c' || c = '\r'

/-- Whether a character is kept outside sequences. -/
def isShown (c : Char) : Bool :=
  isBlank c || (0x20 ≤ c.toNat && c.toNat ≠ 0x7F)

/-- Whether a code point lies between two others. -/
def between (low high : Nat) (c : Char) : Bool :=
  low ≤ c.toNat && c.toNat ≤ high

/-- Whether a character beyond ASCII has the byte 9C, the terminator of strings. -/
def hasTerminator (c : Char) : Bool :=
  let n := c.toNat
  (0x80 ≤ n && n % 64 = 0x1C) || (0x800 ≤ n && n / 64 % 64 = 0x1C) ||
    (0x10000 ≤ n && n / 4096 % 64 = 0x1C)

/-- The place after a character that follows an escape character. -/
def afterEscape (c : Char) : Sequence :=
  if between 0x20 0x2F c then signs
  else if c = '[' then parameters
  else if c = ']' then title
  else if c = 'P' then device
  else if c = 'X' || c = '^' || c = '_' then string
  else if between 0x30 0x7E c then outside
  else escape

/-- The place after a character before a string for a device. -/
def beforeString (s : Sequence) (c : Char) : Sequence :=
  if between 0x40 0x7E c then string
  else if s = deviceSigns then if between 0x30 0x3F c then string else s
  else if between 0x20 0x2F c then deviceSigns
  else if between 0x30 0x39 c || c = ';' then deviceParameters
  else if between 0x3C 0x3F c then if s = device then deviceParameters else string
  else if c = ':' then string
  else s

/-- The place after a character inside a sequence. -/
def inside (s : Sequence) (c : Char) : Sequence :=
  match s with
  | outside => outside
  | escape => afterEscape c
  | signs => if between 0x30 0x7E c then outside else signs
  | parameters => if between 0x40 0x7E c then outside else parameters
  | title => if c = '\x07' then outside else title
  | device => beforeString device c
  | deviceParameters => beforeString deviceParameters c
  | deviceSigns => beforeString deviceSigns c
  | string => if hasTerminator c then outside else string

/-- Whether white space other than the plain blank is kept inside a sequence. -/
def keepsBreaks (s : Sequence) : Bool :=
  s = escape || s = signs || s = parameters

/-- The place after a character, and whether the character is kept. -/
def step (s : Sequence) (c : Char) : Sequence × Bool :=
  if c = '\x1b' then (escape, false)
  else if c = '\x18' || c = '\x1a' then (outside, false)
  else if s = outside then (outside, isShown c)
  else if s.keepsBreaks && isBlank c && c ≠ ' ' then (s, true)
  else (s.inside c, false)

end Sequence

/-- The characters of a text that are kept, from a place on. A sequence ends with the first
character in it that is kept. -/
def plainFrom : Sequence → List Char → List Char
  | _, [] => []
  | s, c :: rest =>
    let (next, isKept) := s.step c
    if isKept then c :: plainFrom .outside rest else plainFrom next rest

/-- A text without control characters and sequences. -/
def plain (text : String) : String :=
  String.ofList (plainFrom .outside text.toList)

/-- The characters of a text that a terminal is sent, from a place on; `isOpen` while all that can
be shown is let through. A character beyond ASCII ends a sequence that waits. -/
def sentFrom : Sequence → Bool → List Char → List Char
  | _, _, [] => []
  | s, isOpen, c :: rest =>
    if isOpen && Sequence.isShown c then
      c :: sentFrom (if c.toNat < 0x80 then s else .outside) true rest
    else
      let (next, isKept) := s.step c
      if isKept then c :: sentFrom next true rest else sentFrom next false rest

/-- What a terminal is sent of a text. -/
def sent (text : String) : String :=
  String.ofList (sentFrom .outside false text.toList)

end SearchQuery.Terminal
