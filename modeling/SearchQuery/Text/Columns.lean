import SearchQuery.Text.Printable

/-!
# How many terminal columns a text takes

East Asian wide and full-width characters and emoji take two columns. The vowels and
finals of decomposed Hangul syllables and signs that are written onto the letter after
them take none, and nearly everything else takes one; characters of ambiguous width
count as narrow.

Some neighbours are drawn as one sign and take the columns of one: a person emoji
with a skin tone, the Arabic letter lam with an alef, two tone letters of Lisu, and
the vowel signs of Kirat Rai that make up another one. Which of these it is shows at
the right end, so a text is measured from there: `Joint` is what a text offers to a
character before it.

The widths are those of characters that can be shown as they are; `Text.quoted`
spells out all others first.
-/

namespace SearchQuery.Text

/-- The ranges of wide and full-width characters. -/
def wideRanges : List (Nat × Nat) := [
    (0x1100, 0x115F), (0x231A, 0x231B), (0x2329, 0x232A), (0x23E9, 0x23EC), (0x23F0, 0x23F0),
    (0x23F3, 0x23F3), (0x25FD, 0x25FE), (0x2614, 0x2615), (0x2630, 0x2637), (0x2648, 0x2653),
    (0x267F, 0x267F), (0x268A, 0x268F), (0x2693, 0x2693), (0x26A1, 0x26A1), (0x26AA, 0x26AB),
    (0x26BD, 0x26BE), (0x26C4, 0x26C5), (0x26CE, 0x26CE), (0x26D4, 0x26D4), (0x26EA, 0x26EA),
    (0x26F2, 0x26F3), (0x26F5, 0x26F5), (0x26FA, 0x26FA), (0x26FD, 0x26FD), (0x2705, 0x2705),
    (0x270A, 0x270B), (0x2728, 0x2728), (0x274C, 0x274C), (0x274E, 0x274E), (0x2753, 0x2755),
    (0x2757, 0x2757), (0x2795, 0x2797), (0x27B0, 0x27B0), (0x27BF, 0x27BF), (0x2B1B, 0x2B1C),
    (0x2B50, 0x2B50), (0x2B55, 0x2B55), (0x2E80, 0x303E), (0x3041, 0x3247), (0x3250, 0xA4C6),
    (0xA960, 0xA97C), (0xAC00, 0xD7A3), (0xF900, 0xFAD9), (0xFE10, 0xFE6B), (0xFF01, 0xFF60),
    (0xFFE0, 0xFFE6), (0x16FE0, 0x1B2FB), (0x1D300, 0x1D376), (0x1F004, 0x1F004),
    (0x1F0CF, 0x1F0CF), (0x1F18E, 0x1F18E), (0x1F191, 0x1F19A), (0x1F200, 0x1F320),
    (0x1F32D, 0x1F335), (0x1F337, 0x1F37C), (0x1F37E, 0x1F393), (0x1F3A0, 0x1F3CA),
    (0x1F3CF, 0x1F3D3), (0x1F3E0, 0x1F3F0), (0x1F3F4, 0x1F3F4), (0x1F3F8, 0x1F43E),
    (0x1F440, 0x1F440), (0x1F442, 0x1F4FC), (0x1F4FF, 0x1F53D), (0x1F54B, 0x1F54E),
    (0x1F550, 0x1F567), (0x1F57A, 0x1F57A), (0x1F595, 0x1F596), (0x1F5A4, 0x1F5A4),
    (0x1F5FB, 0x1F64F), (0x1F680, 0x1F6C5), (0x1F6CC, 0x1F6CC), (0x1F6D0, 0x1F6D2),
    (0x1F6D5, 0x1F6DF), (0x1F6EB, 0x1F6EC), (0x1F6F4, 0x1F6FC), (0x1F7E0, 0x1F7F0),
    (0x1F90C, 0x1F93A), (0x1F93C, 0x1F945), (0x1F947, 0x1F9FF), (0x1FA70, 0x1FAF8),
    (0x20000, 0x33479)]

/-- The ranges of emoji that take a skin tone. -/
def skinToneBaseRanges : List (Nat × Nat) := [
    (0x261D, 0x261D), (0x26F9, 0x26F9), (0x270A, 0x270D), (0x1F385, 0x1F385), (0x1F3C2, 0x1F3C4),
    (0x1F3C7, 0x1F3C7), (0x1F3CA, 0x1F3CC), (0x1F442, 0x1F443), (0x1F446, 0x1F450),
    (0x1F466, 0x1F478), (0x1F47C, 0x1F47C), (0x1F481, 0x1F483), (0x1F485, 0x1F487),
    (0x1F48F, 0x1F48F), (0x1F491, 0x1F491), (0x1F4AA, 0x1F4AA), (0x1F574, 0x1F575),
    (0x1F57A, 0x1F57A), (0x1F590, 0x1F590), (0x1F595, 0x1F596), (0x1F645, 0x1F647),
    (0x1F64B, 0x1F64F), (0x1F6A3, 0x1F6A3), (0x1F6B4, 0x1F6B6), (0x1F6C0, 0x1F6C0),
    (0x1F6CC, 0x1F6CC), (0x1F90C, 0x1F90C), (0x1F90F, 0x1F90F), (0x1F918, 0x1F91F),
    (0x1F926, 0x1F926), (0x1F930, 0x1F939), (0x1F93C, 0x1F93E), (0x1F977, 0x1F977),
    (0x1F9B5, 0x1F9B6), (0x1F9B8, 0x1F9B9), (0x1F9BB, 0x1F9BB), (0x1F9CD, 0x1F9CF),
    (0x1F9D1, 0x1F9DD), (0x1FAC3, 0x1FAC5), (0x1FAF0, 0x1FAF8)]

/-- The characters without a width of their own. -/
def narrowestRanges : List (Nat × Nat) := [
    (0x0D4E, 0x0D4E), (0x1160, 0x11FF), (0xA8FA, 0xA8FA), (0xD7B0, 0xD7C6), (0xD7CB, 0xD7FB),
    (0x111C2, 0x111C3), (0x113D1, 0x113D1), (0x1193F, 0x1193F),
    (0x11941, 0x11941), (0x11A84, 0x11A89), (0x11D46, 0x11D46), (0x11F02, 0x11F02)]

/-- The letters lam. -/
def lamRanges : List (Nat × Nat) :=
  [(0x0644, 0x0644), (0x06B5, 0x06B8), (0x076A, 0x076A), (0x08A6, 0x08A6), (0x08C7, 0x08C7)]

/-- The letters alef. -/
def alefRanges : List (Nat × Nat) :=
  [(0x0622, 0x0623), (0x0625, 0x0625), (0x0627, 0x0627), (0x0671, 0x0673), (0x0675, 0x0675),
    (0x0773, 0x0774), (0x0870, 0x0882)]

/-- The columns of one character that stands alone. -/
def charColumns (c : Char) : Nat :=
  let n := c.toNat
  if n < 0x80 then 1
  else if inRanges narrowestRanges n then 0
  else if n = 0x17D8 then 3
  else if n = 0x17A4 || inRanges wideRanges n then 2
  else 1

/-- What the left end of a text offers to a character before it. -/
inductive Joint where
  | none
  /-- An alef, which joins a lam. -/
  | alef
  /-- A skin tone, which joins an emoji that takes one. -/
  | skinTone
  /-- A Lisu tone letter of the second row, which joins one of the first row. -/
  | toneLetter
  /-- The Kirat Rai vowel sign E. -/
  | vowelE
  /-- The Kirat Rai vowel sign AI, be it written as two signs E. -/
  | vowelAI
  deriving DecidableEq, Repr

/-- What a character that joined nothing offers. -/
def Joint.of (c : Char) : Joint :=
  let n := c.toNat
  if inRanges alefRanges n then alef
  else if 0x1F3FB ≤ n && n ≤ 0x1F3FF then skinTone
  else if n = 0xA4FC || n = 0xA4FD then toneLetter
  else if n = 0x16D67 then vowelE
  else if n = 0x16D68 then vowelAI
  else none

/-- The columns of a character that joins what follows, and what it offers then; nothing if it
does not join. A sign AI before a sign E takes the place of two signs E before it. -/
def Joint.accept? (joint : Joint) (c : Char) : Option (Nat × Joint) :=
  let n := c.toNat
  match joint with
  | none => .none
  | alef => if inRanges lamRanges n then some (0, none) else .none
  | skinTone => if inRanges skinToneBaseRanges n then some (0, none) else .none
  | toneLetter => if 0xA4F8 ≤ n && n ≤ 0xA4FB then some (0, none) else .none
  | vowelE =>
    if n = 0x16D63 || n = 0x16D69 then some (0, none)
    else if n = 0x16D67 then some (0, vowelAI)
    else if n = 0x16D68 then some (1, vowelE)
    else .none
  | vowelAI => if n = 0x16D63 then some (0, none) else .none

/-- The columns of a text and what it offers to a character before it. -/
def measure : List Char → Nat × Joint
  | [] => (0, .none)
  | c :: rest =>
    let (after, joint) := measure rest
    let (own, offer) := (joint.accept? c).getD (charColumns c, Joint.of c)
    (own + after, offer)

/-- The columns of a text. -/
def columns (text : List Char) : Nat := (measure text).1

end SearchQuery.Text
