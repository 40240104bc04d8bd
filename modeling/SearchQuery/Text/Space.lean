/-!
# Whitespace

Queries come from people typing in any script, so a blank is whatever Unicode
calls white space, not only the space bar. The property is small and frozen, and
it is written out here: core's own test knows ASCII only.

Trimming and word splitting are stated on lists of characters.
-/

namespace SearchQuery.Text

/-- The characters with the Unicode property White_Space. -/
def isSpace (c : Char) : Bool :=
  let n := c.toNat
  (0x09 ≤ n && n ≤ 0x0D) || n = 0x20 || n = 0x85 || n = 0xA0 || n = 0x1680 ||
    (0x2000 ≤ n && n ≤ 0x200A) || n = 0x2028 || n = 0x2029 || n = 0x202F || n = 0x205F ||
    n = 0x3000

/-- The text without the white space at its two ends. -/
def trim (text : List Char) : List Char :=
  ((text.dropWhile isSpace).reverse.dropWhile isSpace).reverse

/-- The stretches between the characters that satisfy `cut`, empty ones included. -/
def pieces (cut : Char → Bool) : List Char → List (List Char)
  | [] => [[]]
  | c :: rest =>
    if cut c then [] :: pieces cut rest
    else
      match pieces cut rest with
      | [] => [[c]]
      | piece :: more => (c :: piece) :: more

/-- The words of a text: its longest stretches free of white space. -/
def words (text : List Char) : List (List Char) :=
  (pieces isSpace text).filter (fun piece => !piece.isEmpty)

/-! ## There is always a piece, and gluing the pieces gives the text back -/

theorem pieces_ne_nil (cut : Char → Bool) (text : List Char) : pieces cut text ≠ [] := by
  cases text with
  | nil => simp [pieces]
  | cons c rest =>
    unfold pieces
    split
    · simp
    · split <;> simp

/-- The last piece has no cut in it, like all the others. -/
theorem not_cut_of_mem_pieces {cut : Char → Bool} {text piece : List Char} {c : Char}
    (hp : piece ∈ pieces cut text) (hc : c ∈ piece) : cut c = false := by
  induction text generalizing piece with
  | nil => simp_all [pieces]
  | cons d rest ih =>
    unfold pieces at hp
    split at hp
    · rcases List.mem_cons.mp hp with rfl | hp
      · simp at hc
      · exact ih hp hc
    · rename_i hd
      split at hp
      · simp_all
      · rename_i first more heq
        rcases List.mem_cons.mp hp with rfl | hp
        · rcases List.mem_cons.mp hc with rfl | hc
          · simpa using hd
          · exact ih (heq ▸ List.mem_cons_self) hc
        · exact ih (heq ▸ List.mem_cons_of_mem _ hp) hc

end SearchQuery.Text
