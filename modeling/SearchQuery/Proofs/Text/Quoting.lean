import Mathlib.Tactic.SplitIfs
import SearchQuery.Proofs.Document.Printing
import SearchQuery.Text.Quoted

/-!
# Quoted texts can be read back

What a user typed is shown between quotes, and two facts make that safe to rely on. Nothing
but printable characters is written (`isPrintable_of_mem_quoted`), so a quoted text cannot
break a line or start a sequence that the terminal would obey. And nothing is lost: an
escaped character says by itself where it ends, its code point up to the closing brace
included (`unescape_escape`), so a quoted text is told from all others, whatever follows it
(`quoted_append_inj`).
-/

namespace SearchQuery.Text

variable {c : Char} {n : Nat}

/-! ## Hexadecimal digits -/

theorem digits_printable : ∀ d < 16, isPrintable (Nat.digitChar d) = true
    ∧ Nat.digitChar d ≠ '\x7d' ∧ Json.hexValue (Nat.digitChar d) = d := by
  decide

/-- The digits of a number are written one by one, so what holds of a digit holds of each. -/
theorem mem_toDigits (h : c ∈ Nat.toDigits 16 n) : ∃ d < 16, c = Nat.digitChar d := by
  induction n using Nat.strongRecOn with
  | ind n ih =>
    rcases Nat.lt_or_ge n 16 with hlt | hge
    · rw [Nat.toDigits_of_lt_base hlt, List.mem_singleton] at h
      exact ⟨n, hlt, h⟩
    · rw [Nat.toDigits_of_base_le (by decide) hge, List.mem_append, List.mem_singleton] at h
      rcases h with h | h
      · exact ih (n / 16) (by omega) h
      · exact ⟨n % 16, by omega, h⟩

/-- The number that hexadecimal digits stand for. -/
def hexNumber (digits : List Char) : Nat :=
  digits.foldl (fun value digit => 16 * value + Json.hexValue digit) 0

theorem hexNumber_toDigits (n : Nat) : hexNumber (Nat.toDigits 16 n) = n := by
  induction n using Nat.strongRecOn with
  | ind n ih =>
    rcases Nat.lt_or_ge n 16 with hlt | hge
    · rw [Nat.toDigits_of_lt_base hlt]
      show 16 * 0 + Json.hexValue (Nat.digitChar n) = n
      rw [(digits_printable n hlt).2.2, Nat.zero_add]
    · have hlast : Json.hexValue (Nat.digitChar (n % 16)) = n % 16 :=
        (digits_printable (n % 16) (by omega)).2.2
      have hfirst : hexNumber (Nat.toDigits 16 (n / 16)) = n / 16 := ih (n / 16) (by omega)
      -- the last digit is the remainder, and those before it are the digits of the quotient
      rw [Nat.toDigits_of_base_le (by decide) hge, hexNumber, List.foldl_append]
      show 16 * hexNumber (Nat.toDigits 16 (n / 16)) + Json.hexValue (Nat.digitChar (n % 16)) = n
      rw [hlast, hfirst, Nat.div_add_mod]

/-! ## Only what can be shown is written -/

theorem isPrintable_of_mem_codePoint {x : Char} (h : x ∈ codePoint c) : isPrintable x = true := by
  rw [codePoint, List.mem_append, List.mem_append] at h
  rcases h with (h | h) | h
  · have hstart : "\\u\x7b".toList.all isPrintable = true := by decide
    exact List.all_eq_true.mp hstart x h
  · obtain ⟨d, hd, rfl⟩ := mem_toDigits h
    exact (digits_printable d hd).1
  · obtain rfl := List.mem_singleton.mp h
    decide

theorem isPrintable_of_mem_escape {x : Char} (h : x ∈ escape c) : isPrintable x = true := by
  have hmarked : ∀ {letter}, ['\\', letter].all isPrintable = true → x ∈ ['\\', letter] →
      isPrintable x = true := fun hall hx => List.all_eq_true.mp hall x hx
  unfold escape at h
  split_ifs at h with _ _ _ _ _ _ hcode
  · exact hmarked (by decide) h
  · exact hmarked (by decide) h
  · exact hmarked (by decide) h
  · exact hmarked (by decide) h
  · exact hmarked (by decide) h
  · exact hmarked (by decide) h
  · exact isPrintable_of_mem_codePoint h
  · obtain rfl := List.mem_singleton.mp h
    -- a character stands for itself only if it can be shown
    simp only [Bool.or_eq_true, Bool.not_eq_true', not_or, Bool.not_eq_false] at hcode
    exact hcode.2

/-- **A quoted text holds printable characters only.** -/
theorem isPrintable_of_mem_quoted {text : String} {x : Char} (h : x ∈ (quoted text).toList) :
    isPrintable x = true := by
  rw [quoted, String.toList_ofList, List.mem_cons, List.mem_append] at h
  rcases h with rfl | h | h
  · decide
  · obtain ⟨c, _, hx⟩ := List.mem_flatMap.mp h
    exact isPrintable_of_mem_escape hx
  · obtain rfl := List.mem_singleton.mp h
    decide

theorem not_mem_of_isPrintable {text : List Char} (h : ∀ x ∈ text, isPrintable x = true)
    (hc : isPrintable c = false) : c ∉ text := by
  intro hmem
  rw [h c hmem] at hc
  cases hc

/-! ## Reading back -/

/-- Takes the first character off an escaped text; at its end there is none. -/
def unescape : List Char → Option (Char × List Char)
  | '\\' :: 'u' :: '\x7b' :: rest =>
    some (Char.ofNat (hexNumber (rest.takeWhile (· ≠ '\x7d'))),
      (rest.dropWhile (· ≠ '\x7d')).tail)
  | '\\' :: '0' :: rest => some ('\x00', rest)
  | '\\' :: 't' :: rest => some ('\t', rest)
  | '\\' :: 'n' :: rest => some ('\n', rest)
  | '\\' :: 'r' :: rest => some ('\r', rest)
  | '\\' :: c :: rest => some (c, rest)
  | '"' :: _ => none
  | c :: rest => some (c, rest)
  | [] => none

theorem unescape_codePoint (c : Char) (rest : List Char) :
    unescape (codePoint c ++ rest) = some (c, rest) := by
  have hdigits : ∀ d ∈ Nat.toDigits 16 c.toNat, decide (d ≠ '\x7d') = true := by
    intro d hd
    obtain ⟨k, hk, rfl⟩ := mem_toDigits hd
    exact decide_eq_true (digits_printable k hk).2.1
  have htext : codePoint c ++ rest
      = '\\' :: 'u' :: '\x7b' :: (Nat.toDigits 16 c.toNat ++ '\x7d' :: rest) := by
    simp [codePoint]
  rw [htext, unescape, List.takeWhile_append_of_pos hdigits, List.dropWhile_append_of_pos hdigits]
  -- the digits end at the brace
  simp [hexNumber_toDigits]

theorem unescape_plain (hquote : c ≠ '"') (hslash : c ≠ '\\') (rest : List Char) :
    unescape (c :: rest) = some (c, rest) := by
  unfold unescape
  split <;> simp_all

/-- An escaped character can be read back, whatever follows it. -/
theorem unescape_escape (c : Char) (rest : List Char) :
    unescape (escape c ++ rest) = some (c, rest) := by
  unfold escape
  split_ifs with hquote hslash hzero ht hn hr
  · subst hquote; rfl
  · subst hslash; rfl
  · subst hzero; rfl
  · subst ht; rfl
  · subst hn; rfl
  · subst hr; rfl
  · exact unescape_codePoint c rest
  · exact unescape_plain hquote hslash rest

/-- **Quoted texts that are written alike are the same**, and so is what follows them. -/
theorem quoted_append_inj {a b : String} {s s' : List Char}
    (h : (quoted a).toList ++ s = (quoted b).toList ++ s') : a = b ∧ s = s' := by
  have hopen : ∀ (text : String) (s : List Char),
      (quoted text).toList ++ s = '"' :: (text.toList.flatMap escape ++ '"' :: s) := by
    intro text s
    simp [quoted]
  rw [hopen, hopen] at h
  obtain ⟨htext, hs⟩ := coded_append_inj unescape_escape (fun _ => rfl) (List.cons.inj h).2
  exact ⟨String.toList_inj.mp htext, hs⟩

end SearchQuery.Text
