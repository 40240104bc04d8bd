import Mathlib.Data.List.Basic
import SearchQuery.Text.Space

/-!
# Trimmed texts and their words

The words of a text are what is left when it is cut at every white space and the empty
pieces are dropped. All that is proved of them comes from two facts: a text may be cut at
one of its white spaces and the words of the two parts taken one after the other
(`words_append_space`), and a text without white space is one word (`words_of_no_space`).

A trimmed text has neither of its ends blank. If it has white space anywhere, there is
something on both sides of it, so it has two words at least; if it has none, it is one word.
That is why one look for white space decides whether a text has to be cut at all.
-/

namespace SearchQuery.Text

variable {text word : List Char} {c : Char}

/-! ## Words are the pieces that are not empty -/

theorem pieces_eq_splitOnP (cut : Char → Bool) (text : List Char) :
    pieces cut text = text.splitOnP cut := by
  induction text with
  | nil => rfl
  | cons c rest ih =>
    rw [pieces, List.splitOnP_cons_eq_if_modifyHead, ← ih]
    obtain ⟨first, more, hrest⟩ := List.exists_cons_of_ne_nil (pieces_ne_nil cut rest)
    rw [hrest]
    rfl

theorem words_eq_splitOnP (text : List Char) :
    words text = (text.splitOnP isSpace).filter (· ≠ []) := by
  rw [words, pieces_eq_splitOnP]
  refine List.filter_congr fun piece _ => ?_
  cases piece <;> rfl

theorem words_append_space (hc : isSpace c = true) (before after : List Char) :
    words (before ++ c :: after) = words before ++ words after := by
  rw [words_eq_splitOnP, words_eq_splitOnP, words_eq_splitOnP,
    List.splitOnP_append_cons before after hc, List.filter_append]

theorem words_of_no_space (hne : text ≠ []) (h : ∀ c ∈ text, isSpace c = false) :
    words text = [text] := by
  have hone : text.splitOnP isSpace = [text] := List.splitOnP_eq_singleton h
  rw [words_eq_splitOnP, hone, List.filter_cons_of_pos (by simpa using hne)]
  rfl

theorem words_ne_nil (h : ∃ c ∈ text, isSpace c = false) : words text ≠ [] := by
  induction text with
  | nil =>
    obtain ⟨c, hc, _⟩ := h
    cases hc
  | cons d rest ih =>
    by_cases hd : isSpace d = true
    · -- a blank in front belongs to no word, and the character is in the rest
      have hcut : words (d :: rest) = words rest := words_append_space hd [] rest
      obtain ⟨c, hc, hs⟩ := h
      rw [hcut]
      refine ih ⟨c, (List.mem_cons.mp hc).resolve_left ?_, hs⟩
      rintro rfl
      rw [hs] at hd
      cases hd
    · -- a character that is no blank joins the first piece of the rest, which is then not empty
      obtain ⟨first, more, hrest⟩ := List.exists_cons_of_ne_nil
        (List.splitOnP_ne_nil isSpace rest)
      rw [words_eq_splitOnP, List.splitOnP_cons_eq_if_modifyHead, if_neg hd, hrest]
      exact List.cons_ne_nil (d :: first) _

/-- A word has characters, and none of them is white space. -/
theorem mem_words (h : word ∈ words text) : word ≠ [] ∧ ∀ c ∈ word, isSpace c = false := by
  obtain ⟨hpiece, hne⟩ := List.mem_filter.mp h
  refine ⟨?_, fun c hc => not_cut_of_mem_pieces hpiece hc⟩
  rintro rfl
  cases hne

/-! ## Trimmed texts -/

/-- There is no white space at either end. -/
structure Trimmed (text : List Char) : Prop where
  first : ∀ c, text.head? = some c → isSpace c = false
  last : ∀ c, text.getLast? = some c → isSpace c = false

theorem first_dropWhile {c : Char} (h : (text.dropWhile isSpace).head? = some c) :
    isSpace c = false := by
  have hhead := List.head?_dropWhile_not isSpace text
  rw [h] at hhead
  exact hhead

theorem trimmed_trim (text : List Char) : Trimmed (trim text) where
  first := by
    intro c hc
    rw [trim, List.head?_reverse] at hc
    -- what is dropped at the end leaves the front as it is
    obtain ⟨dropped, hdropped⟩ :=
      List.dropWhile_suffix isSpace (l := (text.dropWhile isSpace).reverse)
    have hfront : (text.dropWhile isSpace).head? = some c := by
      rw [← List.getLast?_reverse, ← hdropped, List.getLast?_append, hc]
      rfl
    exact first_dropWhile hfront
  last := by
    intro c hc
    rw [trim, List.getLast?_reverse] at hc
    exact first_dropWhile hc

theorem trimmed_of_no_space (h : ∀ c ∈ text, isSpace c = false) : Trimmed text where
  first := fun c hc => h c (List.mem_of_head? hc)
  last := fun c hc => h c (List.mem_of_getLast? hc)

theorem Trimmed.words_ne_nil (h : Trimmed text) (hne : text ≠ []) : words text ≠ [] := by
  cases text with
  | nil => exact absurd rfl hne
  | cons c rest => exact Text.words_ne_nil ⟨c, List.mem_cons_self, h.first c rfl⟩

/-- **A trimmed text with white space in it has two words at least.** -/
theorem Trimmed.two_le_length_words (h : Trimmed text) (hc : c ∈ text) (hs : isSpace c = true) :
    2 ≤ (words text).length := by
  obtain ⟨before, after, rfl⟩ := List.append_of_mem hc
  -- the two ends of the text stand on different sides of the white space
  have hbefore : words before ≠ [] := by
    cases before with
    | nil =>
      have hfirst := h.first c rfl
      rw [hs] at hfirst
      cases hfirst
    | cons d before => exact Text.words_ne_nil ⟨d, List.mem_cons_self, h.first d rfl⟩
  have hafter : words after ≠ [] := by
    rcases List.eq_nil_or_concat after with rfl | ⟨after, d, rfl⟩
    · have hlast := h.last c List.getLast?_concat
      rw [hs] at hlast
      cases hlast
    · rw [List.concat_eq_append, ← List.cons_append, ← List.append_assoc] at h
      have hlast := h.last d List.getLast?_concat
      exact Text.words_ne_nil ⟨d, by simp, hlast⟩
  rw [words_append_space hs, List.length_append]
  have := List.length_pos_iff.mpr hbefore
  have := List.length_pos_iff.mpr hafter
  omega

/-- White space inside is what makes a trimmed text more than one word. -/
theorem Trimmed.two_le_length_words_iff (h : Trimmed text) (hne : text ≠ []) :
    2 ≤ (words text).length ↔ ∃ c ∈ text, isSpace c = true := by
  constructor
  · intro hlen
    by_contra hnone
    -- without white space the whole text is one word, and one is fewer than two
    have hclear : ∀ c ∈ text, isSpace c = false := by
      intro c hc
      exact Bool.eq_false_iff.mpr fun hs => hnone ⟨c, hc, hs⟩
    rw [words_of_no_space hne hclear] at hlen
    have hone : 2 ≤ 1 := hlen
    omega
  · rintro ⟨c, hc, hs⟩
    exact h.two_le_length_words hc hs

end SearchQuery.Text
