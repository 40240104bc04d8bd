import Mathlib.Data.List.Forall2
import SearchQuery.Terminal.Plain
import SearchQuery.Terminal.Style

/-!
# Colours can be taken out again

Colours are put into a text as sequences of an escape character, a bracket, parameters and
the letter `m`. `unpainted` deletes all such sequences, wherever they come from, so it gives
back a text that was painted only if the text had none of its own.

That is what `Shows` says, and it says it of a text together with whatever may follow, because
a sequence at the end of one piece must not run on into the next. So what holds of the pieces
holds of the whole (`Shows.append`), and two kinds of piece are enough: a text without escape
characters, left alone or painted.
-/

namespace SearchQuery.Terminal

variable {painted text more plain : String} {chars rest after : List Char}

/-- Whether a character may stand among the parameters of a sequence. -/
def isParameter (c : Char) : Bool := Sequence.between 0x30 0x3F c

/-- What follows the sequence for colour that a text starts with, if it starts with one. -/
def afterColor? : List Char → Option (List Char)
  | '\x1b' :: '[' :: rest =>
    match rest.dropWhile isParameter with
    | 'm' :: after => some after
    | _ => none
  | _ => none

theorem afterColor?_of_ne {c : Char} (h : c ≠ '\x1b') : afterColor? (c :: rest) = none := by
  unfold afterColor?
  split
  · rename_i heq
    exact absurd (List.cons.inj heq).1 h
  · rfl

theorem length_afterColor? (h : afterColor? chars = some after) :
    after.length < chars.length := by
  unfold afterColor? at h
  split at h
  · rename_i rest
    split at h
    · rename_i heq
      cases h
      -- the rest has the `m` and all that follows it
      have hle := (List.dropWhile_sublist (l := rest) isParameter).length_le
      rw [heq, List.length_cons] at hle
      simp only [List.length_cons]
      omega
    · cases h
  · cases h

/-- The characters of a text without its sequences for colour. -/
def unpaintedChars (chars : List Char) : List Char :=
  match chars with
  | [] => []
  | c :: rest =>
    match _h : afterColor? (c :: rest) with
    | some after => unpaintedChars after
    | none => c :: unpaintedChars rest
termination_by chars.length
decreasing_by
  · exact length_afterColor? _h
  · exact Nat.lt_succ_self rest.length

/-- A text without its sequences for colour. -/
def unpainted (text : String) : String :=
  String.ofList (unpaintedChars text.toList)

theorem unpaintedChars_plain (h : '\x1b' ∉ chars) (rest : List Char) :
    unpaintedChars (chars ++ rest) = chars ++ unpaintedChars rest := by
  induction chars with
  | nil => rfl
  | cons c chars ih =>
    obtain ⟨hc, hchars⟩ := List.ne_and_not_mem_of_not_mem_cons h
    -- no sequence starts at a character that is no escape
    rw [List.cons_append, unpaintedChars]
    split
    · rename_i heq
      rw [afterColor?_of_ne hc.symm] at heq
      cases heq
    · rw [ih hchars]
      rfl

/-- A sequence for colour is deleted as far as it goes and no further. -/
theorem unpaintedChars_sequence (h : ∀ c ∈ chars, isParameter c = true) (rest : List Char) :
    unpaintedChars ('\x1b' :: '[' :: (chars ++ 'm' :: rest)) = unpaintedChars rest := by
  have hafter : afterColor? ('\x1b' :: '[' :: (chars ++ 'm' :: rest)) = some rest := by
    -- the parameters end at the `m`, which is none itself
    have hm : isParameter 'm' = false := by decide
    have hdrop : (chars ++ 'm' :: rest).dropWhile isParameter = 'm' :: rest := by
      rw [List.dropWhile_append_of_pos h, List.dropWhile_cons, hm]
      rfl
    rw [afterColor?, hdrop]
    rfl
  rw [unpaintedChars]
  split
  · rename_i heq
    rw [hafter] at heq
    cases heq
    rfl
  · rename_i heq
    rw [hafter] at heq
    cases heq

/-! ## Pieces of a text -/

/-- With the colours taken out, the first text is the second, whatever follows it. -/
def Shows (painted plain : String) : Prop :=
  ∀ rest, unpaintedChars (painted.toList ++ rest) = plain.toList ++ unpaintedChars rest

/-- A text without escape characters is left as it is. -/
theorem shows_self (h : '\x1b' ∉ text.toList) : Shows text text :=
  fun rest => unpaintedChars_plain h rest

theorem Shows.append {painted' plain' : String} (h : Shows painted plain)
    (h' : Shows painted' plain') : Shows (painted ++ painted') (plain ++ plain') := by
  intro rest
  -- the second piece is part of what follows the first, for which any rest will do
  rw [String.toList_append, String.toList_append, List.append_assoc, h, h', List.append_assoc]

/-- Nothing is shown of a sequence for colour. -/
theorem shows_sequence {parameters : String}
    (h : ∀ c ∈ parameters.toList, isParameter c = true) :
    Shows ("\x1b[" ++ parameters ++ "m") "" := by
  intro rest
  have hsequence : ("\x1b[" ++ parameters ++ "m").toList ++ rest
      = '\x1b' :: '[' :: (parameters.toList ++ 'm' :: rest) := by simp
  rw [hsequence]
  exact unpaintedChars_sequence h rest

theorem shows_code (c : Code) : Shows c.sequence "" := by
  have hparameter : c.parameter.toList.all isParameter = true := by cases c <;> decide
  exact shows_sequence (List.all_eq_true.mp hparameter)

theorem shows_codes (codes : List Code) : Shows (String.join (codes.map Code.sequence)) "" := by
  induction codes with
  | nil => exact shows_self (by decide)
  | cons c codes ih =>
    rw [List.map_cons, String.join_cons]
    exact (shows_code c).append ih

/-- **A painted text shows the text**, whether the painter is on or off. -/
theorem Styler.shows_paint (s : Styler) (codes : List Code) (h : '\x1b' ∉ text.toList) :
    Shows (s.paint codes text) text := by
  unfold Styler.paint
  split
  · -- nothing is shown of the codes in front and of the reset behind
    have hpainted := ((shows_codes codes).append (shows_self h)).append (shows_code .reset)
    rwa [String.empty_append, String.append_empty] at hpainted
  · exact shows_self h

/-- Texts that show others show them when they are joined. -/
theorem shows_join {pieces plains : List String} (h : List.Forall₂ Shows pieces plains) :
    Shows (String.join pieces) (String.join plains) := by
  induction h with
  | nil => exact shows_self (by decide)
  | cons h _ ih =>
    rw [String.join_cons, String.join_cons]
    exact h.append ih

/-- What a text shows is what is left of it without its colours. -/
theorem Shows.unpainted_eq (h : Shows painted plain) : unpainted painted = plain := by
  have hall := h []
  rw [List.append_nil, unpaintedChars, List.append_nil] at hall
  rw [unpainted, hall, String.ofList_toList]

/-- A text that shows another shows it in front of whatever follows. -/
theorem Shows.unpainted_append (h : Shows painted plain) (more : String) :
    unpainted (painted ++ more) = plain ++ unpainted more := by
  rw [unpainted, String.toList_append, h, String.ofList_append, String.ofList_toList, unpainted]

end SearchQuery.Terminal
