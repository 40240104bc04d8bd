import Mathlib.Data.List.Count
import SearchQuery.Proofs.Token.Balance

/-!
# Which groups are open outside quotes

To a reader of tokens a parenthesis between double quotes is text, and a single quote
is always text. The repair has all of them on one list, innermost first. `level?`
follows a list of marks with the eyes of the reader, and `level?_body` compares the
two: where the repair has `opened` open, the reader has the parentheses of it that were
opened outside double quotes, and the openers put in front that are still to be used up.

The two part in one place. A `)` for which the repair puts an opener in front may
stand between quotes. The reader takes the opener and not the `)`, so one group is
left open at the end: `lost` counts these. What matters most is what cannot happen:
no `)` outside quotes is ever met with no group open.
-/

namespace SearchQuery

open Repair

namespace Mark

/--
Where a reader stands after some marks: whether it is between quotes, and how many
groups are open. There is nothing to tell where a closer outside quotes finds no group.
-/
def level? : Bool → Nat → List Mark → Option (Bool × Nat)
  | quoted, n, [] => some (quoted, n)
  | quoted, n, .quote :: marks => level? (!quoted) n marks
  | true, n, .opener :: marks => level? true n marks
  | true, n, .closer :: marks => level? true n marks
  | false, n, .opener :: marks => level? false (n + 1) marks
  | false, 0, .closer :: _ => none
  | false, n + 1, .closer :: marks => level? false n marks

end Mark

namespace Repair

variable {o : Options} {opened : List Delimiter} {c : Char} {d : Delimiter}

/-- Whether a double quote is open. -/
def quoted (opened : List Delimiter) : Bool := decide (.doubleQuote ∈ opened)

/-- How many of the open parentheses were opened outside double quotes. -/
def groups : List Delimiter → Nat
  | [] => 0
  | .paren :: opened => if quoted opened then groups opened else groups opened + 1
  | _ :: opened => groups opened

/-- How many `)` of the text are met with a double quote open and no parenthesis. -/
def lost (o : Options) (opened : List Delimiter) : List Char → Nat
  | [] => 0
  | c :: rest =>
    (if c = ')' ∧ .paren ∉ opened ∧ quoted opened then 1 else 0) + lost o (next o opened c) rest

theorem quoted_cons_of_ne (h : d ≠ .doubleQuote) : quoted (d :: opened) = quoted opened := by
  rw [quoted, quoted, decide_eq_decide, List.mem_cons]
  exact or_iff_right h.symm

theorem groups_cons_of_ne (h : d ≠ .paren) : groups (d :: opened) = groups opened := by
  cases d with
  | paren => exact absurd rfl h
  | doubleQuote => rfl
  | singleQuote => rfl

theorem groups_of_not_mem (h : .paren ∉ opened) : groups opened = 0 := by
  induction opened with
  | nil => rfl
  | cons d opened ih =>
    have hd : d ≠ .paren := fun he => h (he ▸ List.mem_cons_self)
    rw [groups_cons_of_ne hd, ih fun hm => h (List.mem_cons_of_mem d hm)]

/-- Only one double quote is ever open. -/
theorem count_next (h : opened.count .doubleQuote ≤ 1) :
    (next o opened c).count .doubleQuote ≤ 1 := by
  rcases body_cons_cases o opened c [] with
    ⟨_, _, _, hnext⟩ | ⟨d, _, _, hn, _, _, hnext⟩ | ⟨d, top, bottom, _, _, rfl, _, _, _, hnext⟩ |
    ⟨_, _, _, _, hnext⟩ <;> rw [hnext]
  · exact h
  · by_cases hd : d = .doubleQuote
    · subst hd
      -- a double quote opens only where none is open
      have hone : (Delimiter.doubleQuote :: opened).count .doubleQuote = 1 := by
        rw [List.count_cons_self, List.count_eq_zero.mpr (hn (by decide))]
      exact Nat.le_of_eq hone
    · rw [List.count_cons_of_ne hd]
      exact h
  · rw [List.append_cons, List.count_append] at h
    omega
  · exact h

/-! ## The reader and the open delimiters -/

/-- An opener that is no quote opens a group for the reader, unless the reader is between quotes. -/
theorem level?_opener (opened : List Delimiter) (n : Nat) (marks : List Mark) :
    Mark.level? (quoted opened) (groups opened + n) (.opener :: marks)
      = Mark.level? (quoted opened) (groups (.paren :: opened) + n) marks := by
  rw [groups]
  cases quoted opened with
  | true => rfl
  | false => rw [if_neg Bool.false_ne_true, Nat.add_right_comm]; rfl

/-- A closer closes the group that its opener made for the reader. -/
theorem level?_closer (opened : List Delimiter) (n : Nat) (marks : List Mark) :
    Mark.level? (quoted opened) (groups (.paren :: opened) + n) (.closer :: marks)
      = Mark.level? (quoted opened) (groups opened + n) marks := by
  rw [groups]
  cases quoted opened with
  | true => rfl
  | false => rw [if_neg Bool.false_ne_true, Nat.add_right_comm]; rfl

/-- The closers of what is open close the groups that it makes for the reader. -/
theorem level?_closers (top bottom : List Delimiter) (n : Nat) (marks : List Mark)
    (h : (top ++ bottom).count .doubleQuote ≤ 1) :
    Mark.level? (quoted (top ++ bottom)) (groups (top ++ bottom) + n)
        (Mark.inText (top.map Delimiter.closer) ++ marks)
      = Mark.level? (quoted bottom) (groups bottom + n) marks := by
  induction top with
  | nil => rfl
  | cons d top ih =>
    rw [List.cons_append] at h ⊢
    cases d with
    | doubleQuote =>
      rw [List.count_cons_self] at h
      -- the quote that is closed was the only one, so the reader is outside quotes behind it
      have hone : (top ++ bottom).count .doubleQuote = 0 := by omega
      have hn : quoted (top ++ bottom) = false := decide_eq_false (List.count_eq_zero.mp hone)
      have hi := ih (by omega)
      rw [hn] at hi
      rw [quoted, decide_eq_true List.mem_cons_self]
      exact hi
    | singleQuote =>
      rw [List.count_cons_of_ne (by decide)] at h
      rw [quoted_cons_of_ne (by decide)]
      exact ih h
    | paren =>
      rw [List.count_cons_of_ne (by decide)] at h
      rw [quoted_cons_of_ne (by decide)]
      exact (level?_closer _ n _).trans (ih h)

/--
**The level of the written body.** The reader starts with the groups that are open to
it, the openers still to be used up, and `n` more. It is outside quotes at the end, and
the groups then left open are the `n` and those whose `)` were lost in quotes.
-/
theorem level?_body (o : Options) (opened : List Delimiter) (text : List Char) (n : Nat)
    (h : opened.count .doubleQuote ≤ 1) :
    Mark.level? (quoted opened) (groups opened + (unmatched o opened text + n))
        (Mark.inText (body o opened text)) = some (false, lost o opened text + n) := by
  induction text generalizing opened n with
  | nil =>
    have hclose := level?_closers opened [] n [] (by simpa using h)
    simpa [body, quoted, unmatched, lost, groups, Mark.level?] using hclose
  | cons c rest ih =>
    have hi := fun n => ih (next o opened c) n (count_next h)
    rcases body_cons_cases o opened c rest with
      ⟨hc, hb, hu, hnext⟩ | ⟨d, _, rfl, hd, hb, hu, hnext⟩ |
      ⟨d, top, bottom, _, rfl, rfl, _, hb, hu, hnext⟩ | ⟨rfl, hp, hb, hu, hnext⟩ <;>
      rw [hnext] at hi <;> rw [hb, hu, lost, hnext]
    · rw [if_neg fun he => hc.2.2 he.1, Nat.zero_add, Mark.inText,
        List.filterMap_cons_none (ofChar?_ordinary hc)]
      exact hi n
    · -- no opener is a `)`, so none is lost here
      have hclose : d.opener ≠ ')' := by cases d <;> decide
      rw [if_neg fun he => hclose he.1, Nat.zero_add, ← hi n]
      cases d with
      | paren =>
        rw [quoted_cons_of_ne (by decide)]
        exact level?_opener opened _ _
      | doubleQuote =>
        -- the quote was not open, so it takes the reader from outside to between quotes
        have hout : quoted opened = false := decide_eq_false (hd (by decide))
        have hin : quoted (.doubleQuote :: opened) = true := decide_eq_true List.mem_cons_self
        rw [hout, hin]
        rfl
      | singleQuote =>
        rw [quoted_cons_of_ne (by decide)]
        rfl
    · -- what is closed was open, so the closer is not lost
      have hmem : ¬ (d.closer = ')' ∧ .paren ∉ top ++ d :: bottom ∧ quoted (top ++ d :: bottom)) := by
        rintro ⟨hc, hp, _⟩
        have hd : d = .paren := Delimiter.closer_inj (e := .paren) |>.mp hc
        exact hp (hd ▸ List.mem_append_right top List.mem_cons_self)
      rw [if_neg hmem, Nat.zero_add, Mark.inText_append, ← hi n]
      rw [List.append_cons] at h ⊢
      exact level?_closers (top ++ [d]) bottom _ _ h
    · have hg : groups opened = 0 := groups_of_not_mem hp
      rw [hg] at hi
      rw [hg, Nat.zero_add]
      cases hq : quoted opened with
      | true =>
        -- between quotes the `)` is text, and its opener stays behind
        have hstay := hi (n + 1)
        rw [hq, Nat.zero_add] at hstay
        rw [if_pos ⟨rfl, hp, rfl⟩, show unmatched o opened rest + 1 + n
          = unmatched o opened rest + (n + 1) by omega, show 1 + lost o opened rest + n
          = lost o opened rest + (n + 1) by omega]
        exact hstay
      | false =>
        have hstay := hi n
        rw [hq, Nat.zero_add] at hstay
        rw [if_neg fun he => Bool.false_ne_true he.2.2, Nat.zero_add, Nat.add_right_comm]
        exact hstay

/-- Openers outside quotes open groups. -/
theorem level?_openers (k n : Nat) (marks : List Mark) :
    Mark.level? false n (Mark.inText (List.replicate k '(') ++ marks)
      = Mark.level? false (n + k) marks := by
  induction k generalizing n with
  | zero => rfl
  | succ k ih =>
    rw [← Nat.add_assoc, Nat.add_right_comm]
    exact ih (n + 1)

/-- **The level of a repaired query.** Only groups whose `)` were lost in quotes are left open. -/
theorem level?_chars (o : Options) (text : List Char) :
    Mark.level? false 0 (Mark.inText (chars o text)) = some (false, lost o [] text) := by
  have hbody := level?_body o [] text 0 (Nat.zero_le 1)
  rw [groups, Nat.add_zero, Nat.add_zero] at hbody
  rw [chars, Mark.inText_append, level?_openers]
  exact hbody

end Repair

/-! ## At the top -/

/-- **The level of the tokens of a query**: no `)` outside quotes is met with no group open. -/
theorem Mark.level?_tokenize (o : Options) (query : String) :
    Mark.level? false 0 (Mark.inTokens (tokenize o query))
      = some (false, lost o [] query.toList) := by
  rw [Mark.inTokens_tokenize, level?_chars]

end SearchQuery
