import Mathlib.Data.List.Count
import SearchQuery.Proofs.Repair.Effect
import SearchQuery.Proofs.Token.Mark

/-!
# The tokens of a query are balanced

Three counts describe the repaired text of a query while it is read.

* Its height is the number of parentheses that are open. Before the body it is the
  number of openers put in front, and from there on it is the number of parentheses
  open in the repair plus the number of openers still to be used up. It never has to
  go below zero and it ends there: `height?_body`.
* Each kind of quote occurs an even number of times, one that is open counting once
  more: `count_body`. Only quotes in use are closed, so a single quote counts under
  the option for it alone.

Both are inductions over the query with one case for each of the four steps of the
repair. What holds of the characters is carried to the tokens by their marks.
-/

namespace SearchQuery

open Repair

/-! ## Heights -/

namespace Mark

/-- The number of open parentheses after some marks; none where a closer finds nothing open. -/
def height? : Nat → List Mark → Option Nat
  | n, [] => some n
  | n, .quote :: marks => height? n marks
  | n, .opener :: marks => height? (n + 1) marks
  | 0, .closer :: _ => none
  | n + 1, .closer :: marks => height? n marks

theorem height?_append (n : Nat) (marks more : List Mark) :
    height? n (marks ++ more) = (height? n marks).bind (height? · more) := by
  induction marks generalizing n with
  | nil => rfl
  | cons m marks ih =>
    cases m with
    | quote => exact ih n
    -- the opener is counted, and the rest starts one higher
    | opener => exact ih (n + 1)
    | closer =>
      cases n with
      | zero => rfl
      | succ n => exact ih n

/-- What the openers put on the height is what the closers take from it and what is left. -/
theorem count_closer_add {n k : Nat} {marks : List Mark} (h : height? n marks = some k) :
    marks.count .closer + k = marks.count .opener + n := by
  induction marks generalizing n with
  | nil => simpa [height?] using h.symm
  | cons m marks ih =>
    cases m with
    | quote => simpa using ih h
    | opener =>
      have hi := ih (n := n + 1) h
      simp only [List.count_cons, beq_self_eq_true, if_true, reduceCtorEq, beq_iff_eq, if_false]
      omega
    | closer =>
      cases n with
      | zero => simp [height?] at h
      | succ n =>
        have hi := ih (n := n) h
        simp only [List.count_cons, beq_self_eq_true, if_true, reduceCtorEq, beq_iff_eq, if_false]
        omega

theorem count_closer_add_text {n k : Nat} {text : List Char}
    (h : height? n (inText text) = some k) : text.count ')' + k = text.count '(' + n := by
  have hadd := count_closer_add h
  rw [count_char, count_char] at hadd
  exact hadd

/-- Where there is a height at the end, there is one all the way, so closers never run ahead. -/
theorem count_closer_le {n k : Nat} {marks pre : List Mark} (h : height? n marks = some k)
    (hp : pre <+: marks) : pre.count .closer ≤ pre.count .opener + n := by
  obtain ⟨rest, rfl⟩ := hp
  rw [height?_append] at h
  -- there is a height behind the first stretch, so the equation holds there too
  obtain ⟨j, hj, _⟩ := Option.bind_eq_some_iff.mp h
  have := count_closer_add hj
  omega

end Mark

/-! ## The height of a repaired query -/

namespace Repair

variable {o : Options} {opened : List Delimiter} {c : Char} {d : Delimiter}

theorem ofChar?_ordinary (h : Ordinary o c) : Mark.ofChar? c = none :=
  Mark.ofChar?_eq_none (h.ne_closer (d := .doubleQuote) trivial) h.2.1 h.2.2

/-- Closers take as much from the height as they close. -/
theorem height?_closers (top : List Delimiter) (n : Nat) (marks : List Mark) :
    Mark.height? (top.count .paren + n) (Mark.inText (top.map Delimiter.closer) ++ marks)
      = Mark.height? n marks := by
  induction top with
  | nil => rw [List.count_nil, Nat.zero_add]; rfl
  | cons d top ih =>
    cases d with
    | paren =>
      rw [List.count_cons_self, Nat.add_right_comm]
      exact ih
    | doubleQuote => exact ih
    | singleQuote => exact ih

/--
**The height of the written body.** It starts at the parentheses that are open and the
openers still to be used up, and it ends at zero.
-/
theorem height?_body (o : Options) (opened : List Delimiter) (text : List Char) :
    Mark.height? (opened.count .paren + unmatched o opened text)
      (Mark.inText (body o opened text)) = some 0 := by
  induction text generalizing opened with
  | nil => simpa [body, unmatched, Mark.height?] using height?_closers opened 0 []
  | cons c rest ih =>
    rcases body_cons_cases o opened c rest with
      ⟨hc, hb, hn, _⟩ | ⟨d, _, rfl, _, hb, hn, _⟩ | ⟨d, top, bottom, _, _, rfl, _, hb, hn, _⟩ |
      ⟨rfl, hp, hb, hn, _⟩
    · rw [hb, hn, Mark.inText, List.filterMap_cons_none (ofChar?_ordinary hc)]
      exact ih opened
    · rw [hb, hn]
      have := ih (d :: opened)
      cases d with
      | paren =>
        rw [List.count_cons_self, Nat.add_right_comm] at this
        exact this
      | doubleQuote => exact this
      | singleQuote => exact this
    · -- the closers bring the height down to what is open below them
      have hcount : (top ++ d :: bottom).count .paren
          = (top ++ [d]).count .paren + bottom.count .paren := by
        rw [List.append_cons, List.count_append]
      rw [hb, hn, Mark.inText_append, hcount, Nat.add_assoc, height?_closers]
      exact ih bottom
    · -- the `)` uses up one of the openers in front
      rw [hb, hn, ← Nat.add_assoc]
      exact ih opened

/-- Openers add to the height. -/
theorem height?_openers (k n : Nat) (marks : List Mark) :
    Mark.height? n (Mark.inText (List.replicate k '(') ++ marks) = Mark.height? (n + k) marks := by
  induction k generalizing n with
  | zero => rfl
  | succ k ih =>
    rw [← Nat.add_assoc, Nat.add_right_comm]
    exact ih (n + 1)

/-- The openers in front bring a repaired query to the height of its body. -/
theorem height?_chars (o : Options) (text : List Char) :
    Mark.height? 0 (Mark.inText (chars o text)) = some 0 := by
  rw [chars, Mark.inText_append, height?_openers]
  simpa using height?_body o [] text

/-! ## Quotes come in pairs -/

theorem count_closers (opened : List Delimiter) (q : Delimiter) :
    (opened.map Delimiter.closer).count q.closer = opened.count q :=
  List.count_map_of_injective _ _ (fun _ _ h => Delimiter.closer_inj.mp h) _

/-- **A quote in use that is open occurs once more, and all others in pairs.** -/
theorem count_body {q : Delimiter} (hq : q ≠ .paren) (hu : o.Uses q) (text : List Char) :
    ((body o opened text).count q.closer + opened.count q) % 2 = 0 := by
  induction text generalizing opened with
  | nil =>
    rw [body, count_closers]
    omega
  | cons c rest ih =>
    rcases body_cons_cases o opened c rest with
      ⟨hc, hb, _⟩ | ⟨d, _, rfl, _, hb, _⟩ | ⟨d, top, bottom, _, _, rfl, _, hb, _⟩ |
      ⟨rfl, _, hb, _⟩
    · rw [hb, List.count_cons_of_ne (hc.ne_closer hu)]
      exact ih
    · have hi : ((body o (d :: opened) rest).count q.closer + (d :: opened).count q) % 2 = 0 := ih
      rw [hb]
      -- a quote that opens is written once and is open once more
      by_cases hd : d = q
      · subst hd
        rw [Delimiter.opener_eq_closer hq, List.count_cons_self]
        rw [List.count_cons_self] at hi
        omega
      · have hne : d.opener ≠ q.closer := fun h =>
          hd (Delimiter.opener_inj.mp (h.trans (Delimiter.opener_eq_closer hq).symm))
        rw [List.count_cons_of_ne hne]
        rwa [List.count_cons_of_ne hd] at hi
    · -- what is closed is written once and is open once less
      have hi : ((body o bottom rest).count q.closer + bottom.count q) % 2 = 0 := ih
      have hcount : (top ++ d :: bottom).count q = (top ++ [d]).count q + bottom.count q := by
        rw [List.append_cons, List.count_append]
      rw [hb, List.count_append, count_closers, hcount]
      omega
    · -- a `)` is no quote, wherever its opener is put
      have hne : ')' ≠ q.closer := fun h => hq (Delimiter.closer_inj (d := .paren) |>.mp h).symm
      rw [hb, List.count_cons_of_ne hne]
      exact ih

/-- The openers in front are no quotes. -/
theorem count_chars {q : Delimiter} (hq : q ≠ .paren) (hu : o.Uses q) (text : List Char) :
    (chars o text).count q.closer % 2 = 0 := by
  have hne : '(' ≠ q.closer := (Delimiter.closer_ne_paren_opener q).symm
  have hbody : ((body o [] text).count q.closer + [].count q) % 2 = 0 := count_body hq hu text
  rw [chars, List.count_append, List.count_replicate, if_neg (by simpa using hne)]
  simpa using hbody

end Repair

/-! ## At the top -/

/--
**The tokens of a query are balanced.** No stretch from the start closes more groups
than it opens, all of them together close as many as they open, and the quotes are
even in number; so are the single quotes of the repaired query where they count.
-/
theorem tokenize_balanced (o : Options) (query : String) :
    (∀ n, (((tokenize o query).take n).map Token.kind).count .parenClose
        ≤ (((tokenize o query).take n).map Token.kind).count .parenOpen)
      ∧ ((tokenize o query).map Token.kind).count .parenOpen
        = ((tokenize o query).map Token.kind).count .parenClose
      ∧ ((tokenize o query).map Token.kind).count .quote % 2 = 0
      ∧ (repair ⟨true⟩ query).toList.count '\x27' % 2 = 0 := by
  have hheight := height?_chars o query.toList
  rw [← Mark.inTokens_tokenize] at hheight
  refine ⟨fun n => ?_, ?_, ?_, ?_⟩
  · have hpre : Mark.inTokens ((tokenize o query).take n) <+: Mark.inTokens (tokenize o query) :=
      (List.take_prefix n _).filterMap _
    have hle := Mark.count_closer_le hheight hpre
    rw [Mark.count_kind, Mark.count_kind] at hle
    exact hle
  · have hadd := Mark.count_closer_add hheight
    rw [Mark.count_kind, Mark.count_kind] at hadd
    exact hadd.symm
  · have hquote : ((tokenize o query).map Token.kind).count .quote
        = (chars o query.toList).count '"' :=
      calc ((tokenize o query).map Token.kind).count .quote
        _ = (Mark.inTokens (tokenize o query)).count .quote := (Mark.count_kind .quote _).symm
        _ = (Mark.inText (chars o query.toList)).count .quote := by rw [Mark.inTokens_tokenize]
        _ = (chars o query.toList).count '"' := Mark.count_char .quote _
    rw [hquote]
    exact count_chars (q := .doubleQuote) (by decide) trivial query.toList
  · have hlist : (repair ⟨true⟩ query).toList = chars ⟨true⟩ query.toList := String.toList_ofList
    rw [hlist]
    exact count_chars (q := .singleQuote) (by decide) rfl query.toList

end SearchQuery
