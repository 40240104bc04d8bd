import Mathlib.Data.List.Count
import SearchQuery.Proofs.Reading.Terms
import SearchQuery.Proofs.Repair.Completeness

/-!
# Parentheses between quotes

A parenthesis between double quotes is text, so a query with all its parentheses between
quotes should have no groups. Quotes and parentheses go on one list in the repair, though,
and what it writes for such a query has to be read again: `openers_body` says that the body
still has no `(` outside quotes. A `(` that is left open between quotes gets its `)` before
the quote closes, and stays text.

The openers put in front are another matter. They stand outside quotes, so each of them
opens a group, and the `)` that it was meant for is text and never closes it. A query whose
parentheses are all between quotes has as many groups besides the whole query as it has such
`)`, and none exactly when no `)` strays into a quote, which is also when one repair is
enough.
-/

namespace SearchQuery

/--
Every parenthesis of the text has an odd number of double quotes before it, when `quotes`
stand before the text.
-/
def ParensQuoted (quotes : Nat) (text : List Char) : Prop :=
  ∀ i < text.length, text[i]? = some '(' ∨ text[i]? = some ')' →
    (quotes + (text.take i).count '"') % 2 = 1

instance (quotes : Nat) (text : List Char) : Decidable (ParensQuoted quotes text) :=
  inferInstanceAs (Decidable (∀ i < text.length, _))

variable {quotes : Nat} {o : Options} {opened : List Delimiter} {c : Char} {rest : List Char}

theorem parensQuoted_cons_iff :
    ParensQuoted quotes (c :: rest) ↔ (c = '(' ∨ c = ')' → quotes % 2 = 1)
      ∧ ParensQuoted (if c = '"' then quotes + 1 else quotes) rest := by
  have hcount : ∀ i, quotes + ((c :: rest).take (i + 1)).count '"'
      = (if c = '"' then quotes + 1 else quotes) + (rest.take i).count '"' := by
    intro i
    rw [List.take_succ_cons]
    by_cases hc : c = '"'
    · rw [if_pos hc, hc, List.count_cons_self]
      omega
    · rw [if_neg hc, List.count_cons_of_ne hc]
  constructor
  · intro h
    refine ⟨fun hc => ?_, fun i hi hp => ?_⟩
    · have hfirst := h 0 (Nat.succ_pos _) (hc.imp (congrArg some) (congrArg some))
      exact hfirst
    · have hlater := h (i + 1) (Nat.succ_lt_succ hi) hp
      rwa [hcount] at hlater
  · rintro ⟨hfirst, hlater⟩ i hi hp
    cases i with
    | zero => exact hfirst (hp.imp Option.some.inj Option.some.inj)
    | succ i =>
      rw [hcount]
      exact hlater i (Nat.lt_of_succ_lt_succ hi) hp

/-! ## Openers outside quotes -/

namespace Mark

/-- How many openers stand outside quotes. -/
def openers : Bool → List Mark → Nat
  | _, [] => 0
  | quoted, .quote :: marks => openers (!quoted) marks
  | true, .opener :: marks => openers true marks
  | false, .opener :: marks => openers false marks + 1
  | quoted, .closer :: marks => openers quoted marks

theorem openers_inText_openers (k : Nat) (marks : List Mark) :
    openers false (inText (List.replicate k '(') ++ marks) = openers false marks + k := by
  induction k with
  | zero => rfl
  | succ k ih => exact congrArg (· + 1) ih

/-- The tokens that open groups are the openers outside quotes. -/
theorem openers_inTokens (quotes : Nat) (tokens : List Token) :
    (outside quotes tokens).countP (·.kind = .parenOpen)
      = openers (decide (quotes % 2 = 1)) (inTokens tokens) := by
  induction tokens generalizing quotes with
  | nil => rfl
  | cons token rest ih =>
    rw [outside, inTokens_cons]
    by_cases hq : token.kind = .quote
    · have hskip : openers (decide (quotes % 2 = 1)) (.quote :: inTokens rest)
          = (outside (quotes + 1) rest).countP (·.kind = .parenOpen) := by
        rw [ih (quotes + 1), ← Quoting.not_decide_odd, openers]
      rw [if_pos hq, hq]
      -- a quote opens no group on either side, it only turns the parity
      refine Eq.trans ?_ hskip.symm
      split
      · exact List.countP_cons_of_neg (by rw [hq]; decide)
      · rfl
    · rw [if_neg hq]
      by_cases heven : quotes % 2 = 0
      · have hout : decide (quotes % 2 = 1) = false := decide_eq_false (by omega)
        have hi := ih quotes
        rw [hout] at hi
        rw [if_pos heven, hout, List.countP_cons, hi]
        cases hk : token.kind with
        | quote => exact absurd hk hq
        | _ => rfl
      · have hin : decide (quotes % 2 = 1) = true := decide_eq_true (by omega)
        have hi := ih quotes
        rw [hin] at hi
        rw [if_neg heven, hin, hi]
        cases hk : token.kind with
        | quote => exact absurd hk hq
        | _ => rfl

end Mark

/-! ## What the repair writes stays between quotes -/

namespace Repair

theorem groups_le_append (top bottom : List Delimiter) :
    groups bottom ≤ groups (top ++ bottom) := by
  induction top with
  | nil => exact Nat.le_refl _
  | cons d top ih =>
    rw [List.cons_append]
    cases d with
    | paren =>
      rw [groups]
      split
      · exact ih
      · exact Nat.le_succ_of_le ih
    | doubleQuote => exact ih
    | singleQuote => exact ih

/--
What the repair has open at some place of a text with all parentheses between quotes, where
`quotes` stand before that place: it is between quotes when a reader is, and of the
parentheses none was opened outside.
-/
structure CountsQuotes (o : Options) (opened : List Delimiter) (quotes : Nat) : Prop where
  /-- Single quotes are not in use; one could close a double quote early. -/
  single : o.singleQuotes = false
  one : opened.count .doubleQuote ≤ 1
  groups : groups opened = 0
  quoted : quoted opened = decide (quotes % 2 = 1)

theorem countsQuotes_start : CountsQuotes ⟨false⟩ [] 0 := ⟨rfl, Nat.zero_le 1, rfl, rfl⟩

theorem CountsQuotes.quoted_paren (h : CountsQuotes o opened quotes) (hodd : quotes % 2 = 1) :
    Repair.quoted opened = true :=
  h.quoted.trans (decide_eq_true hodd)

theorem CountsQuotes.uses_ne (h : CountsQuotes o opened quotes) {d : Delimiter} (hu : o.Uses d) :
    d ≠ .singleQuote := by
  rintro rfl
  rw [Options.Uses, h.single] at hu
  cases hu

/-- A parenthesis that may stand there opens no group, and none is left over by what is closed. -/
theorem CountsQuotes.groups_next (h : CountsQuotes o opened quotes)
    (hc : c = '(' ∨ c = ')' → quotes % 2 = 1) : Repair.groups (next o opened c) = 0 := by
  rcases body_cons_cases o opened c [] with ⟨_, _, _, hnext⟩ | ⟨d, _, rfl, _, _, _, hnext⟩ |
    ⟨d, top, bottom, _, rfl, rfl, _, _, _, hnext⟩ | ⟨rfl, _, _, _, hnext⟩ <;> rw [hnext]
  · exact h.groups
  · cases d with
    | paren =>
      rw [Repair.groups, if_pos (h.quoted_paren (hc (.inl rfl)))]
      exact h.groups
    | doubleQuote => exact h.groups
    | singleQuote => exact h.groups
  · have hle := groups_le_append (top ++ [d]) bottom
    rw [List.append_assoc] at hle
    -- what stays open is the bottom of a list without groups
    exact Nat.eq_zero_of_le_zero (h.groups ▸ hle)
  · exact h.groups

/-- The repair is between quotes when an odd number of them has been read. -/
theorem CountsQuotes.quoted_next (h : CountsQuotes o opened quotes)
    (hc : c = '(' ∨ c = ')' → quotes % 2 = 1) :
    Repair.quoted (next o opened c)
      = decide ((if c = '"' then quotes + 1 else quotes) % 2 = 1) := by
  rcases body_cons_cases o opened c [] with ⟨hord, _, _, hnext⟩ | ⟨d, hu, rfl, hn, _, _, hnext⟩ |
    ⟨d, top, bottom, hu, rfl, rfl, hd, _, _, hnext⟩ | ⟨rfl, _, _, _, hnext⟩ <;> rw [hnext]
  · rw [if_neg (show c ≠ '"' from hord.ne_closer (d := .doubleQuote) trivial)]
    exact h.quoted
  · cases d with
    | paren =>
      rw [quoted_cons_of_ne (by decide)]
      exact h.quoted
    | doubleQuote =>
      have hout : Repair.quoted opened = false := decide_eq_false (hn (by decide))
      have hin : Repair.quoted (.doubleQuote :: opened) = true :=
        decide_eq_true List.mem_cons_self
      rw [hin, show Delimiter.doubleQuote.opener = '"' from rfl, if_pos rfl,
        ← Quoting.not_decide_odd, ← h.quoted, hout]
      rfl
    | singleQuote => exact absurd rfl (h.uses_ne hu)
  · cases d with
    | paren =>
      -- the `(` that is closed was opened between quotes, so they are still open
      have hq : Repair.quoted bottom = true := by
        have hle := groups_le_append top (.paren :: bottom)
        rw [h.groups, Repair.groups] at hle
        by_contra hout
        rw [if_neg hout] at hle
        cases hle
      rw [hq]
      exact (decide_eq_true (hc (.inr rfl))).symm
    | doubleQuote =>
      have hin : Repair.quoted (top ++ .doubleQuote :: bottom) = true :=
        decide_eq_true (List.mem_append_right top List.mem_cons_self)
      -- of the one double quote on the list nothing is left below, so closing it leads outside
      have hone := h.one
      rw [List.count_append, List.count_cons_self] at hone
      have hout : Repair.quoted bottom = false :=
        decide_eq_false (List.count_eq_zero.mp (by omega))
      rw [hout, show Delimiter.doubleQuote.closer = '"' from rfl, if_pos rfl,
        ← Quoting.not_decide_odd, ← h.quoted, hin]
      rfl
    | singleQuote => exact absurd rfl (h.uses_ne hu)
  · exact h.quoted

/--
**The repair goes on counting quotes as a reader does**, past any character that may
stand there.
-/
theorem CountsQuotes.next (h : CountsQuotes o opened quotes)
    (hc : c = '(' ∨ c = ')' → quotes % 2 = 1) :
    CountsQuotes o (next o opened c) (if c = '"' then quotes + 1 else quotes) :=
  ⟨h.single, count_next h.one, h.groups_next hc, h.quoted_next hc⟩

/-- Closers open nothing; they leave the quotes that they close. -/
theorem openers_closers (top bottom : List Delimiter) (marks : List Mark)
    (h : (top ++ bottom).count .doubleQuote ≤ 1) :
    Mark.openers (quoted (top ++ bottom)) (Mark.inText (top.map Delimiter.closer) ++ marks)
      = Mark.openers (quoted bottom) marks := by
  induction top with
  | nil => rfl
  | cons d top ih =>
    rw [List.cons_append] at h ⊢
    cases d with
    | doubleQuote =>
      rw [List.count_cons_self] at h
      -- this is the only quote, so what is closed after it stands outside, as does the bottom
      have hone : (top ++ bottom).count .doubleQuote = 0 := by omega
      have hout : quoted (top ++ bottom) = false := decide_eq_false (List.count_eq_zero.mp hone)
      have hi := ih (by omega)
      rw [hout] at hi
      rw [quoted, decide_eq_true List.mem_cons_self]
      exact hi
    | singleQuote =>
      rw [List.count_cons_of_ne (by decide)] at h
      rw [quoted_cons_of_ne (by decide)]
      exact ih h
    | paren =>
      rw [List.count_cons_of_ne (by decide)] at h
      rw [quoted_cons_of_ne (by decide)]
      cases hq : quoted (top ++ bottom) with
      | true => rw [hq] at ih; exact ih h
      | false => rw [hq] at ih; exact ih h

/--
**The body has no opener outside quotes** when all parentheses of the text are between
quotes.
-/
theorem openers_body (h : CountsQuotes o opened quotes) (text : List Char)
    (ht : ParensQuoted quotes text) :
    Mark.openers (quoted opened) (Mark.inText (body o opened text)) = 0 := by
  induction text generalizing opened quotes with
  | nil =>
    -- at the end everything is closed at once, and closers open nothing
    have hclose := openers_closers opened [] [] (by rw [List.append_nil]; exact h.one)
    rw [List.append_nil, List.append_nil] at hclose
    exact hclose
  | cons c rest ih =>
    obtain ⟨hc, hrest⟩ := parensQuoted_cons_iff.mp ht
    have hi := ih (h.next hc) hrest
    rcases body_cons_cases o opened c rest with
      ⟨hord, hb, _, hnext⟩ | ⟨d, hu, rfl, hn, hb, _, hnext⟩ |
      ⟨d, top, bottom, _, rfl, rfl, _, hb, _, hnext⟩ | ⟨rfl, _, hb, _, hnext⟩ <;>
      rw [hnext] at hi <;> rw [hb]
    · rw [Mark.inText, List.filterMap_cons_none (ofChar?_ordinary hord)]
      exact hi
    · cases d with
      | paren =>
        have hin : quoted opened = true := h.quoted_paren (hc (.inl rfl))
        rw [quoted_cons_of_ne (by decide), hin] at hi
        rw [hin]
        exact hi
      | doubleQuote =>
        have hout : quoted opened = false := decide_eq_false (hn (by decide))
        have hin : quoted (.doubleQuote :: opened) = true := decide_eq_true List.mem_cons_self
        rw [hin] at hi
        rw [hout]
        exact hi
      | singleQuote => exact absurd rfl (h.uses_ne hu)
    · have hone := h.one
      rw [List.append_cons] at hone ⊢
      rw [Mark.inText_append, openers_closers (top ++ [d]) bottom _ hone]
      exact hi
    · exact hi

/-- Openers are put in front exactly when a `)` strays into a quote. -/
theorem unmatched_eq_zero_iff (h : CountsQuotes o opened quotes) {text : List Char}
    (ht : ParensQuoted quotes text) :
    unmatched o opened text = 0 ↔ ¬ StraysIntoQuote o opened text := by
  induction text generalizing opened quotes with
  | nil => exact iff_of_true rfl not_straysIntoQuote_nil
  | cons c rest ih =>
    obtain ⟨hc, hrest⟩ := parensQuoted_cons_iff.mp ht
    rw [unmatched, straysIntoQuote_cons_iff, not_or, Nat.add_eq_zero_iff, ih (h.next hc) hrest]
    refine and_congr_left' ⟨fun hzero => ?_, fun hnot => if_neg fun he => ?_⟩
    · rintro ⟨rfl, hp, _⟩
      rw [if_pos (effect_eq_unmatched_iff.mpr ⟨rfl, hp⟩)] at hzero
      cases hzero
    · obtain ⟨rfl, hp⟩ := effect_eq_unmatched_iff.mp he
      -- this `)` stands between quotes, so it has a quote to stray into
      have hin : quoted opened = true := h.quoted_paren (hc (.inr rfl))
      exact hnot ⟨rfl, hp, List.ne_nil_of_mem (of_decide_eq_true hin)⟩

end Repair

/-! ## At the top -/

/--
**A query with all parentheses between quotes has one group for each `)` without a `(` of its
own**, besides the whole query. It has no such group exactly when no `)` strays into a quote,
and then every phrase belongs to the whole query. The last quote may be left open.
-/
theorem size_parse_of_parensQuoted (query : String) (h : ParensQuoted 0 query.toList) :
    (parse ⟨false⟩ query).size = Repair.unmatched ⟨false⟩ [] query.toList + 1
      ∧ ((parse ⟨false⟩ query).size = 1 ↔ ¬ Repair.StraysIntoQuote ⟨false⟩ [] query.toList)
      ∧ (¬ Repair.StraysIntoQuote ⟨false⟩ [] query.toList →
          ∀ i node, (parse ⟨false⟩ query).node? i = some node → node.phrases ≠ [] →
            i = Tree.root) := by
  have hbody := Repair.openers_body Repair.countsQuotes_start query.toList h
  have hsize : (parse ⟨false⟩ query).size = Repair.unmatched ⟨false⟩ [] query.toList + 1 := by
    rw [size_parse, Mark.openers_inTokens, Mark.inTokens_tokenize, Repair.chars, Mark.inText_append]
    rw [Nat.zero_mod, decide_eq_false Nat.zero_ne_one, Mark.openers_inText_openers,
      show Mark.openers false (Mark.inText (Repair.body ⟨false⟩ [] query.toList)) = 0 from hbody,
      Nat.zero_add]
  have hone : (parse ⟨false⟩ query).size = 1
      ↔ ¬ Repair.StraysIntoQuote ⟨false⟩ [] query.toList := by
    rw [hsize, ← Repair.unmatched_eq_zero_iff Repair.countsQuotes_start h]
    omega
  refine ⟨hsize, hone, fun hstray i node hn _ => ?_⟩
  have hlt := Tree.lt_size_of_node? hn
  rw [hone.mpr hstray] at hlt
  exact Nat.lt_one_iff.mp hlt

/-- A `(` left open between quotes stays there: the query has no group. -/
theorem size_parse_quoted_opener :
    ParensQuoted 0 "x \"-a (b\" or \"(c) (\"".toList
      ∧ (parse ⟨false⟩ "x \"-a (b\" or \"(c) (\"").size = 1 := by
  have h : ParensQuoted 0 "x \"-a (b\" or \"(c) (\"".toList := by decide
  refine ⟨h, (size_parse_of_parensQuoted _ h).1.trans ?_⟩
  decide

/-- A `)` between two quotes has its opener put in front of both, where it opens a group. -/
theorem size_parse_quoted_closer :
    "\")\"".toList.count '"' % 2 = 0 ∧ ParensQuoted 0 "\")\"".toList
      ∧ (parse ⟨false⟩ "\")\"").size ≠ 1 := by
  decide

end SearchQuery
