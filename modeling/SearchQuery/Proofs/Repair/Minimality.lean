import Mathlib.Data.List.Perm.Basic
import SearchQuery.Proofs.Repair.Passing
import SearchQuery.Proofs.Token.Balance

/-!
# No shorter repair

A text completes a query when the query stands in it, in order, and its parentheses are
balanced. Every repaired query completes the query that was typed (`completes_chars`).
For a query without quotes in use there is no shorter text that does: whatever else was
inserted, and wherever, it is at least as much.

Such a query is repaired at its two ends only (`chars_of_no_quotes`), so what is added
are openers and closers, and both are needed. Somewhere the query has closed as many
parentheses more than it has opened as the repair puts openers in front
(`exists_deficit`), and up to there a balanced text must have inserted that many
openers. The closers it needs are then settled by the totals.
-/

namespace SearchQuery

open Repair

/-- No stretch from the start closes more parentheses than it opens, and the whole closes all. -/
structure ParensBalanced (text : List Char) : Prop where
  count_closer_le : ∀ before, before <+: text → before.count ')' ≤ before.count '('
  count_eq : text.count '(' = text.count ')'

/-- The query stands in the text, in order, and the parentheses of the text are balanced. -/
structure Completes (query text : List Char) : Prop where
  contains : query.Sublist text
  balanced : ParensBalanced text

/-- A text whose height never goes below zero and ends there is balanced. -/
theorem ParensBalanced.of_height? {text : List Char}
    (h : Mark.height? 0 (Mark.inText text) = some 0) : ParensBalanced text where
  count_closer_le := by
    intro before hbefore
    have hle := Mark.count_closer_le h (hbefore.filterMap Mark.ofChar?)
    rw [← Mark.inText, Mark.count_char, Mark.count_char] at hle
    exact hle
  count_eq := (Mark.count_closer_add_text h).symm

namespace Repair

variable {o : Options} {opened : List Delimiter} {c : Char} {text : List Char}

/-- **A repaired query completes the query.** -/
theorem completes_chars (o : Options) (text : List Char) : Completes text (chars o text) where
  contains := (sublist_body o [] text).trans (List.sublist_append_right _ _)
  balanced := .of_height? (height?_chars o text)

/-! ## Queries without quotes -/

/--
Where only parentheses are open and the character is no quote in use, the character is
written as it stands, and only parentheses are open behind it. It may change how many
are open, or lack an opener, in one of four ways.
-/
theorem parens_step (ho : ∀ d ∈ opened, d = .paren) (hc : o.quote? c = none) (rest : List Char) :
    ∃ after, (∀ d ∈ after, d = .paren) ∧ body o opened (c :: rest) = c :: body o after rest
      ∧ ((c ≠ '(' ∧ c ≠ ')' ∧ after.length = opened.length
            ∧ unmatched o opened (c :: rest) = unmatched o after rest)
          ∨ (c = '(' ∧ after.length = opened.length + 1
            ∧ unmatched o opened (c :: rest) = unmatched o after rest)
          ∨ (c = ')' ∧ after.length + 1 = opened.length
            ∧ unmatched o opened (c :: rest) = unmatched o after rest)
          ∨ (c = ')' ∧ opened = [] ∧ after = []
            ∧ unmatched o opened (c :: rest) = unmatched o after rest + 1)) := by
  rcases body_cons_cases o opened c rest with
    ⟨hord, hb, hn, _⟩ | ⟨d, hu, rfl, _, hb, hn, _⟩ | ⟨d, top, bottom, _, rfl, rfl, hd, hb, hn, _⟩ |
    ⟨rfl, hp, hb, hn, _⟩
  · exact ⟨opened, ho, hb, .inl ⟨hord.2.1, hord.2.2, rfl, hn⟩⟩
  · -- what opens is a parenthesis, since a quote in use would be one of the query
    obtain rfl : d = .paren := Decidable.byContradiction fun hd =>
      Options.quote?_eq_none.mp hc d hd hu (Delimiter.opener_eq_closer hd)
    exact ⟨.paren :: opened, List.forall_mem_cons.mpr ⟨rfl, ho⟩, hb, .inr (.inl ⟨rfl, rfl, hn⟩)⟩
  · obtain rfl : d = .paren := ho d (List.mem_append_right top List.mem_cons_self)
    -- nothing but parentheses is open, so the innermost is on top
    obtain rfl : top = [] := List.eq_nil_iff_forall_not_mem.mpr fun e he =>
      hd (ho e (List.mem_append_left _ he) ▸ he)
    exact ⟨bottom, (List.forall_mem_cons.mp ho).2, hb, .inr (.inr (.inl ⟨rfl, rfl, hn⟩))⟩
  · obtain rfl : opened = [] := List.eq_nil_iff_forall_not_mem.mpr fun e he => hp (ho e he ▸ he)
    exact ⟨[], ho, hb, .inr (.inr (.inr ⟨rfl, rfl, rfl, hn⟩))⟩

/-- Without quotes nothing is written into a query, and closers only at its end. -/
theorem body_of_no_quotes (ho : ∀ d ∈ opened, d = .paren) (hq : ∀ c ∈ text, o.quote? c = none) :
    ∃ k, body o opened text = text ++ List.replicate k ')' := by
  induction text generalizing opened with
  | nil =>
    -- at the end all that is open are parentheses, closed one by one
    refine ⟨opened.length, ?_⟩
    rw [body, List.eq_replicate_of_mem ho, List.map_replicate, List.length_replicate]
    rfl
  | cons c rest ih =>
    obtain ⟨hc, hrest⟩ := List.forall_mem_cons.mp hq
    obtain ⟨after, hafter, hbody, _⟩ := parens_step ho hc rest
    obtain ⟨k, hk⟩ := ih hafter hrest
    exact ⟨k, by rw [hbody, hk, List.cons_append]⟩

/-- **Without quotes a query is repaired at its two ends only.** -/
theorem chars_of_no_quotes (hq : ∀ c ∈ text, o.quote? c = none) :
    ∃ k, chars o text = List.replicate (unmatched o [] text) '(' ++ text ++ List.replicate k ')' := by
  obtain ⟨k, hk⟩ := body_of_no_quotes (List.forall_mem_nil _) hq
  exact ⟨k, by rw [chars, hk, List.append_assoc]⟩

/--
**The deepest deficit.** Some stretch from the start of a query closes all that was open
and was opened in it, and as many parentheses more as the repair puts openers in front.
-/
theorem exists_deficit (ho : ∀ d ∈ opened, d = .paren) (hq : ∀ c ∈ text, o.quote? c = none)
    (h : opened = [] ∨ unmatched o opened text ≠ 0) :
    ∃ before, before <+: text
      ∧ before.count ')' = before.count '(' + opened.length + unmatched o opened text := by
  induction text generalizing opened with
  | nil =>
    obtain rfl : opened = [] := h.resolve_right (not_not.mpr rfl)
    exact ⟨[], List.prefix_rfl, rfl⟩
  | cons c rest ih =>
    by_cases hnone : unmatched o opened (c :: rest) = 0
    · -- nothing is put in front, and the empty stretch will do
      obtain rfl : opened = [] := h.resolve_right (not_not.mpr hnone)
      exact ⟨[], List.nil_prefix, by rw [hnone]; rfl⟩
    · obtain ⟨hc, hrest⟩ := List.forall_mem_cons.mp hq
      obtain ⟨after, hafter, _, hstep⟩ := parens_step ho hc rest
      -- the step keeps the side condition: it leaves openers to be put in front, or nothing open
      have hgoes : after = [] ∨ unmatched o after rest ≠ 0 := by
        rcases hstep with ⟨_, _, _, hn⟩ | ⟨_, _, hn⟩ | ⟨_, _, hn⟩ | ⟨_, _, hempty, _⟩
        · exact .inr (hn ▸ hnone)
        · exact .inr (hn ▸ hnone)
        · exact .inr (hn ▸ hnone)
        · exact .inl hempty
      obtain ⟨before, hbefore, hcount⟩ := ih hafter hrest hgoes
      refine ⟨c :: before, (List.prefix_cons_inj c).mpr hbefore, ?_⟩
      rcases hstep with ⟨hno, hnc, hl, hn⟩ | ⟨rfl, hl, hn⟩ | ⟨rfl, hl, hn⟩ | ⟨rfl, rfl, rfl, hn⟩
      · rw [List.count_cons_of_ne hno, List.count_cons_of_ne hnc, hn, hcount, hl]
      · rw [List.count_cons_self, List.count_cons_of_ne (by decide), hn, hcount, hl]
        omega
      · rw [List.count_cons_self, List.count_cons_of_ne (by decide), hn, hcount, ← hl]
        omega
      · rw [List.count_cons_self, List.count_cons_of_ne (by decide), hn, hcount]
        omega

/-! ## What every completion inserts -/

/-- A completion opens as many parentheses more than the query as the repair does. -/
theorem count_opener_le_of_completes {whole : List Char} (hq : ∀ c ∈ text, o.quote? c = none)
    (h : Completes text whole) : text.count '(' + unmatched o [] text ≤ whole.count '(' := by
  obtain ⟨before, ⟨after, rfl⟩, hdeficit⟩ := exists_deficit (List.forall_mem_nil _) hq (.inl rfl)
  obtain ⟨front, back, rfl, hfront, hback⟩ := List.append_sublist_iff.mp h.contains
  -- what the completion has up to the deepest deficit cannot have closed more than it opened
  have hahead := h.balanced.count_closer_le front (List.prefix_append front back)
  have hclosers := hfront.count_le ')'
  have hopeners := hback.count_le '('
  simp only [List.count_append, List.length_nil] at hdeficit ⊢
  omega

theorem count_add_count_le_length (list : List Char) :
    list.count '(' + list.count ')' ≤ list.length := by
  induction list with
  | nil => exact Nat.le_refl 0
  | cons c list ih =>
    by_cases hc : c = '('
    · rw [hc, List.count_cons_self, List.count_cons_of_ne (by decide), List.length_cons]
      omega
    · rw [List.count_cons_of_ne hc, List.count_cons, List.length_cons]
      split <;> omega

/-- **No completion is shorter than the repaired query.** -/
theorem length_chars_le_of_completes {whole : List Char} (hq : ∀ c ∈ text, o.quote? c = none)
    (h : Completes text whole) : (chars o text).length ≤ whole.length := by
  obtain ⟨k, hchars⟩ := chars_of_no_quotes hq
  obtain ⟨inserted, hperm⟩ := h.contains.exists_perm_append
  have hopeners := count_opener_le_of_completes hq h
  have hclosers := h.balanced.count_eq
  have htotals := (completes_chars o text).balanced.count_eq
  have hroom := count_add_count_le_length inserted
  rw [hchars] at htotals
  rw [hperm.count_eq, hperm.count_eq] at hclosers
  rw [hperm.count_eq] at hopeners
  -- of the inserted characters the openers are as many as the repair puts in front, and
  -- the totals leave as many closers to insert as it puts at the end
  simp only [List.count_append, List.count_replicate, beq_iff_eq, Char.reduceEq, if_true, if_false]
    at htotals hclosers hopeners
  rw [hchars, hperm.length_eq]
  simp only [List.length_append, List.length_replicate]
  omega

end Repair

/-! ## At the top -/

/--
**No text that completes a query is shorter than its repair**, for a query in which no
quote in use stands; and the repaired query completes it.
-/
theorem repair_shortest (o : Options) (query : String)
    (hq : ∀ c ∈ query.toList, o.quote? c = none) :
    Completes query.toList (repair o query).toList
      ∧ ∀ whole : String, Completes query.toList whole.toList →
        (repair o query).length ≤ whole.length := by
  rw [← String.length_toList, toList_repair]
  refine ⟨completes_chars o query.toList, fun whole h => ?_⟩
  rw [← String.length_toList (s := whole)]
  exact length_chars_le_of_completes hq h

/-- One opener and one closer are missing, and a longer text has two of each. -/
theorem repair_shortest_stray_closer :
    (∀ c ∈ "it's) (".toList, Options.quote? ⟨false⟩ c = none)
      ∧ Completes "it's) (".toList "(it's) (())".toList
      ∧ (repair ⟨false⟩ "it's) (").length ≤ "(it's) (())".length := by
  have hq : ∀ c ∈ "it's) (".toList, Options.quote? ⟨false⟩ c = none := by simp [Options.quote?]
  have hcompletes : Completes "it's) (".toList "(it's) (())".toList :=
    ⟨by decide, .of_height? (by decide)⟩
  exact ⟨hq, hcompletes, (repair_shortest ⟨false⟩ "it's) (" hq).2 "(it's) (())" hcompletes⟩

end SearchQuery
