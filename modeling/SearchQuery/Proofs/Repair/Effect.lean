import SearchQuery.Query.Repair

/-!
# What a character does to the open delimiters

Everything the repair does hangs on one decision per character: it is ordinary, it
opens a delimiter, it closes one, or it is a `)` with nothing to close.
`effect_cases` makes that decision once and says all there is to know in each case,
so that no later proof opens `effect` again.

A closer may reach below other open delimiters. `above` and `below` cut the open
delimiters at the one it closes, and `above_append_below` says that the cut loses
nothing.
-/

namespace SearchQuery

/-- The delimiters that may open under the options; single quotes have to be asked for. -/
def Options.Uses (o : Options) : Delimiter → Prop
  | .singleQuote => o.singleQuotes = true
  | _ => True

namespace Delimiter

theorem closer_inj {d e : Delimiter} : d.closer = e.closer ↔ d = e := by
  cases d <;> cases e <;> decide

theorem opener_inj {d e : Delimiter} : d.opener = e.opener ↔ d = e := by
  cases d <;> cases e <;> decide

/-- A quote closes itself. -/
theorem opener_eq_closer {d : Delimiter} (h : d ≠ .paren) : d.opener = d.closer := by
  cases d with
  | paren => exact absurd rfl h
  | doubleQuote => rfl
  | singleQuote => rfl

/-- No closer is the opening parenthesis. -/
theorem closer_ne_paren_opener (d : Delimiter) : d.closer ≠ '(' := by
  cases d <;> decide

end Delimiter

/-- The quotes of the options are the delimiters in use other than the parenthesis. -/
theorem Options.quote?_eq_some {o : Options} {c : Char} {d : Delimiter} :
    o.quote? c = some d ↔ d ≠ .paren ∧ o.Uses d ∧ c = d.closer := by
  unfold Options.quote?
  by_cases hd : c = '"'
  · subst hd
    cases d <;> simp [Options.Uses, Delimiter.closer]
  · by_cases hs : c = '\x27'
    · subst hs
      cases d <;> cases ho : o.singleQuotes <;> simp [Options.Uses, Delimiter.closer, ho]
    · cases d <;> simp [Options.Uses, Delimiter.closer, hd, hs]

theorem Options.quote?_eq_none {o : Options} {c : Char} :
    o.quote? c = none ↔ ∀ d, d ≠ .paren → o.Uses d → c ≠ d.closer := by
  rw [Option.eq_none_iff_forall_ne_some]
  constructor
  · intro h d hd hu hc
    exact h d (Options.quote?_eq_some.mpr ⟨hd, hu, hc⟩)
  · intro h d hd
    obtain ⟨hp, hu, hc⟩ := Options.quote?_eq_some.mp hd
    exact h d hp hu hc

namespace Repair

variable {o : Options} {opened : List Delimiter} {c : Char} {d : Delimiter}

/-! ## A character has one of four effects -/

/-- An ordinary character: neither a parenthesis nor a quote in use. -/
def Ordinary (o : Options) (c : Char) : Prop :=
  o.quote? c = none ∧ c ≠ '(' ∧ c ≠ ')'

theorem Ordinary.ne_closer (h : Ordinary o c) (hu : o.Uses d) : c ≠ d.closer := by
  by_cases hd : d = .paren
  · subst hd; exact h.2.2
  · exact Options.quote?_eq_none.mp h.1 d hd hu

theorem effect_ordinary (h : Ordinary o c) : effect o opened c = .plain := by
  unfold effect
  rw [h.1]
  simp only [h.2.1, h.2.2, if_false]

/-- An opener opens, unless it is a quote that is open already. -/
theorem effect_opener (hu : o.Uses d) (hn : d ≠ .paren → d ∉ opened) :
    effect o opened d.opener = .opens d := by
  unfold effect
  by_cases hd : d = .paren
  · subst hd
    -- a quote is its own closer, and no closer is a `(`
    have hq : o.quote? Delimiter.paren.opener = none :=
      Options.quote?_eq_none.mpr fun e _ _ => (Delimiter.closer_ne_paren_opener e).symm
    rw [hq]
    rfl
  · rw [Options.quote?_eq_some.mpr ⟨hd, hu, Delimiter.opener_eq_closer hd⟩]
    exact if_neg (hn hd)

/-- A closer closes the innermost delimiter of its kind. -/
theorem effect_closer (hu : o.Uses d) (hm : d ∈ opened) :
    effect o opened d.closer = .closes d := by
  unfold effect
  by_cases hd : d = .paren
  · subst hd
    have hq : o.quote? Delimiter.paren.closer = none :=
      Options.quote?_eq_none.mpr fun e he _ hc => he (Delimiter.closer_inj.mp hc.symm)
    rw [hq]
    show (if ')' = '(' then _ else if ')' = ')' then _ else _) = _
    rw [if_neg (by decide), if_pos rfl, if_pos hm]
  · rw [Options.quote?_eq_some.mpr ⟨hd, hu, rfl⟩]
    exact if_pos hm

/-- A `)` without an open parenthesis matches nothing. -/
theorem effect_unmatched (hn : .paren ∉ opened) : effect o opened ')' = .unmatched := by
  unfold effect
  have hq : o.quote? ')' = none :=
    Options.quote?_eq_none.mpr fun e he _ hc => he (Delimiter.closer_inj (d := .paren) |>.mp hc).symm
  rw [hq]
  show (if ')' = '(' then _ else if ')' = ')' then _ else _) = _
  rw [if_neg (by decide), if_pos rfl, if_neg hn]

/-- **The four effects**, each with all that it says about the character. -/
theorem effect_cases (o : Options) (opened : List Delimiter) (c : Char) :
    (effect o opened c = .plain ∧ Ordinary o c)
      ∨ (∃ d, effect o opened c = .opens d ∧ o.Uses d ∧ c = d.opener
          ∧ (d ≠ .paren → d ∉ opened))
      ∨ (∃ d, effect o opened c = .closes d ∧ o.Uses d ∧ c = d.closer ∧ d ∈ opened)
      ∨ (effect o opened c = .unmatched ∧ c = ')' ∧ .paren ∉ opened) := by
  cases hq : o.quote? c with
  | some d =>
    obtain ⟨hd, hu, hc⟩ := Options.quote?_eq_some.mp hq
    -- a quote toggles: whether it is open decides between the two
    by_cases hm : d ∈ opened
    · exact .inr (.inr (.inl ⟨d, hc ▸ effect_closer hu hm, hu, hc, hm⟩))
    · have ho : c = d.opener := by rw [hc, Delimiter.opener_eq_closer hd]
      exact .inr (.inl ⟨d, ho ▸ effect_opener hu fun _ => hm, hu, ho, fun _ => hm⟩)
  | none =>
    -- no quote in use, so nothing but a parenthesis can have an effect
    by_cases ho : c = '('
    · exact .inr (.inl ⟨.paren, ho ▸ effect_opener (d := .paren) trivial (absurd rfl), trivial, ho,
        absurd rfl⟩)
    · by_cases hc : c = ')'
      · by_cases hm : Delimiter.paren ∈ opened
        · exact .inr (.inr (.inl ⟨.paren, hc ▸ effect_closer (d := .paren) trivial hm, trivial, hc, hm⟩))
        · exact .inr (.inr (.inr ⟨hc ▸ effect_unmatched hm, hc, hm⟩))
      · exact .inl ⟨effect_ordinary ⟨hq, ho, hc⟩, hq, ho, hc⟩

theorem effect_eq_unmatched_iff : effect o opened c = .unmatched ↔ c = ')' ∧ .paren ∉ opened := by
  constructor
  · intro h
    rcases effect_cases o opened c with ⟨he, _⟩ | ⟨d, he, _⟩ | ⟨d, he, _⟩ | ⟨_, hc, hn⟩
    · rw [he] at h; cases h
    · rw [he] at h; cases h
    · rw [he] at h; cases h
    · exact ⟨hc, hn⟩
  · rintro ⟨rfl, hn⟩
    exact effect_unmatched hn

/-! ## A closer cuts the open delimiters in two -/

theorem not_mem_above : d ∉ above d opened := by
  intro h
  have hall := List.all_takeWhile (p := fun e : Delimiter => decide (e ≠ d)) (l := opened)
  simpa using List.all_eq_true.mp hall d h

/-- The cut loses nothing but the delimiter at which it is made. -/
theorem above_append_below (h : d ∈ opened) :
    above d opened ++ d :: below d opened = opened := by
  unfold above below
  induction opened with
  | nil => simp at h
  | cons e rest ih =>
    by_cases he : e = d
    · subst he; simp
    · have hd : d ∈ rest := (List.mem_cons.mp h).resolve_left (Ne.symm he)
      simpa [he] using ih hd

theorem above_append_cons {top bottom : List Delimiter} (h : d ∉ top) :
    above d (top ++ d :: bottom) = top := by
  have hall : ∀ e ∈ top, decide (e ≠ d) = true := fun e he =>
    decide_eq_true fun hd : e = d => h (hd ▸ he)
  unfold above
  rw [List.takeWhile_append_of_pos hall]
  simp

theorem below_append_cons {top bottom : List Delimiter} (h : d ∉ top) :
    below d (top ++ d :: bottom) = bottom := by
  have hall : ∀ e ∈ top, decide (e ≠ d) = true := fun e he =>
    decide_eq_true fun hd : e = d => h (hd ▸ he)
  unfold below
  rw [List.dropWhile_append_of_pos hall]
  simp

theorem mem_of_mem_below {e : Delimiter} (h : e ∈ below d opened) : e ∈ opened :=
  (List.dropWhile_sublist _).subset (List.mem_of_mem_tail h)

/-- Only delimiters in use are ever open. -/
theorem uses_next (h : ∀ e ∈ opened, o.Uses e) : ∀ e ∈ next o opened c, o.Uses e := by
  intro e he
  rcases effect_cases o opened c with ⟨hc, _⟩ | ⟨d, hc, hu, _, _⟩ | ⟨d, hc, _, _, _⟩ | ⟨hc, _, _⟩ <;>
    simp only [next, hc] at he
  · exact h e he
  · rcases List.mem_cons.mp he with rfl | he
    · exact hu
    · exact h e he
  · exact h e (mem_of_mem_below he)
  · exact h e he

/-! ## What is written for a character -/

/--
**The four steps of the repair**, each with what it adds to the body and to the
openers in front, and with what it leaves open. A closer is written after the closers
of what it reaches over.
-/
theorem body_cons_cases (o : Options) (opened : List Delimiter) (c : Char) (rest : List Char) :
    (Ordinary o c ∧ body o opened (c :: rest) = c :: body o opened rest
        ∧ unmatched o opened (c :: rest) = unmatched o opened rest
        ∧ next o opened c = opened)
      ∨ (∃ d, o.Uses d ∧ c = d.opener ∧ (d ≠ .paren → d ∉ opened)
          ∧ body o opened (c :: rest) = c :: body o (d :: opened) rest
          ∧ unmatched o opened (c :: rest) = unmatched o (d :: opened) rest
          ∧ next o opened c = d :: opened)
      ∨ (∃ d top bottom, o.Uses d ∧ c = d.closer ∧ opened = top ++ d :: bottom ∧ d ∉ top
          ∧ body o opened (c :: rest)
              = (top ++ [d]).map Delimiter.closer ++ body o bottom rest
          ∧ unmatched o opened (c :: rest) = unmatched o bottom rest
          ∧ next o opened c = bottom)
      ∨ (c = ')' ∧ .paren ∉ opened ∧ body o opened (c :: rest) = c :: body o opened rest
          ∧ unmatched o opened (c :: rest) = unmatched o opened rest + 1
          ∧ next o opened c = opened) := by
  rcases effect_cases o opened c with
    ⟨he, hc⟩ | ⟨d, he, hu, hc, hn⟩ | ⟨d, he, hu, rfl, hm⟩ | ⟨he, hc, hn⟩
  · exact .inl ⟨hc, by simp [body, forced, next, he], by simp [unmatched, next, he],
      by simp [next, he]⟩
  · exact .inr (.inl ⟨d, hu, hc, hn, by simp [body, forced, next, he],
      by simp [unmatched, next, he], by simp [next, he]⟩)
  · -- the cut at `d` tells what lies above it, to be closed first, and what stays open below
    exact .inr (.inr (.inl ⟨d, above d opened, below d opened, hu, rfl,
      (above_append_below hm).symm, not_mem_above, by simp [body, forced, next, he],
      by simp [unmatched, next, he], by simp [next, he]⟩))
  · exact .inr (.inr (.inr ⟨hc, hn, by simp [body, forced, next, he],
      by simp [unmatched, next, he, Nat.add_comm], by simp [next, he]⟩))

end Repair

end SearchQuery
