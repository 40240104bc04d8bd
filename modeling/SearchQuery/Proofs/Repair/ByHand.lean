import SearchQuery.Proofs.Reading.Draft
import SearchQuery.Proofs.Repair.Completeness
import SearchQuery.Proofs.Repair.Stretch
import SearchQuery.Proofs.Token.Balance

/-!
# Repairs made by hand

A repair adds closers at the end of a query and openers in front of it. Both may as well
be typed, and then the repair has that much less to do.

At the end the closers that are typed close what is open, innermost first, so they pass
and the rest of the closers follow them as before: `chars_append_closers`.

In front the openers that are typed are open below everything that the query opens.
`step_over` is the frame of the simulation: a character that finds what it closes does
the same over more parentheses. A `)` that finds nothing takes the innermost of them,
and by then nothing may be open above it. If a quote is, the repair of the longer query
closes that quote first and writes another text, so the two agree exactly when no `)`
strays into a quote: `body_over_openers_iff`.
-/

namespace SearchQuery

namespace Repair

variable {o : Options} {opened bottom left : List Delimiter} {c : Char} {d : Delimiter}
  {text more : List Char}

/-! ## Closers at the end -/

theorem openAfter_of_passes (h : Passes o opened text left) : openAfter o opened text = left := by
  induction text generalizing opened with
  | nil => cases h; rfl
  | cons c text ih => exact ih (passes_cons_iff.mp h).2.2

theorem written_of_passes (h : Passes o opened text left) : written o opened text = text := by
  induction text generalizing opened with
  | nil => rfl
  | cons c text ih =>
    obtain ⟨hf, _, hrest⟩ := passes_cons_iff.mp h
    rw [written, hf, ih hrest]
    rfl

/-- What passes behind a query is kept, and only what it leaves open is closed. -/
theorem chars_append_of_passes (h : Passes o (openAfter o [] text) more left) :
    chars o (text ++ more)
      = List.replicate (unmatched o [] text) '(' ++ written o [] text
        ++ (more ++ left.map Delimiter.closer) := by
  rw [chars_append, unmatched_of_passes h, body_of_passes h, Nat.add_zero]

/-- **Closers typed at the end** change nothing, as far as the repair would add them. -/
theorem chars_append_closers (h : more <+: (openAfter o [] text).map Delimiter.closer) :
    chars o (text ++ more) = chars o text := by
  obtain ⟨rest, hrest⟩ := h
  -- the typed closers are those of the innermost delimiters
  obtain ⟨top, left, hopen, rfl, rfl⟩ := List.map_eq_append_iff.mp hrest.symm
  have huses : ∀ d ∈ top, o.Uses d := fun d hd =>
    uses_openAfter (by simp) d (hopen ▸ List.mem_append_left left hd)
  have hpass : Passes o (openAfter o [] text) (top.map Delimiter.closer) left :=
    hopen ▸ passes_closers huses
  rw [chars_append_of_passes hpass, chars, body_eq_written, hrest, List.append_assoc]

/-! ## A character over more parentheses -/

theorem effect_over (hb : ∀ d ∈ bottom, d = .paren) (he : effect o opened c ≠ .unmatched) :
    effect o (opened ++ bottom) c = effect o opened c := by
  rcases effect_cases o opened c with
    ⟨h, hc⟩ | ⟨d, h, hu, rfl, hn⟩ | ⟨d, h, hu, rfl, hm⟩ | ⟨h, _, _⟩
  · rw [h]
    exact effect_ordinary hc
  · rw [h]
    refine effect_opener hu fun hp hmem => ?_
    rcases List.mem_append.mp hmem with hmem | hmem
    · exact hn hp hmem
    · exact hp (hb d hmem)
  · rw [h]
    exact effect_closer hu (List.mem_append_left bottom hm)
  · exact absurd h he

/-- A delimiter is cut out at the same place, whatever was open before. -/
theorem append_eq_cut (h : d ∈ opened) :
    opened ++ bottom = above d opened ++ d :: (below d opened ++ bottom) := by
  rw [← List.cons_append, ← List.append_assoc, above_append_below h]

theorem above_over (h : d ∈ opened) : above d (opened ++ bottom) = above d opened := by
  rw [append_eq_cut h, above_append_cons not_mem_above]

theorem below_over (h : d ∈ opened) : below d (opened ++ bottom) = below d opened ++ bottom := by
  rw [append_eq_cut h, below_append_cons not_mem_above]

/-- **The frame**: what a character closes and leaves open is the same over more parentheses. -/
theorem step_over (hb : ∀ d ∈ bottom, d = .paren) (he : effect o opened c ≠ .unmatched) :
    forced o (opened ++ bottom) c = forced o opened c
      ∧ next o (opened ++ bottom) c = next o opened c ++ bottom := by
  have hover := effect_over hb he
  unfold forced next
  rw [hover]
  rcases effect_cases o opened c with ⟨h, _⟩ | ⟨d, h, _⟩ | ⟨d, h, _, _, hm⟩ | ⟨h, _, _⟩
  · rw [h]
    exact ⟨rfl, rfl⟩
  · rw [h]
    exact ⟨rfl, rfl⟩
  · rw [h]
    exact ⟨above_over hm, below_over hm⟩
  · exact absurd h he

/-! ## A query over the openers put in front of it -/

theorem body_closer (hu : o.Uses d) (hd : d ∉ opened) :
    body o (opened ++ d :: bottom) (d.closer :: text)
      = opened.map Delimiter.closer ++ d.closer :: body o bottom text := by
  rw [body, forced, next, effect_closer hu (List.mem_append_right opened List.mem_cons_self)]
  show (above d (opened ++ d :: bottom)).map Delimiter.closer
    ++ d.closer :: body o (below d (opened ++ d :: bottom)) text = _
  rw [above_append_cons hd, below_append_cons hd]

theorem body_unmatched (hp : .paren ∉ opened) :
    body o opened (')' :: text) = ')' :: body o opened text := by
  rw [body, forced, next, effect_unmatched hp]
  rfl

/--
**The simulation.** The body is written the same over as many parentheses as it has `)`
without an opener, exactly when none of these strays into a quote.
-/
theorem body_over_openers_iff :
    body o (opened ++ List.replicate (unmatched o opened text) .paren) text = body o opened text
      ↔ ¬ StraysIntoQuote o opened text := by
  induction text generalizing opened with
  | nil =>
    rw [unmatched, List.replicate_zero, List.append_nil]
    exact iff_of_true rfl not_straysIntoQuote_nil
  | cons c text ih =>
    rw [straysIntoQuote_cons_iff]
    by_cases he : effect o opened c = .unmatched
    · -- over the added openers the `)` has one to close, below all that is open
      obtain ⟨rfl, hp⟩ := effect_eq_unmatched_iff.mp he
      have hnext : next o opened ')' = opened := by rw [next, he]
      have hcloses (bottom : List Delimiter) : body o (opened ++ .paren :: bottom) (')' :: text)
          = opened.map Delimiter.closer ++ ')' :: body o bottom text :=
        body_closer (d := .paren) trivial hp
      rw [unmatched, if_pos he, hnext, Nat.add_comm, List.replicate_succ, hcloses, body_unmatched hp]
      cases opened with
      | nil => simpa using @ih []
      | cons e opened =>
        -- what is open above the added parenthesis is closed first, and it is a quote
        have hq : e.closer ≠ ')' := fun h =>
          hp (Delimiter.closer_inj (e := .paren) |>.mp h ▸ List.mem_cons_self)
        refine iff_of_false (fun h => hq (List.cons.inj h).1) fun h => h (.inl ⟨rfl, hp, ?_⟩)
        exact List.cons_ne_nil e opened
    · -- by the frame the character does the same in both, and the rest is the induction
      have hhead : ¬ (c = ')' ∧ .paren ∉ opened ∧ opened ≠ []) := fun h =>
        he (effect_eq_unmatched_iff.mpr ⟨h.1, h.2.1⟩)
      have hparens : ∀ d ∈ List.replicate (unmatched o (next o opened c) text) Delimiter.paren,
          d = .paren := fun d hd => List.eq_of_mem_replicate hd
      obtain ⟨hforced, hnext⟩ := step_over hparens he
      rw [unmatched, if_neg he, Nat.zero_add, body, body, hforced, hnext,
        List.append_cancel_left_eq, List.cons_inj_right, ih]
      exact ⟨fun h hor => hor.elim hhead h, fun h hs => h (.inr hs)⟩

/-- A body has the openers of its query. -/
theorem count_opener_body (o : Options) (opened : List Delimiter) (text : List Char) :
    (body o opened text).count '(' = text.count '(' := by
  have hclosers : ∀ ds : List Delimiter, (ds.map Delimiter.closer).count '(' = 0 := fun ds =>
    List.count_eq_zero.mpr fun h => by
      obtain ⟨d, _, hd⟩ := List.mem_map.mp h
      exact Delimiter.closer_ne_paren_opener d hd
  induction text generalizing opened with
  | nil => exact hclosers opened
  | cons c text ih =>
    rw [body, List.count_append, hclosers, Nat.zero_add, List.count_cons, List.count_cons, ih]

/-- A body closes what its query opens, what was open before it and what is opened in front. -/
theorem count_closer_body (o : Options) (opened : List Delimiter) (text : List Char) :
    (body o opened text).count ')'
      = text.count '(' + (opened.count .paren + unmatched o opened text) := by
  rw [← count_opener_body o opened text]
  exact Mark.count_closer_add_text (height?_body o opened text)

/-- **Openers typed in front** change nothing exactly when no `)` strays into a quote. -/
theorem chars_openers_iff :
    chars o (List.replicate (unmatched o [] text) '(' ++ text) = chars o text
      ↔ ¬ StraysIntoQuote o [] text := by
  -- named, since only their number matters and only at one place
  obtain ⟨openers, hopeners⟩ :
      ∃ openers, openers = List.replicate (unmatched o [] text) Delimiter.paren := ⟨_, rfl⟩
  have hpass : Passes o [] (List.replicate (unmatched o [] text) '(') openers := by
    have hopen : Passes o [] (List.replicate (unmatched o [] text) '(') (_ ++ []) :=
      passes_openers (unmatched o [] text)
    rwa [List.append_nil, ← hopeners] at hopen
  have hover : body o openers text = body o [] text ↔ ¬ StraysIntoQuote o [] text := by
    rw [hopeners, ← body_over_openers_iff, List.nil_append]
  rw [← hover, chars_append, unmatched_of_passes hpass, written_of_passes hpass,
    openAfter_of_passes hpass, Nat.zero_add, chars]
  -- the one has as many closers as the other only if it needs no opener more
  have hnone (h : (body o openers text).count ')' = (body o [] text).count ')') :
      unmatched o openers text = 0 := by
    rw [count_closer_body, count_closer_body, hopeners, List.count_replicate_self,
      List.count_nil, ← hopeners] at h
    omega
  constructor
  · intro h
    have hcount := congrArg (List.count ')') h
    simp only [List.count_append, List.count_replicate, beq_iff_eq, Char.reduceEq, if_false,
      Nat.zero_add] at hcount
    rw [hnone hcount] at h
    exact List.append_cancel_left h
  · intro h
    rw [hnone (congrArg _ h), h]
    rfl

end Repair

/-! ## At the top -/

/--
**A query may be repaired by hand.**

Closers typed at its end, innermost first and as many as one likes of those that the
repair would add there, change neither the repaired query nor what it means. And to
type the openers that the repair would put in front changes nothing exactly when no
`)` strays into a quote.
-/
theorem repair_made_by_hand (o : Options) (query : String) :
    (∀ closers : String,
        closers.toList <+: (Repair.openAfter o [] query.toList).map Delimiter.closer →
        repair o (query ++ closers) = repair o query
          ∧ (parse o (query ++ closers)).rootExpression = (parse o query).rootExpression)
      ∧ (repair o
            (String.ofList (List.replicate (Repair.unmatched o [] query.toList) '(') ++ query)
          = repair o query
        ↔ ¬ Repair.StraysIntoQuote o [] query.toList) := by
  constructor
  · intro closers hclosers
    have hchars : Repair.chars o (query ++ closers).toList = Repair.chars o query.toList := by
      rw [String.toList_append]
      exact Repair.chars_append_closers hclosers
    refine ⟨congrArg String.ofList hchars, ?_⟩
    rw [rootExpression_parse, rootExpression_parse, tokenize, hchars, ← tokenize]
  · rw [← Repair.chars_openers_iff, repair, repair, String.toList_append, String.toList_ofList,
      String.ofList_inj]

/-- Of the two closers that a group with an open quote needs, the first is typed. -/
theorem repair_made_by_hand_quote_in_group :
    "\"".toList <+: (Repair.openAfter ⟨false⟩ [] "(a \"b".toList).map Delimiter.closer
      ∧ repair ⟨false⟩ ("(a \"b" ++ "\"") = repair ⟨false⟩ "(a \"b"
      ∧ (parse ⟨false⟩ ("(a \"b" ++ "\"")).rootExpression
        = (parse ⟨false⟩ "(a \"b").rootExpression := by
  have htyped : "\"".toList
      <+: (Repair.openAfter ⟨false⟩ [] "(a \"b".toList).map Delimiter.closer := by decide
  exact ⟨htyped, (repair_made_by_hand ⟨false⟩ "(a \"b").1 "\"" htyped⟩

end SearchQuery
