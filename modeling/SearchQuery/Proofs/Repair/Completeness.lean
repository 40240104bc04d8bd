import SearchQuery.Proofs.Repair.Nesting

/-!
# When one repair is enough

A second repair reads the text that the first one wrote. It starts with the openers
that the first one put in front, so wherever the first had `opened` open, the second
has the same delimiters open and, below them, one parenthesis for each `)` that is
still to come without an opener of its own. `passes_written` is that simulation for
one character of the query, and `passes_body_iff` for a whole query.

The simulation breaks in one place only. A `)` without an open parenthesis may be met
while a quote is open. The first repair writes it where it stands and opens it in
front of everything; the second finds its opener below the open quote and closes the
quote first. So a repaired query nests, and is left alone by a second repair, exactly
when no `)` strays into a quote in this way.
-/

namespace SearchQuery

namespace Repair

variable {o : Options} {opened : List Delimiter} {c : Char} {text : List Char}

/-- Some `)` of the text is met with a quote open and no parenthesis. -/
def StraysIntoQuote (o : Options) (opened : List Delimiter) (text : List Char) : Prop :=
  ∃ before after, text = before ++ ')' :: after
    ∧ .paren ∉ openAfter o opened before ∧ openAfter o opened before ≠ []

theorem not_straysIntoQuote_nil : ¬ StraysIntoQuote o opened [] := by
  rintro ⟨before, after, h, _⟩
  simp at h

theorem straysIntoQuote_cons_iff :
    StraysIntoQuote o opened (c :: text) ↔
      (c = ')' ∧ .paren ∉ opened ∧ opened ≠ []) ∨ StraysIntoQuote o (next o opened c) text := by
  constructor
  · rintro ⟨before, after, h, hp, hne⟩
    cases before with
    | nil => exact .inl ⟨(List.cons.inj h).1, hp, hne⟩
    | cons b before =>
      obtain ⟨rfl, rfl⟩ := List.cons.inj h
      exact .inr ⟨before, after, rfl, hp, hne⟩
  · rintro (⟨rfl, hp, hne⟩ | ⟨before, after, rfl, hp, hne⟩)
    · exact ⟨[], text, rfl, hp, hne⟩
    · exact ⟨c :: before, after, rfl, hp, hne⟩

/-! ## The second reading follows the first -/

/-- What the repair writes for one character passes, with `n` more openers below what is open. -/
theorem passes_written (hu : ∀ d ∈ opened, o.Uses d)
    (hs : ¬ (c = ')' ∧ .paren ∉ opened ∧ opened ≠ [])) (n : Nat) :
    Passes o
      (opened ++ List.replicate ((if effect o opened c = .unmatched then 1 else 0) + n) .paren)
      ((forced o opened c).map Delimiter.closer ++ [c])
      (next o opened c ++ List.replicate n .paren) := by
  rcases effect_cases o opened c with
    ⟨he, hc⟩ | ⟨d, he, hd, rfl, hn⟩ | ⟨d, he, hd, rfl, hm⟩ | ⟨he, rfl, hn⟩
  · simp only [forced, next, he, reduceCtorEq, if_false, Nat.zero_add]
    exact .plain hc .nil
  · simp only [forced, next, he, reduceCtorEq, if_false, Nat.zero_add]
    -- only parentheses lie below, so a quote is not open there either
    refine .opens hd (fun hp hmem => ?_) .nil
    rcases List.mem_append.mp hmem with hmem | hmem
    · exact hn hp hmem
    · exact hp (List.eq_of_mem_replicate hmem)
  · simp only [forced, next, he, reduceCtorEq, if_false, Nat.zero_add]
    -- the forced closers take down what lies above `d`, and then `d` is on top
    have hcut := above_append_below hm
    have habove : ∀ e ∈ above d opened, o.Uses e := fun e hmem =>
      hu e (hcut ▸ List.mem_append_left _ hmem)
    have hpass : Passes o (above d opened ++ (d :: below d opened ++ List.replicate n .paren))
        ((above d opened).map Delimiter.closer ++ [d.closer])
        (below d opened ++ List.replicate n .paren) :=
      (passes_append_iff (passes_closers habove)).mpr (.closes hd .nil)
    rwa [← List.append_assoc, hcut] at hpass
  · -- nothing can be open here, so the `)` closes the innermost of the added openers
    have hopen : opened = [] :=
      Decidable.byContradiction fun hne => hs ⟨rfl, hn, hne⟩
    subst hopen
    simp only [forced, next, he, if_true, Nat.add_comm 1 n, List.nil_append, List.replicate_succ]
    exact .closes (d := .paren) trivial .nil

/-- A `)` that strays into a quote does not pass below more openers. -/
theorem not_passes_stray {rest : List Char} (hp : .paren ∉ opened) (hne : opened ≠ []) (n : Nat) :
    ¬ Passes o (opened ++ List.replicate (1 + n) .paren) (')' :: rest) [] := by
  intro h
  obtain ⟨hf, _, _⟩ := passes_cons_iff.mp h
  rw [Nat.add_comm, List.replicate_succ] at hf
  -- the `)` now finds one of the openers below, with `opened` still above it
  have he : effect o (opened ++ .paren :: List.replicate n .paren) ')' = .closes .paren :=
    effect_closer (d := .paren) trivial (List.mem_append_right _ List.mem_cons_self)
  rw [forced, he] at hf
  exact hne ((above_append_cons hp).symm.trans hf)

/-- The written body passes below the openers put in front, unless a `)` strays into a quote. -/
theorem passes_body_iff (hu : ∀ d ∈ opened, o.Uses d) :
    Passes o (opened ++ List.replicate (unmatched o opened text) .paren) (body o opened text) []
      ↔ ¬ StraysIntoQuote o opened text := by
  induction text generalizing opened with
  | nil => exact iff_of_true (passes_closers hu) not_straysIntoQuote_nil
  | cons c text ih =>
    rw [straysIntoQuote_cons_iff]
    by_cases hs : c = ')' ∧ .paren ∉ opened ∧ opened ≠ []
    · -- the simulation ends here: the text strays, and the second repair has to act
      obtain ⟨rfl, hp, hne⟩ := hs
      have he : effect o opened ')' = .unmatched := effect_unmatched hp
      refine iff_of_false ?_ (fun h => h (.inl ⟨rfl, hp, hne⟩))
      rw [unmatched, if_pos he, body, forced, he]
      exact not_passes_stray hp hne _
    · -- one step of the simulation, and then the induction
      have hstep := passes_written hu hs (unmatched o (next o opened c) text)
      have hbody : body o opened (c :: text) =
          ((forced o opened c).map Delimiter.closer ++ [c]) ++ body o (next o opened c) text := by
        simp [body]
      rw [unmatched, hbody, passes_append_iff hstep, ih (uses_next hu)]
      exact ⟨fun h => fun hor => hor.elim hs h, fun h hm => h (.inr hm)⟩

/-- **A repaired text passes exactly when no `)` strays into a quote.** -/
theorem passes_chars_iff : Passes o [] (chars o text) [] ↔ ¬ StraysIntoQuote o [] text := by
  have hopen : Passes o [] (List.replicate (unmatched o [] text) '(')
      (List.replicate (unmatched o [] text) .paren ++ []) := passes_openers _
  rw [chars, passes_append_iff hopen, List.append_nil, ← passes_body_iff (by simp)]
  rfl

end Repair

/-! ## At the top -/

/--
**One repair is enough exactly when no `)` strays into a quote.**

Then, and only then, every parenthesis and every quote of the repaired query is closed
in nested order, and a second repair changes nothing.
-/
theorem repair_complete_iff (o : Options) (query : String) :
    (repair o (repair o query) = repair o query ↔ ¬ Repair.StraysIntoQuote o [] query.toList)
      ∧ (Repair.Nested o [] (repair o query).toList
          ↔ ¬ Repair.StraysIntoQuote o [] query.toList) := by
  have hlist : (repair o query).toList = Repair.chars o query.toList := String.toList_ofList
  constructor
  · rw [← Repair.passes_chars_iff, ← Repair.chars_eq_self_iff, repair, hlist, repair]
    exact ⟨fun h => String.ofList_injective h, fun h => congrArg String.ofList h⟩
  · rw [hlist, ← Repair.passes_iff_nested, Repair.passes_chars_iff]

/-- A quote and then a `)`: the repaired query needs a second repair. -/
theorem repair_quote_closer :
    repair ⟨false⟩ "\")" = "(\")\""
      ∧ repair ⟨false⟩ (repair ⟨false⟩ "\")") ≠ repair ⟨false⟩ "\")" := by
  decide

end SearchQuery
