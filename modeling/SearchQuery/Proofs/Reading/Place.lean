import SearchQuery.Proofs.Reading.Draft
import SearchQuery.Proofs.Token.Level

/-!
# Where the reader stands

The repair works on characters and keeps quotes and parentheses on one list. The reader
works on tokens, takes no parenthesis between double quotes for one, and knows nothing of
single quotes. What they agree on is the level: `Mark.level?` tells from the marks of the
tokens whether the reader is between quotes and how many groups are open, and
`Draft.level?_step` says that one token moves the reader as its mark says. The level of
the tokens of a query is known from the repair, so the place of the reader is known too.

Two branches of the reader are there for tokens that nothing has repaired: a `)` with no
group to close is ignored, and text after a quote that is never closed is dropped. For the
tokens of a query neither is ever taken. What may happen is that a group is left open at
the end, one for each `)` that got its `(` in front of everything while a quote was open.
-/

namespace SearchQuery

variable {r : Reader} {d : Draft} {s : Bool × Nat}

/-! ## One token moves the reader as its mark says -/

/-- The level that the tokens lead to from where the draft stands. -/
def Draft.level? (d : Draft) (tokens : List Token) : Option (Bool × Nat) :=
  Mark.level? d.quoting.isInside d.outer.length (Mark.inTokens tokens)

/-- **One token keeps the level**, and no `)` outside quotes is met where nothing is open. -/
theorem Draft.level?_step {token : Token} {rest : List Token}
    (h : d.level? (token :: rest) = some s) :
    (d.step token).level? rest = some s
      ∧ (d.quoting = .outside → token.kind = .parenClose → d.outer ≠ []) := by
  obtain ⟨f, outer, quoting, sign⟩ := d
  unfold Draft.level? at h
  rw [Mark.inTokens_cons] at h
  cases quoting with
  | inside text =>
    refine ⟨?_, fun hq => Quoting.noConfusion hq⟩
    unfold Draft.step Draft.stepInside Draft.level?
    dsimp only
    by_cases hk : token.kind = .quote
    · rw [if_pos hk]
      rw [hk] at h
      exact h
    · -- between quotes every token but a quote leaves the level alone
      rw [if_neg hk]
      cases hkind : token.kind with
      | quote => exact absurd hkind hk
      | _ => rw [hkind] at h; exact h
  | outside =>
    unfold Draft.step Draft.stepOutside Draft.level?
    dsimp only
    cases hk : token.kind with
    | parenClose =>
      rw [hk] at h
      cases outer with
      | nil => cases h
      | cons g outer => exact ⟨h, fun _ _ => List.cons_ne_nil g outer⟩
    | _ =>
      rw [hk] at h
      exact ⟨h, fun _ hc => Token.Kind.noConfusion hc⟩

/-- The level is kept along a run. -/
theorem Draft.level?_run {before rest : List Token} (h : d.level? (before ++ rest) = some s) :
    (d.run before).level? rest = some s := by
  induction before generalizing d with
  | nil => exact h
  | cons token before ih =>
    rw [Draft.run_cons]
    exact ih (Draft.level?_step h).1

/-- The tokens of a query lead out of the quotes, to the groups whose `)` were lost in quotes. -/
theorem Draft.level?_start (o : Options) (query : String) :
    Draft.start.level? (tokenize o query) = some (false, Repair.lost o [] query.toList) :=
  Mark.level?_tokenize o query

/-! ## What the log hears -/

/-- Where a `)` outside quotes has a group to close, the log hears of the token and no more. -/
theorem Follows.report_eq {token : Token} (h : Follows r d)
    (hclose : d.quoting = .outside → token.kind = .parenClose → d.outer ≠ []) :
    r.report token = [.token token r.quoting.isInside] := by
  have hcond : ¬ (r.quoting = .outside && token.kind = .parenClose
      && r.tree.parent? r.cursor = none) := by
    intro hall
    simp only [Bool.and_eq_true, decide_eq_true_eq] at hall
    obtain ⟨⟨hq, hk⟩, hp⟩ := hall
    -- a group is open around the cursor, so the cursor has a parent
    obtain ⟨g, outer, houter⟩ := List.exists_cons_of_ne_nil (hclose (h.quoting ▸ hq) hk)
    have hopened := h.opened
    rw [houter] at hopened
    obtain ⟨p, hparent, _⟩ := hopened.close
    rw [hp] at hparent
    cases hparent
  rw [Reader.report, if_neg hcond]

/--
**Where the level is known and ends outside quotes, the log hears of each token once**, and of
nothing else: not of an ignored `)`, and not of dropped text at the end.
-/
theorem Follows.reports_eq {tokens : List Token} {n : Nat} (h : Follows r d)
    (hl : d.level? tokens = some (false, n)) :
    r.reports tokens
      = tokens.mapIdx fun k t => .token t (r.run (tokens.take k)).quoting.isInside := by
  induction tokens generalizing r d with
  | nil =>
    have hin : d.quoting.isInside = false := (Prod.mk.inj (Option.some.inj hl)).1
    -- the level at the end is outside quotes, so nothing is left to be dropped
    have hout : r.quoting = .outside := h.quoting.trans (Quoting.eq_outside hin)
    rw [Reader.reports, Reader.reportEnd, hout]
    rfl
  | cons token rest ih =>
    obtain ⟨hnext, hclose⟩ := Draft.level?_step hl
    rw [Reader.reports, h.report_eq hclose, ih (follows_step h token) hnext, List.mapIdx_cons]
    rfl

theorem Follows.mem_reports {tokens : List Token} {n : Nat} {notice : Reader.Notice}
    (h : Follows r d) (hl : d.level? tokens = some (false, n)) (hm : notice ∈ r.reports tokens) :
    ∃ token quoted, notice = .token token quoted := by
  rw [h.reports_eq hl] at hm
  obtain ⟨k, hk, rfl⟩ := List.mem_mapIdx.mp hm
  exact ⟨_, _, rfl⟩

/-! ## What is left open -/

/-- No `)` is lost exactly when none gets its opener in front while a double quote is open. -/
theorem Repair.lost_eq_zero_iff {o : Options} {opened : List Delimiter} {text : List Char} :
    lost o opened text = 0 ↔ ∀ before after, text = before ++ ')' :: after →
      effect o (openAfter o opened before) ')' = .unmatched →
      .doubleQuote ∉ openAfter o opened before := by
  induction text generalizing opened with
  | nil => exact iff_of_true rfl fun before after h => by simp at h
  | cons c rest ih =>
    rw [lost, Nat.add_eq_zero_iff, ih]
    constructor
    · rintro ⟨hzero, hrest⟩ before after h he hq
      cases before with
      | nil =>
        obtain ⟨rfl, rfl⟩ := List.cons.inj h
        have hp : .paren ∉ opened := (effect_eq_unmatched_iff.mp he).2
        rw [if_pos ⟨rfl, hp, decide_eq_true hq⟩] at hzero
        cases hzero
      | cons b before =>
        obtain ⟨rfl, rfl⟩ := List.cons.inj h
        exact hrest before after rfl he hq
    · intro h
      refine ⟨if_neg ?_, fun before after hrest => ?_⟩
      · rintro ⟨rfl, hp, hq⟩
        exact h [] rest rfl (effect_eq_unmatched_iff.mpr ⟨rfl, hp⟩) (of_decide_eq_true hq)
      · exact h (c :: before) after (congrArg (c :: ·) hrest)

/-! ## At the top -/

/--
**The repair and the reader agree on what is open.** While the tokens of a query are read,
no `)` outside quotes is met with the whole query open; the log never hears of an ignored
`)` or of dropped text; the reading ends outside quotes; and the depth it ends at is the
number of `)` that got their opener in front while a double quote was open, which is zero
where there is none.
-/
theorem reading_follows_repair (o : Options) (query : String) :
    (∀ before token after, tokenize o query = before ++ token :: after →
        token.kind = .parenClose → ((Reader.start query).run before).quoting = .outside →
        ((Reader.start query).run before).cursor ≠ Tree.root)
      ∧ (∀ notice ∈ (Reader.start query).reports (tokenize o query),
          notice ≠ .closerIgnored ∧ ∀ text, notice ≠ .textDropped text)
      ∧ ((Reader.start query).run (tokenize o query)).quoting = .outside
      ∧ (parse o query).depth ((Reader.start query).run (tokenize o query)).cursor
        = Repair.lost o [] query.toList
      ∧ (Repair.lost o [] query.toList = 0 ↔ ∀ before after, query.toList = before ++ ')' :: after →
          Repair.effect o (Repair.openAfter o [] before) ')' = .unmatched →
          .doubleQuote ∉ Repair.openAfter o [] before) := by
  have hlevel := Draft.level?_start o query
  have hend := follows_run (follows_start query) (tokenize o query)
  -- with no tokens left the level is where the reader stands
  have hplace : (Draft.start.run (tokenize o query)).level? []
      = some (false, Repair.lost o [] query.toList) :=
    Draft.level?_run (by rw [List.append_nil]; exact hlevel)
  obtain ⟨hin, hdepth⟩ := Prod.mk.inj (Option.some.inj hplace)
  refine ⟨?_, ?_, ?_, ?_, Repair.lost_eq_zero_iff⟩
  · intro before token after htokens hk hq hroot
    rw [htokens] at hlevel
    have hfollows := follows_run (follows_start query) before
    -- the level before the `)` says that a group is open, so the cursor is not the root
    have houter := (Draft.level?_step (Draft.level?_run hlevel)).2 (hfollows.quoting ▸ hq) hk
    obtain ⟨g, outer, hcons⟩ := List.exists_cons_of_ne_nil houter
    have hopened := hfollows.opened
    rw [hcons] at hopened
    obtain ⟨p, hparent, _⟩ := hopened.close
    have hnone := ((stores_run query before).wellFormed.root_only.2 _ hopened.lt_size).mpr hroot
    rw [hnone] at hparent
    cases hparent
  · intro notice hm
    obtain ⟨token, quoted, rfl⟩ := (follows_start query).mem_reports hlevel hm
    exact ⟨Reader.Notice.noConfusion, fun text => Reader.Notice.noConfusion⟩
  · rw [hend.quoting]
    exact Quoting.eq_outside hin
  · rw [← hdepth]
    exact hend.opened.depth

end SearchQuery
