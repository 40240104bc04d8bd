import SearchQuery.Proofs.Reading.Place
import SearchQuery.Proofs.Token.Seam
import SearchQuery.Proofs.Tree.Collection

/-!
# A group leaves what is around it alone

Whatever stands in a group, keywords, quotes and further groups included, the reading comes back
out of it to where it was, and the groups around have got one child more and nothing else.

The argument goes by the draft, where it is an argument about a list. A reading that closes no
more groups than it opens never looks at the groups that were open before it, so it goes the same
way over any such groups (`Draft.run_onto`). Behind the `)` the draft is what it was, with one
child more in the open group (`Draft.run_group`). What that means for the numbers is not followed
step by step. A tree has one way only to hold given groups open, so the two trees agree wherever
the two drafts do (`Tree.Opened.addChild`).
-/

namespace SearchQuery

variable {d : Draft} {token opener closer : Token} {tokens inside : List Token} {s : Bool × Nat}

/--
With quotes as toggles, no parenthesis outside quotes is closed before it is opened, all of them
are closed in the end, and so is the last quote.
-/
def ProperlyNested (tokens : List Token) : Prop :=
  Mark.level? false 0 (Mark.inTokens tokens) = some (false, 0)

instance (tokens : List Token) : Decidable (ProperlyNested tokens) :=
  inferInstanceAs (Decidable (_ = _))

namespace Draft

/-- The draft with further groups open around all others. -/
def onto (d : Draft) (base : List Frame) : Draft :=
  { d with outer := d.outer ++ base }

/-- One token that closes no group of the base does not see the base. -/
theorem step_onto (base : List Frame)
    (h : d.quoting = .outside → token.kind = .parenClose → d.outer ≠ []) :
    (d.onto base).step token = (d.step token).onto base := by
  obtain ⟨f, outer, quoting, sign⟩ := d
  cases quoting with
  | inside text =>
    by_cases hk : token.kind = .quote
    · simp only [step, onto, stepInside, addPhrase, if_pos hk]
    · simp only [step, onto, stepInside, if_neg hk]
  | outside =>
    cases hk : token.kind with
    | word => simp only [step, onto, stepOutside, hk, addWord, addPhrase]
    | parenClose =>
      -- the `)` gives up a group above the base, so the first one is the same with it and without
      obtain ⟨g, rest, hcons⟩ := List.exists_cons_of_ne_nil (h rfl hk)
      dsimp only at hcons
      subst hcons
      simp only [step, onto, stepOutside, hk, closeGroup, List.cons_append]
    | _ => simp only [step, onto, stepOutside, hk, openGroup, setCombinator, List.cons_append]

/-- **A reading that stays above the base goes the same way over it.** -/
theorem run_onto (base : List Frame) (h : d.level? tokens = some s) :
    (d.onto base).run tokens = (d.run tokens).onto base := by
  induction tokens generalizing d with
  | nil => rfl
  | cons token tokens ih =>
    obtain ⟨hlevel, hclose⟩ := level?_step h
    rw [run_cons, run_cons, step_onto base hclose]
    exact ih hlevel

/-- **Behind a group the draft is as before it**, with the group as a child more. -/
theorem run_group (hq : d.quoting = .outside) (hopen : opener.kind = .parenOpen)
    (hclose : closer.kind = .parenClose) (hinside : ProperlyNested inside) :
    ∃ e sign, d.run (opener :: inside ++ [closer])
      = ⟨d.inner.addChild e, d.outer, .outside, sign⟩ := by
  obtain ⟨f, outer, quoting, sign⟩ := d
  dsimp only at hq
  subst hq
  -- the reading inside starts in a new group over all that are open
  let fresh : Draft := ⟨.new f.combinator.mode, [], .outside, sign⟩
  have hfirst : (⟨f, outer, .outside, sign⟩ : Draft).step opener = fresh.onto (f :: outer) := by
    rw [step, stepOutside, hopen]
    rfl
  have hlevel : fresh.level? inside = some (false, 0) := hinside
  -- nested tokens come back to level zero: only the new group is left above the base
  have hend : (fresh.run inside).level? [] = some (false, 0) :=
    level?_run (by rw [List.append_nil]; exact hlevel)
  obtain ⟨hquoting, hdepth⟩ := Prod.mk.inj (Option.some.inj hend)
  obtain ⟨g, above, quoting, sign', hrun⟩ :
      ∃ g above quoting sign', fresh.run inside = ⟨g, above, quoting, sign'⟩ := ⟨_, _, _, _, rfl⟩
  rw [hrun] at hquoting hdepth
  obtain rfl := List.eq_nil_of_length_eq_zero hdepth
  obtain rfl := Quoting.eq_outside hquoting
  refine ⟨g.expression, sign', ?_⟩
  calc (⟨f, outer, .outside, sign⟩ : Draft).run (opener :: inside ++ [closer])
    _ = ((fresh.onto (f :: outer)).run inside).step closer := by
      rw [List.cons_append, run_cons, hfirst, run_append]
      rfl
    _ = (⟨g, f :: outer, .outside, sign'⟩ : Draft).step closer := by
      rw [run_onto (f :: outer) hlevel, hrun]
      rfl
    _ = ⟨f.addChild g.expression, outer, .outside, sign'⟩ := by
      rw [step, stepOutside, hclose]
      rfl

end Draft

/-! ## At the top -/

/--
**A group does not disturb what surrounds it**, wherever outside quotes it stands and whatever
is properly nested in it. Behind the group the reading is at the same open group as before, with
the same keywords in force and outside quotes. The open group lists one child more, the last one,
which has the first free number; all other groups that there were are as before; and all groups
that are new lie inside that child.
-/
theorem group_frame (query : String) (before inside : List Token) (opener closer : Token)
    (hout : ((Reader.start query).run before).quoting = .outside)
    (hopen : opener.kind = .parenOpen) (hclose : closer.kind = .parenClose)
    (hinside : ProperlyNested inside) :
    let r := (Reader.start query).run before
    let r' := r.run (opener :: inside ++ [closer])
    r'.cursor = r.cursor ∧ r'.levels = r.levels ∧ r'.quoting = .outside
      ∧ (∃ node, r.tree.node? r.cursor = some node ∧ r'.tree.node? r.cursor
          = some { node with children := node.children ++ [r.tree.size] })
      ∧ (∀ n, n < r.tree.size → n ≠ r.cursor → r'.tree.node? n = r.tree.node? n)
      ∧ r.tree.size < r'.tree.size ∧ r'.tree.parent? r.tree.size = some r.cursor
      ∧ ∀ n, r.tree.size ≤ n → n < r'.tree.size → r'.tree.Inside r.tree.size n := by
  intro r r'
  have hfollows : Follows r (Draft.start.run before) := follows_run (follows_start query) before
  obtain ⟨e, sign, hgroup⟩ :=
    Draft.run_group (hfollows.quoting.symm.trans hout) hopen hclose hinside
  have hfollows' := follows_run hfollows (opener :: inside ++ [closer])
  rw [hgroup] at hfollows'
  -- both trees hold the groups of their drafts open, and the drafts differ in one child
  obtain ⟨hcursor, hstored, hlisted, hold⟩ := hfollows.opened.addChild hfollows'.opened
  refine ⟨hcursor.symm, ?_, hfollows'.quoting, hlisted, hold, hstored.lt, hstored.parent?, ?_⟩
  · -- the combinator of the open group is not touched by a child
    exact hfollows'.levels.trans hfollows.levels.symm
  · intro n hn hlt
    exact hstored.inside_of_interval hn hlt

/-- A group with keywords, a quoted parenthesis and a group in it, behind an ignored `)`. -/
theorem group_frame_keywords :
    let r := (Reader.start "").run (Token.scan ") a or (b and".toList)
    let r' := r.run (⟨.parenOpen, "("⟩ :: Token.scan "or \"(\" (and c) -".toList
      ++ [⟨.parenClose, ")"⟩])
    r.quoting = .outside ∧ ProperlyNested (Token.scan "or \"(\" (and c) -".toList)
      ∧ r'.cursor = 1 ∧ r'.levels = [.and, .or] ∧ r'.tree.size = 4
      ∧ r'.tree.Inside 2 3 := by
  intro r r'
  have hout : r.quoting = .outside := by decide
  have hinside : ProperlyNested (Token.scan "or \"(\" (and c) -".toList) := by decide
  have hsize : r'.tree.size = 4 := by decide
  obtain ⟨hcursor, hlevels, -, -, -, -, -, hnew⟩ :=
    group_frame "" (Token.scan ") a or (b and".toList) _ ⟨.parenOpen, "("⟩ ⟨.parenClose, ")"⟩
      hout rfl rfl hinside
  refine ⟨hout, hinside, hcursor, hlevels, hsize, ?_⟩
  exact hnew 3 (by decide) (Nat.lt_of_lt_of_eq (by decide) hsize.symm)

end SearchQuery
