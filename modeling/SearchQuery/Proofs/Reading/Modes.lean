import Mathlib.Data.List.Induction
import SearchQuery.Proofs.Reading.Place
import SearchQuery.Proofs.Reading.Scope
import SearchQuery.Proofs.Reading.StoredTerms

/-!
# The mode of every phrase and of every group

A reader has two things in mind that last for different times: each open group has a keyword,
which waits while the groups inside it are read, and there is one sign for all groups, which
waits for the next word. Here both are told from the tokens alone, and with them the mode of
everything that a query makes.

`Reader.Stands` says that the state of a reader is what going back through the tokens finds, and
`Reader.stands_run` that it is so all the way. Most of the work is in the groups: when one is
closed, the keyword of the group around it comes into force again, so `Reader.Nested` speaks of
all open groups at once. After that, `Reader.tree_step` says what one token adds to the tree.
-/

namespace SearchQuery

variable {r r' : Reader} {token : Token} {before earlier tokens : List Token} {s : Bool × Nat}

/-! ## What the tree keeps of a group -/

namespace Tree

variable {t : Tree} {i n : NodeId}

/-- The parent and the mode of each group, in the order of the numbers. -/
def links (t : Tree) : List (Option NodeId × Mode) :=
  t.nodes.toList.map fun node => (node.parent, node.mode)

theorem parent?_eq_links (t : Tree) (n : NodeId) : t.parent? n = t.links[n]?.bind Prod.fst := by
  rw [links, List.getElem?_map, Array.getElem?_toList, Option.bind_map]
  rfl

theorem length_links (t : Tree) : t.links.length = t.size := by
  rw [links, List.length_map]
  rfl

/-- A change in a group that leaves its parent and its mode alone leaves all of them alone. -/
theorem links_modify {change : Node → Node} (nodes : Array Node) (i : NodeId)
    (h : ∀ node, ((change node).parent, (change node).mode) = (node.parent, node.mode)) :
    (nodes.modify i change).toList.map (fun node => (node.parent, node.mode))
      = nodes.toList.map fun node => (node.parent, node.mode) := by
  refine List.ext_getElem? fun n => ?_
  rw [Array.toList_modify, List.getElem?_map, List.getElem?_map, List.getElem?_modify]
  by_cases hi : i = n
  · cases nodes.toList[n]? with
    | none => rfl
    | some node => simp [hi, h]
  · simp [hi]

theorem links_addPhrase (t : Tree) (i : NodeId) (text : String) (mode : Mode) :
    (t.addPhrase i text mode).links = t.links := by
  unfold Tree.addPhrase
  dsimp only
  split
  · rfl
  · exact links_modify t.nodes i fun _ => rfl

theorem links_addGroup (t : Tree) (i : NodeId) (mode : Mode) :
    (t.addGroup i mode).links = t.links ++ [(some i, mode)] := by
  unfold Tree.addGroup links
  dsimp only
  rw [Array.toList_push, List.map_append]
  exact congrArg (· ++ [(some i, mode)]) (links_modify t.nodes i fun _ => rfl)

theorem parent?_addGroup_new (t : Tree) (i : NodeId) (mode : Mode) :
    (t.addGroup i mode).parent? t.size = some i := by
  rw [parent?, node?_addGroup_new]
  rfl

/-- A group keeps its parent while others are opened. -/
theorem parent?_addGroup (i : NodeId) (mode : Mode) {p : NodeId} (hp : t.parent? n = some p) :
    (t.addGroup i mode).parent? n = some p := by
  have hn : n < t.links.length := by
    rw [length_links]
    exact lt_size_of_parent? hp
  rw [parent?_eq_links, links_addGroup, List.getElem?_append_left hn, ← parent?_eq_links]
  exact hp

theorem phrasesAt_addPhrase (text : String) (mode : Mode) (hi : i < t.size) (n : NodeId) :
    (t.addPhrase i text mode).phrasesAt n
      = t.phrasesAt n ++ if i = n then quotedPhrases text mode else [] := by
  by_cases hn : i = n
  · subst hn
    have hnode : t.node? i = some t.nodes[i] := Array.getElem?_eq_getElem hi
    unfold Tree.addPhrase quotedPhrases
    dsimp only
    rw [if_pos rfl]
    split
    · exact (List.append_nil _).symm
    · rw [phrasesAt_eq hnode, phrasesAt, node?, Array.getElem?_modify, if_pos rfl]
      rw [show t.nodes[i]? = _ from hnode]
      rfl
  · rw [phrasesAt, node?_addPhrase_of_ne text mode hn, if_neg hn, List.append_nil]
    rfl

theorem phrasesAt_addGroup (mode : Mode) (hi : i < t.size) (n : NodeId) :
    (t.addGroup i mode).phrasesAt n = t.phrasesAt n := by
  -- the groups so far keep their phrases, the new one has none, and behind it there is none
  rcases Nat.lt_trichotomy n t.size with hlt | rfl | hgt
  · by_cases hn : i = n
    · subst hn
      have hnode : t.node? i = some t.nodes[i] := Array.getElem?_eq_getElem hi
      rw [phrasesAt_eq (node?_addGroup_parent mode hnode), phrasesAt_eq hnode]
    · rw [phrasesAt, node?_addGroup_of_ne mode hn hlt]
      rfl
  · have hnone : t.node? t.size = none := Array.getElem?_eq_none (Nat.le_refl t.size)
    rw [phrasesAt_eq (node?_addGroup_new t i mode), phrasesAt, hnone]
    rfl
  · have hnone : t.node? n = none := Array.getElem?_eq_none (Nat.le_of_lt hgt)
    have hnew : (t.addGroup i mode).node? n = none := by
      refine Array.getElem?_eq_none ?_
      have hsize : (t.addGroup i mode).nodes.size = t.size + 1 := size_addGroup t i mode
      omega
    rw [phrasesAt, hnew, phrasesAt, hnone]

end Tree

/-! ## Quotes and the sign -/

/-- The state of the quotes after some tokens. -/
def quotingAt (before : List Token) : Quoting :=
  if IsOutside before then .outside else .inside (textOf (sinceQuote before))

theorem textOf_concat (tokens : List Token) (token : Token) :
    textOf (tokens ++ [token]) = textOf tokens ++ token.text := by
  have hlast : String.join [token.text] = token.text := by
    rw [String.join_cons, String.join_nil, String.append_empty]
  rw [textOf, textOf, List.map_append, String.join_append, List.map_singleton, hlast]

theorem quotingAt_concat (before : List Token) (token : Token) :
    quotingAt (before ++ [token]) = (quotingAt before).next token := by
  unfold quotingAt
  by_cases hout : IsOutside before <;> by_cases hk : token.kind = .quote
  · rw [if_pos hout, if_neg (by rw [isOutside_concat, if_pos hk]; exact not_not_intro hout),
      sinceQuote_quote hk, Quoting.next, if_pos hk]
    rfl
  · rw [if_pos hout, if_pos (by rw [isOutside_concat, if_neg hk]; exact hout), Quoting.next,
      if_neg hk]
  · rw [if_neg hout, if_pos (by rw [isOutside_concat, if_pos hk]; exact hout), Quoting.next,
      if_pos hk]
  · rw [if_neg hout, if_neg (by rw [isOutside_concat, if_neg hk]; exact hout),
      sinceQuote_other hk, textOf_concat, Quoting.next, if_neg hk]

theorem quotingAt_eq_outside : quotingAt before = .outside ↔ IsOutside before := by
  unfold quotingAt
  split
  · exact iff_of_true rfl ‹_›
  · exact iff_of_false Quoting.noConfusion ‹_›

theorem signAt_concat (before : List Token) (token : Token) :
    signAt (before ++ [token]) = if IsOutside before then
        if token.kind = .word then none else (Sign.ofToken? token).or (signAt before)
      else signAt before := by
  unfold signAt
  rw [bare_concat]
  split
  · exact waitingSign_cons
  · rfl

namespace Reader

theorem sign_setCombinator (r : Reader) (c : Combinator) : (r.setCombinator c).sign = r.sign := by
  unfold setCombinator
  split <;> rfl

theorem sign_closeGroup (r : Reader) : r.closeGroup.sign = r.sign := by
  unfold closeGroup
  split <;> rfl

/-- Outside quotes a word takes the sign that waits, and a sign takes its place. -/
theorem sign_stepOutside (r : Reader) (token : Token) :
    (r.stepOutside token).sign
      = if token.kind = .word then none else (Sign.ofToken? token).or r.sign := by
  unfold stepOutside Sign.ofToken?
  cases token.kind with
  | or => exact sign_setCombinator r .or
  | and => exact sign_setCombinator r .and
  | parenClose => exact sign_closeGroup r
  | _ => rfl

theorem sign_stepInside (r : Reader) (text : String) (token : Token) :
    (r.stepInside text token).sign = r.sign := by
  unfold stepInside addPhrase
  split <;> dsimp only

theorem run_concat (r : Reader) (before : List Token) (token : Token) :
    r.run (before ++ [token]) = (r.run before).step token := by
  unfold run
  rw [List.foldl_concat]

theorem quoting_run (query : String) (before : List Token) :
    ((start query).run before).quoting = quotingAt before := by
  induction before using List.reverseRecOn with
  | nil => rfl
  -- the induction takes the last token off, as going back does
  | append_singleton before token ih => rw [run_concat, quoting_step, ih, quotingAt_concat]

/-- **The sign that waits is the last one after the last word**, whatever stands in between. -/
theorem sign_run (query : String) (before : List Token) :
    ((start query).run before).sign = signAt before := by
  induction before using List.reverseRecOn with
  | nil => rfl
  | append_singleton before token ih =>
    rw [run_concat, signAt_concat, ← ih, step, quoting_run, quotingAt]
    by_cases hout : IsOutside before
    · rw [if_pos hout, if_pos hout]
      exact sign_stepOutside _ token
    · rw [if_neg hout, if_neg hout]
      exact sign_stepInside _ _ token

/-! ## The open groups -/

/-- The open groups are those that going back finds, with the keywords in force in them. -/
structure Nested (r : Reader) (earlier : List Token) : Prop where
  cursor : r.cursor = groupNumber 0 earlier
  keyword : ∀ out c, r.levels[out]? = some c → c = keywordOut out earlier
  parent : ∀ out, out + 1 < r.levels.length →
    r.tree.parent? (groupNumber out earlier) = some (groupNumber (out + 1) earlier)

theorem nested_start (query : String) : (start query).Nested [] where
  cursor := rfl
  keyword := by
    intro out c hc
    cases out with
    | zero => exact (Option.some.inj hc).symm
    | succ out => cases hc
  parent := by
    intro out hlt
    exact absurd hlt (by simp [start])

/-- The groups stay as they are when the tree keeps the links between them. -/
theorem Nested.congr (h : r.Nested earlier) (hcursor : r'.cursor = r.cursor)
    (hlevels : r'.levels = r.levels) (hlinks : r'.tree.links = r.tree.links) :
    r'.Nested earlier where
  cursor := hcursor.trans h.cursor
  keyword := by rw [hlevels]; exact h.keyword
  parent := by
    intro out hlt
    rw [Tree.parent?_eq_links, hlinks, ← Tree.parent?_eq_links]
    exact h.parent out (hlevels ▸ hlt)

/-- A token that is no parenthesis can only set the keyword of the group that is open. -/
theorem Nested.other (h : r.Nested earlier) (hclose : token.kind ≠ .parenClose)
    (hopen : token.kind ≠ .parenOpen) (hcursor : r'.cursor = r.cursor)
    (hlevels : r'.levels = r.levels.modifyHead ((Combinator.ofToken? token).getD ·))
    (hlinks : r'.tree.links = r.tree.links) : r'.Nested (token :: earlier) where
  cursor := by rw [groupNumber_other hclose hopen, hcursor, h.cursor]
  keyword := by
    intro out c hc
    rw [hlevels] at hc
    cases out with
    | zero =>
      rw [List.getElem?_modifyHead_zero, Option.map_eq_some_iff] at hc
      obtain ⟨before, hbefore, rfl⟩ := hc
      rw [keywordOut_other_zero hclose hopen, h.keyword 0 before hbefore]
    | succ out =>
      -- further out it stands in a group inside and decides nothing
      rw [keywordOut_other_succ hclose hopen]
      refine h.keyword (out + 1) c ?_
      simpa [List.getElem?_modifyHead] using hc
  parent := by
    intro out hlt
    rw [groupNumber_other hclose hopen, groupNumber_other hclose hopen, Tree.parent?_eq_links,
      hlinks, ← Tree.parent?_eq_links]
    refine h.parent out ?_
    rwa [hlevels, List.length_modifyHead] at hlt

theorem Nested.openGroup (h : r.Nested earlier) (hopen : token.kind = .parenOpen)
    (hsize : r.tree.size = earlier.countP (·.kind = .parenOpen) + 1) :
    r.openGroup.Nested (token :: earlier) where
  cursor := by rw [groupNumber_open_zero hopen, ← hsize]; rfl
  keyword := by
    intro out c hc
    cases out with
    | zero =>
      rw [keywordOut_open_zero hopen]
      exact (Option.some.inj hc).symm
    | succ out =>
      -- the groups around the new one wait with the keywords that they have
      rw [keywordOut_open_succ hopen]
      exact h.keyword out c hc
  parent := by
    intro out hlt
    rw [groupNumber_open_succ hopen]
    cases out with
    | zero =>
      -- the new group has the next number, and the group that was open is its parent
      rw [groupNumber_open_zero hopen, ← hsize, ← h.cursor]
      exact Tree.parent?_addGroup_new r.tree r.cursor r.combinator.mode
    | succ out =>
      rw [groupNumber_open_succ hopen]
      refine Tree.parent?_addGroup _ _ (h.parent out ?_)
      exact Nat.lt_of_succ_lt_succ hlt

/-- With a group around it, the group that is open is closed, and the others move up by one. -/
theorem Nested.closeGroup (h : r.Nested earlier) (hclose : token.kind = .parenClose)
    (hlevels : 1 < r.levels.length) : r.closeGroup.Nested (token :: earlier) := by
  -- the link of the tree and the way back lead from the cursor to the same group
  have hparent : r.tree.parent? r.cursor = some (groupNumber 1 earlier) := by
    rw [h.cursor]
    exact h.parent 0 hlevels
  have hgroup : r.closeGroup
      = { r with cursor := groupNumber 1 earlier, levels := r.levels.tail } := by
    rw [Reader.closeGroup, hparent]
  rw [hgroup]
  refine ⟨?_, fun out c hc => ?_, fun out hlt => ?_⟩
  · exact (groupNumber_close hclose).symm
  · rw [keywordOut_close hclose]
    refine h.keyword (out + 1) c ?_
    rwa [List.getElem?_tail] at hc
  · rw [groupNumber_close hclose, groupNumber_close hclose]
    refine h.parent (out + 1) ?_
    rw [List.length_tail] at hlt
    omega

theorem levels_setCombinator (r : Reader) (c : Combinator) :
    (r.setCombinator c).levels = r.levels.modifyHead fun _ => c := by
  unfold setCombinator
  split
  · rename_i hnil
    rw [hnil]
    rfl
  · rename_i outer hcons
    rw [hcons]
    rfl

theorem cursor_setCombinator (r : Reader) (c : Combinator) :
    (r.setCombinator c).cursor = r.cursor := by
  unfold setCombinator
  split <;> rfl

theorem levels_addWord (r : Reader) (text : String) : (r.addWord text).levels = r.levels := by
  unfold addWord addPhrase
  dsimp only

theorem cursor_addWord (r : Reader) (text : String) : (r.addWord text).cursor = r.cursor := by
  unfold addWord addPhrase
  dsimp only

/-- **One token outside quotes keeps the groups where going back finds them.** -/
theorem Nested.stepOutside (h : r.Nested earlier)
    (hsize : r.tree.size = earlier.countP (·.kind = .parenOpen) + 1)
    (hlevels : token.kind = .parenClose → 1 < r.levels.length) :
    (r.stepOutside token).Nested (token :: earlier) := by
  have hkeep : r.levels = r.levels.modifyHead id := (congrFun List.modifyHead_id r.levels).symm
  unfold Reader.stepOutside
  cases hk : token.kind with
  | parenOpen => exact h.openGroup hk hsize
  | parenClose => exact h.closeGroup hk (hlevels hk)
  -- the kinds differ in what they set: a keyword its level, a word one phrase, the others neither
  | or | and =>
    refine h.other (by rw [hk]; decide) (by rw [hk]; decide) (cursor_setCombinator r _) ?_ ?_
    · rw [levels_setCombinator, Combinator.ofToken?, hk]
      rfl
    · dsimp only
      rw [tree_setCombinator]
  | word =>
    refine h.other (by rw [hk]; decide) (by rw [hk]; decide) (cursor_addWord r token.text) ?_ ?_
    · rw [Combinator.ofToken?, hk]
      exact (levels_addWord r token.text).trans hkeep
    · dsimp only
      rw [tree_addWord, Tree.links_addPhrase]
  | _ =>
    refine h.other (by rw [hk]; decide) (by rw [hk]; decide) rfl ?_ rfl
    rw [Combinator.ofToken?, hk]
    exact hkeep

theorem Nested.stepInside (h : r.Nested earlier) (text : String) (token : Token) :
    (r.stepInside text token).Nested earlier := by
  have hlinks := Tree.links_addPhrase r.tree r.cursor text r.combinator.mode
  unfold Reader.stepInside Reader.addPhrase
  split
  · refine h.congr ?_ ?_ ?_ <;> dsimp only
    exact hlinks
  · exact h.congr rfl rfl rfl

theorem size_bare (query : String) (before : List Token) :
    ((start query).run before).tree.size = (bare before).countP (·.kind = .parenOpen) + 1 := by
  rw [size_run (start query) 0 before rfl, bare, List.countP_reverse, Nat.add_comm]
  rfl

/-! ## The state of the reader -/

/-- The state of the reader is what going back through the tokens finds. -/
structure Stands (r : Reader) (before : List Token) : Prop where
  quoting : r.quoting = quotingAt before
  sign : r.sign = signAt before
  cursor : r.cursor = groupAt before
  combinator : r.combinator = keywordAt before

/-- No `)` outside quotes closes the whole query, so the groups stay where going back finds them. -/
theorem nested_run (query : String) (h : Draft.start.level? (before ++ tokens) = some s) :
    ((start query).run before).Nested (bare before) := by
  induction before using List.reverseRecOn generalizing tokens with
  | nil => exact nested_start query
  | append_singleton before token ih =>
    rw [List.append_assoc] at h
    have hnested := ih h
    have hfollows := follows_run (follows_start query) before
    have hquoting := quoting_run query before
    have hclose := (Draft.level?_step (Draft.level?_run h)).2
    rw [← hfollows.quoting, hquoting] at hclose
    rw [run_concat, bare_concat, step, hquoting, quotingAt]
    by_cases hout : IsOutside before
    · rw [if_pos hout, if_pos hout]
      -- the level of the tokens before a `)` tells that a group is open around this one
      refine hnested.stepOutside (size_bare query before) fun hk => ?_
      have houter := hclose (quotingAt_eq_outside.mpr hout) hk
      rw [hfollows.levels, List.length_cons, List.length_map]
      exact Nat.succ_lt_succ (List.length_pos_of_ne_nil houter)
    · rw [if_neg hout, if_neg hout]
      exact hnested.stepInside _ token

/-- **Going back through the tokens finds the state of the reader.** -/
theorem stands_run (query : String) (h : Draft.start.level? (before ++ tokens) = some s) :
    ((start query).run before).Stands before where
  quoting := quoting_run query before
  sign := sign_run query before
  cursor := (nested_run query h).cursor
  combinator := by
    have hfollows := follows_run (follows_start query) before
    refine (nested_run query h).keyword 0 _ ?_
    rw [Reader.combinator, hfollows.levels]
    rfl

/-! ## What a token adds to the tree -/

/-- The texts of the phrases made are those that the token yields. -/
theorem Stands.map_text_phrasesMade (h : r.Stands before)
    (hword : token.kind = .word → token.IsSolid) :
    (phrasesMade before token).map Phrase.text = r.quoting.yield token := by
  rw [h.quoting]
  unfold phrasesMade quotingAt
  by_cases hout : IsOutside before
  · rw [if_pos hout, if_pos hout, Quoting.yield]
    split
    · exact (quotedTerms_word (hword ‹_›)).symm
    · rfl
  · rw [if_neg hout, if_neg hout, Quoting.yield]
    split
    · exact map_text_quotedPhrases _ _
    · rfl

theorem Stands.opens_iff (h : r.Stands before) :
    r.quoting.Opens token ↔ IsOutside before ∧ token.kind = .parenOpen := by
  rw [h.quoting]
  exact and_congr_left' quotingAt_eq_outside

/-- A phrase that a token adds is the one that going back tells of. -/
theorem Stands.phrasesMade_of_adds (h : r.Stands before) {text : String} {mode : Mode}
    (hword : token.kind = .word → token.IsSolid) (ha : r.Adds token text mode) :
    phrasesMade before token = quotedPhrases text mode := by
  unfold phrasesMade
  cases ha with
  | word hq hk =>
    have hout := quotingAt_eq_outside.mp (h.quoting ▸ hq)
    rw [if_pos hout, if_pos hk, quotedPhrases_word (hword hk), h.sign, h.combinator]
  | quoted hq hk =>
    have hin : ¬ IsOutside before := by
      rw [← quotingAt_eq_outside, ← h.quoting, hq]
      exact Quoting.noConfusion
    have htext : text = textOf (sinceQuote before) := by
      rw [h.quoting, quotingAt, if_neg hin] at hq
      exact (Quoting.inside.inj hq).symm
    rw [if_neg hin, if_pos hk, h.combinator, htext]

/-- **One token adds to the tree what going back tells of**, each phrase to the open group. -/
theorem tree_step (h : r.Stands before) (hc : r.cursor < r.tree.size)
    (hword : token.kind = .word → token.IsSolid) :
    (r.step token).tree.links = r.tree.links ++ groupsMade before token
      ∧ ∀ id, (r.step token).tree.phrasesAt id = r.tree.phrasesAt id
          ++ if groupAt before = id then phrasesMade before token else [] := by
  have hgroups : ¬ r.quoting.Opens token → groupsMade before token = [] :=
    fun ho => if_neg fun hout => ho (h.opens_iff.mpr hout)
  -- a token that yields no text makes no phrase, so none is missed where the tree stays as it is
  have hnone : r.quoting.yield token = [] → phrasesMade before token = [] := by
    intro hy
    rw [← h.map_text_phrasesMade hword] at hy
    exact List.map_eq_nil_iff.mp hy
  rcases r.tree_step_cases token with ⟨ht, hy, ho⟩ | ⟨text, mode, ht, _, ho, ha⟩ | ⟨ht, hy, ho⟩ <;>
    rw [ht]
  · rw [hgroups ho, hnone hy]
    simp
  · rw [hgroups ho, h.phrasesMade_of_adds hword ha, Tree.links_addPhrase, List.append_nil]
    exact ⟨rfl, fun id => h.cursor ▸ Tree.phrasesAt_addPhrase text mode hc id⟩
  · have hmade : groupsMade before token = [(some r.cursor, r.combinator.mode)] := by
      rw [groupsMade, if_pos (h.opens_iff.mp ho), h.cursor, h.combinator]
    rw [hmade, hnone hy, Tree.links_addGroup]
    refine ⟨rfl, fun id => ?_⟩
    rw [Tree.phrasesAt_addGroup _ hc]
    simp

/-- **A run adds what its tokens make**, one after the other. -/
theorem tree_run (query : String) (h : Draft.start.level? (before ++ tokens) = some s)
    (hword : ∀ t ∈ before, t.kind = .word → t.IsSolid) :
    ((start query).run before).tree.links = (none, .default)
        :: (places before).flatMap (fun place => groupsMade place.1 place.2)
      ∧ ∀ id, ((start query).run before).tree.phrasesAt id
        = (places before).flatMap fun place =>
          if groupAt place.1 = id then phrasesMade place.1 place.2 else [] := by
  induction before using List.reverseRecOn generalizing tokens with
  | nil =>
    refine ⟨rfl, fun id => ?_⟩
    cases id <;> rfl
  | append_singleton before token ih =>
    rw [List.append_assoc] at h
    obtain ⟨hlinks, hphrases⟩ := ih h fun t ht => hword t (List.mem_append_left _ ht)
    have hfollows := follows_run (follows_start query) before
    -- the state from which going back starts is that after the tokens before this one
    obtain ⟨hgroups, hmade⟩ := tree_step (stands_run query h) hfollows.opened.lt_size
      (hword token (by simp))
    rw [run_concat, places_concat]
    refine ⟨?_, fun id => ?_⟩
    · rw [hgroups, hlinks, List.flatMap_append, List.flatMap_singleton, List.cons_append]
    · rw [hmade id, hphrases id, List.flatMap_append, List.flatMap_singleton]

end Reader

/-! ## At the top -/

/--
**The mode of every phrase and of every group is told from the tokens before it.** Besides the
whole query there is one group for each `(` outside quotes, in the group that is open there and
with the mode of the last keyword directly in it. The phrases of a group are those that words
and closing quotes make while it is the innermost one open. A word has the mode of the last sign
after the last word, in whatever group that stands, and if there is none, then that of the last
keyword directly in its group; a quoted text has the mode of that keyword and leaves the sign
waiting, as a group does. No keyword excludes anything.
-/
theorem parse_modes (o : Options) (query : String) :
    (parse o query).links = (none, .default)
        :: (places (tokenize o query)).flatMap (fun place => groupsMade place.1 place.2)
      ∧ (∀ id, (parse o query).phrasesAt id = (places (tokenize o query)).flatMap fun place =>
          if groupAt place.1 = id then phrasesMade place.1 place.2 else [])
      ∧ (∀ before, ((Reader.start query).run before).sign = signAt before)
      ∧ ∀ before, (keywordAt before).mode ≠ .exclude := by
  have hlevel := Draft.level?_start o query
  rw [← List.append_nil (tokenize o query)] at hlevel
  obtain ⟨hlinks, hphrases⟩ := Reader.tree_run query hlevel
    fun t ht => Token.isSolid_of_mem_tokenize ht
  refine ⟨hlinks, hphrases, Reader.sign_run query, fun before => ?_⟩
  exact Combinator.mode_ne_exclude (keywordAt before)

/-- A sign waits through a group and a quoted text, and the keyword outside waits for its end. -/
example : (parse ⟨false⟩ "a or - (\"b c\" and d) e").phrasesAt 0
        = [⟨"a", .default, false⟩, ⟨"e", .or, false⟩]
      ∧ (parse ⟨false⟩ "a or - (\"b c\" and d) e").phrasesAt 1
        = [⟨"b c", .default, true⟩, ⟨"d", .exclude, false⟩] := by
  decide

end SearchQuery
