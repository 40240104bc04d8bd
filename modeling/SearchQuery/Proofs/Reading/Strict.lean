import SearchQuery.Proofs.Reading.Draft

/-!
# Nothing is missing while tokens are read

The reader is total. It asks for a group by number and goes on if there is none, it takes the
default keyword where no level is left, and it gives up a level without looking whether one
remains. `Reader.step?` is the same step with none of this tolerance: it fails where a number
has no group, where a keyword is asked for or set without a level, and where the level of the
whole query would be given up.

That the strict step never fails hangs on the cursor and the levels moving together, which is
`Reader.InStep`: there is a group at the cursor, and there is one level more than there are
groups around it. A state in step is strict (`Reader.InStep.step?_eq`). To be in step is not
enough to stay so, because it says nothing about the links of the tree; what a run keeps is that
the reader follows a draft, and such a reader is in step (`Follows.inStep`).
-/

namespace SearchQuery

namespace Tree

variable {t : Tree} {i p : NodeId}

/-! ## Strict access to the groups -/

/-- Adds a phrase to a group that must be there. -/
def addPhrase? (t : Tree) (id : NodeId) (text : String) (mode : Mode) : Option Tree :=
  if id < t.size then some (t.addPhrase id text mode) else none

/-- Opens a group inside another that must be there. -/
def addGroup? (t : Tree) (parent : NodeId) (mode : Mode) : Option Tree :=
  if parent < t.size then some (t.addGroup parent mode) else none

/-- The parent, if it has one, of a group that must be there. -/
def parentOf? (t : Tree) (id : NodeId) : Option (Option NodeId) :=
  (t.node? id).map Node.parent

/--
The walk up from a group meets the whole query after so many steps, and on its way nothing but
groups that are there.
-/
inductive Climbs (t : Tree) : NodeId → Nat → Prop where
  | root {i : NodeId} {node : Node} :
      t.node? i = some node → node.parent = none → Climbs t i 0
  | step {i p : NodeId} {node : Node} {steps : Nat} :
      t.node? i = some node → node.parent = some p → Climbs t p steps → Climbs t i (steps + 1)

/-- Every number that a group holds, of its parent or of a child, is that of a group. -/
def LinksInside (t : Tree) : Prop :=
  ∀ i node, t.node? i = some node →
    (∀ p, node.parent = some p → p < t.size) ∧ ∀ c ∈ node.children, c < t.size

theorem parentOf?_eq (h : i < t.size) : t.parentOf? i = some (t.parent? i) := by
  have hnode : t.node? i = some t.nodes[i] := Array.getElem?_eq_getElem h
  rw [parentOf?, Tree.parent?, hnode]
  rfl

/-- A group with a parent is not at depth zero. -/
theorem depth_pos (h : t.parent? i = some p) : 0 < t.depth i := by
  have hlt := lt_size_of_parent? h
  obtain ⟨s, hs⟩ : ∃ s, t.size = s + 1 := ⟨t.size - 1, by omega⟩
  rw [Tree.depth, hs, Tree.depthWithin, h]
  exact Nat.succ_pos _

/-- The walk up from an open group takes one step for each group around it. -/
theorem Within.climbs {q : Option NodeId} {outer : List Frame} {node : Node}
    (h : Within t q i outer) (hn : t.node? i = some node) (hq : node.parent = q) :
    t.Climbs i outer.length := by
  induction h generalizing node with
  | root => exact .root hn hq
  | @child p i q ids f outer hparent _ _ ih =>
    have hclimbs : t.Climbs p outer.length := ih hparent rfl
    exact .step hn hq hclimbs

theorem WellFormed.linksInside (h : t.WellFormed) : t.LinksInside := by
  intro i node hn
  have hlt := lt_size_of_node? hn
  constructor
  · intro p hp
    have hparent : t.parent? i = some p := by rw [Tree.parent?, hn]; exact hp
    -- the whole query has no parent, and any other group is listed by one that is there
    rcases Nat.eq_zero_or_pos i with rfl | hpos
    · have hroot := (h.root_only.2 0 hlt).mpr rfl
      rw [hparent] at hroot
      cases hroot
    · obtain ⟨p', hlt', hparent', _⟩ := h.listed_once i hpos hlt
      obtain rfl : p = p' := Option.some.inj (hparent.symm.trans hparent')
      exact Nat.lt_trans hlt' hlt
  · intro c hc
    exact lt_size_of_parent? (h.child_parent i node hn c hc)

end Tree

namespace Reader

/-! ## The strict reader -/

/-- The combinator of the group that is open, if there is a level. -/
def combinator? (r : Reader) : Option Combinator :=
  r.levels.head?

/-- Sets the combinator of the group that is open, if there is a level. -/
def setCombinator? (r : Reader) (c : Combinator) : Option Reader :=
  match r.levels with
  | [] => none
  | _ :: outer => some { r with levels := c :: outer }

/-- Adds a phrase to the group at the cursor, which must be there. -/
def addPhrase? (r : Reader) (text : String) (mode : Mode) : Option Reader := do
  let tree ← r.tree.addPhrase? r.cursor text mode
  return { r with tree := tree }

/-- Adds a word; without a sign that waits there must be a level. -/
def addWord? (r : Reader) (text : String) : Option Reader := do
  let mode ← match r.sign with
    | some sign => some sign.mode
    | none => r.combinator?.map Combinator.mode
  let after ← r.addPhrase? text mode
  return { after with sign := none }

/-- Opens a group in the one at the cursor, which must be there and have a level. -/
def openGroup? (r : Reader) : Option Reader := do
  let c ← r.combinator?
  let tree ← r.tree.addGroup? r.cursor c.mode
  return { r with tree := tree, cursor := r.tree.size, levels := .none :: r.levels }

/-- Goes back to the group around the one at the cursor, which must be there; if there is a group
around it, a level must be left for that one. -/
def closeGroup? (r : Reader) : Option Reader := do
  match ← r.tree.parentOf? r.cursor with
  | none => return r
  | some parent =>
    match r.levels with
    | _ :: base :: outer => return { r with cursor := parent, levels := base :: outer }
    | _ => none

/-- One token outside quotes. -/
def stepOutside? (r : Reader) (token : Token) : Option Reader :=
  match token.kind with
  | .space | .colon => some r
  | .quote => some { r with quoting := .inside "" }
  | .word => r.addWord? token.text
  | .or => r.setCombinator? .or
  | .and => r.setCombinator? .and
  | .parenOpen => r.openGroup?
  | .parenClose => r.closeGroup?
  | .plus => some { r with sign := some .plus }
  | .minus => some { r with sign := some .minus }

/-- One token between quotes, after the text so far. -/
def stepInside? (r : Reader) (text : String) (token : Token) : Option Reader :=
  if token.kind = .quote then do
    let c ← r.combinator?
    let after ← r.addPhrase? text c.mode
    return { after with quoting := .outside }
  else some { r with quoting := .inside (text ++ token.text) }

/-- One token. -/
def step? (r : Reader) (token : Token) : Option Reader :=
  match r.quoting with
  | .outside => r.stepOutside? token
  | .inside text => r.stepInside? text token

/-- Reads the tokens in order. -/
def run? (r : Reader) (tokens : List Token) : Option Reader :=
  tokens.foldlM step? r

/-! ## In step, nothing is missing -/

/-- There is a group at the cursor, and a level for it and for each group around it. -/
structure InStep (r : Reader) : Prop where
  cursor : r.cursor < r.tree.size
  levels : r.levels.length = r.tree.depth r.cursor + 1

variable {r : Reader}

theorem InStep.levels_ne_nil (h : r.InStep) : r.levels ≠ [] := by
  intro hnil
  have hlevels := h.levels
  rw [hnil] at hlevels
  cases hlevels

theorem InStep.combinator?_eq (h : r.InStep) : r.combinator? = some r.combinator := by
  obtain ⟨c, outer, hcons⟩ := List.exists_cons_of_ne_nil h.levels_ne_nil
  rw [combinator?, combinator, hcons]
  rfl

theorem InStep.setCombinator?_eq (h : r.InStep) (c : Combinator) :
    r.setCombinator? c = some (r.setCombinator c) := by
  obtain ⟨c', outer, hcons⟩ := List.exists_cons_of_ne_nil h.levels_ne_nil
  rw [setCombinator?, setCombinator, hcons]

theorem InStep.addPhrase?_eq (h : r.InStep) (text : String) (mode : Mode) :
    r.addPhrase? text mode = some (r.addPhrase text mode) := by
  rw [addPhrase?, Tree.addPhrase?, if_pos h.cursor]
  rfl

theorem InStep.addWord?_eq (h : r.InStep) (text : String) :
    r.addWord? text = some (r.addWord text) := by
  unfold addWord? addWord
  cases r.sign with
  | some sign =>
    -- with a sign waiting no level is asked for
    dsimp only
    rw [Option.bind_eq_bind, Option.bind_some, h.addPhrase?_eq]
    rfl
  | none =>
    dsimp only
    rw [h.combinator?_eq, Option.map_some, Option.bind_eq_bind, Option.bind_some, h.addPhrase?_eq]
    rfl

theorem InStep.openGroup?_eq (h : r.InStep) : r.openGroup? = some r.openGroup := by
  rw [openGroup?, h.combinator?_eq, Option.bind_eq_bind, Option.bind_some, Tree.addGroup?,
    if_pos h.cursor]
  rfl

/-- Where there is a group to go back to, there are two levels at least, and one remains. -/
theorem InStep.closeGroup?_eq (h : r.InStep) : r.closeGroup? = some r.closeGroup := by
  rw [closeGroup?, Tree.parentOf?_eq h.cursor, Option.bind_eq_bind, Option.bind_some, closeGroup]
  cases hparent : r.tree.parent? r.cursor with
  | none => rfl
  | some p =>
    -- a parent means a depth of one at least, and by the invariant two levels or more
    have hdepth := Tree.depth_pos hparent
    have hlevels := h.levels
    dsimp only
    split
    · rename_i hcons
      rw [hcons]
      rfl
    · rename_i hshort
      -- a stack of fewer than two levels is too short for a group that has a parent
      cases hl : r.levels with
      | nil => exact absurd hl h.levels_ne_nil
      | cons c outer =>
        cases outer with
        | nil =>
          rw [hl, List.length_singleton] at hlevels
          omega
        | cons base outer => exact absurd hl (hshort c base outer)

/-- **In step, the strict reader reads a token as the reader does.** -/
theorem InStep.step?_eq (h : r.InStep) (token : Token) : r.step? token = some (r.step token) := by
  unfold step? step
  cases r.quoting with
  | outside =>
    show r.stepOutside? token = some (r.stepOutside token)
    unfold stepOutside? stepOutside
    cases token.kind with
    | word => exact h.addWord?_eq token.text
    | or => exact h.setCombinator?_eq .or
    | and => exact h.setCombinator?_eq .and
    | parenOpen => exact h.openGroup?_eq
    | parenClose => exact h.closeGroup?_eq
    | space | colon | quote | plus | minus => rfl
  | inside text =>
    show r.stepInside? text token = some (r.stepInside text token)
    unfold stepInside? stepInside
    by_cases hquote : token.kind = .quote
    · rw [if_pos hquote, if_pos hquote, h.combinator?_eq, Option.bind_eq_bind, Option.bind_some,
        h.addPhrase?_eq]
      rfl
    · rw [if_neg hquote, if_neg hquote]

end Reader

/-! ## A run stays in step -/

variable {r : Reader} {d : Draft}

/-- A reader that follows a draft is in step: the groups of the draft that are open around the
cursor are counted by its levels and by its depth alike. -/
theorem Follows.inStep (h : Follows r d) : r.InStep where
  cursor := h.opened.lt_size
  levels := by rw [h.levels, List.length_cons, List.length_map, h.opened.depth]

theorem Follows.run?_eq (h : Follows r d) (tokens : List Token) :
    r.run? tokens = some (r.run tokens) := by
  induction tokens generalizing r d with
  | nil => rfl
  | cons token tokens ih =>
    -- that the step stays in step comes from the draft, which the rest follows again
    have hrest : (r.step token).run? tokens = some ((r.step token).run tokens) :=
      ih (follows_step h token)
    rw [Reader.run?, List.foldlM_cons, h.inStep.step?_eq, Option.bind_eq_bind, Option.bind_some]
    exact hrest

theorem Follows.climbs (h : Follows r d) : r.tree.Climbs r.cursor (r.tree.depth r.cursor) := by
  obtain ⟨q, ids, hn, _, hwithin⟩ := h.opened
  rw [h.opened.depth]
  exact hwithin.climbs hn rfl

/-! ## At the top -/

/--
**The cursor and the levels move together**, whatever tokens are read, balanced or not. There is a
group at the cursor, and there is one level more than there are groups around it, so there is
always one. The walk up from the cursor that counts them meets groups only, and no number in the
tree points outside. So the strict reader reads the tokens as the reader does: it never fails for
want of a group or of a level, and it never has to give up the level of the whole query.
-/
theorem levels_follow_cursor (query : String) (tokens : List Token) :
    let r := (Reader.start query).run tokens
    r.cursor < r.tree.size
      ∧ r.levels ≠ []
      ∧ r.levels.length = r.tree.depth r.cursor + 1
      ∧ r.tree.Climbs r.cursor (r.tree.depth r.cursor)
      ∧ r.tree.LinksInside
      ∧ (Reader.start query).run? tokens = some r := by
  intro r
  have hstart : Follows (.start query) .start := follows_start query
  have hfollows : Follows r (Draft.start.run tokens) := follows_run hstart tokens
  have hwellFormed : r.tree.WellFormed := (stores_run query tokens).wellFormed
  exact ⟨hfollows.inStep.cursor, hfollows.inStep.levels_ne_nil, hfollows.inStep.levels,
    hfollows.climbs, hwellFormed.linksInside, hstart.run?_eq tokens⟩

/-- With a level too few in it, a state is not in step, and a `)` is more than it can take. -/
example : Reader.step? ⟨(Tree.empty "").addGroup 0 .default, 1, .outside, [.none], none⟩
    ⟨.parenClose, ")"⟩ = none := by decide

end SearchQuery
