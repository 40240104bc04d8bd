import SearchQuery.Proofs.Tree.Growth
import SearchQuery.Proofs.Tree.WellFormed

/-!
# Reading without numbers

The reader keeps a tree of numbered groups, a cursor into it and a list of
combinators. A `Draft` is the same reading without any of the three: the contents of
the open groups, innermost first, and nothing else. `Draft.step` takes the same
decisions as `Reader.step` on these contents.

`Follows r d` says that the reader `r` holds in its tree what `d` has written, and
`follows_step` that one token keeps it so. Whatever is asked of the expressions that a
reading yields can then be asked of drafts, where no group has a number; and whatever
is asked of the numbers follows from there being a draft at all. That every tree is
well formed, whatever tokens were read, is the first thing to follow.
-/

namespace SearchQuery

/-- A query that is being written: its open groups, and what the reader has in mind besides. -/
structure Draft where
  /-- The group that is open. -/
  inner : Frame
  /-- The groups open around it, innermost first. -/
  outer : List Frame
  quoting : Quoting
  sign : Option Sign

namespace Draft

/-- The draft before the first token. -/
def start : Draft := ⟨.new .default, [], .outside, none⟩

/-- Sets the combinator of the group that is open. -/
def setCombinator (d : Draft) (c : Combinator) : Draft :=
  { d with inner := { d.inner with combinator := c } }

/-- Adds a phrase to the group that is open. -/
def addPhrase (d : Draft) (text : String) (mode : Mode) : Draft :=
  { d with inner := d.inner.addPhrase text mode }

/-- The mode of a word: the sign that waits decides, or else the combinator. -/
def wordMode (sign : Option Sign) (c : Combinator) : Mode :=
  match sign with
  | some sign => sign.mode
  | none => c.mode

/-- Adds a word; it takes the sign that waits, if there is one. -/
def addWord (d : Draft) (text : String) : Draft :=
  { d.addPhrase text (wordMode d.sign d.inner.combinator) with sign := none }

/-- Opens a group in the one that is open. -/
def openGroup (d : Draft) : Draft :=
  { d with inner := .new d.inner.combinator.mode, outer := d.inner :: d.outer }

/-- Closes the group that is open, if there is one around it. -/
def closeGroup (d : Draft) : Draft :=
  match d.outer with
  | [] => d
  | g :: outer => { d with inner := g.addChild d.inner.expression, outer := outer }

/-- One token outside quotes. -/
def stepOutside (d : Draft) (token : Token) : Draft :=
  match token.kind with
  | .space | .colon => d
  | .quote => { d with quoting := .inside "" }
  | .word => d.addWord token.text
  | .or => d.setCombinator .or
  | .and => d.setCombinator .and
  | .parenOpen => d.openGroup
  | .parenClose => d.closeGroup
  | .plus => { d with sign := some .plus }
  | .minus => { d with sign := some .minus }

/-- One token between quotes, after the text so far. -/
def stepInside (d : Draft) (text : String) (token : Token) : Draft :=
  if token.kind = .quote then
    { d.addPhrase text d.inner.combinator.mode with quoting := .outside }
  else { d with quoting := .inside (text ++ token.text) }

/-- One token. -/
def step (d : Draft) (token : Token) : Draft :=
  match d.quoting with
  | .outside => d.stepOutside token
  | .inside text => d.stepInside text token

/-- Writes the tokens in order. -/
def run (d : Draft) (tokens : List Token) : Draft :=
  tokens.foldl step d

/-- The whole query, when all open groups are closed as they stand. -/
def expression (d : Draft) : Expression := d.inner.close d.outer

theorem run_cons (d : Draft) (token : Token) (tokens : List Token) :
    d.run (token :: tokens) = (d.step token).run tokens := rfl

theorem run_append (d : Draft) (tokens more : List Token) :
    d.run (tokens ++ more) = (d.run tokens).run more :=
  List.foldl_append

end Draft

theorem Quoting.eq_outside {q : Quoting} (h : q.isInside = false) : q = .outside := by
  cases q with
  | outside => rfl
  | inside text => cases h

/-! ## The reader follows the draft -/

/-- The reader holds in its tree what the draft has written. -/
structure Follows (r : Reader) (d : Draft) : Prop where
  /-- The group at the cursor is the open group, inside the groups open around it. -/
  opened : r.tree.Opened r.cursor d.inner d.outer
  /-- The combinators are those of the open groups. -/
  levels : r.levels = d.inner.combinator :: d.outer.map Frame.combinator
  quoting : r.quoting = d.quoting
  sign : r.sign = d.sign

variable {r : Reader} {d : Draft}

theorem follows_start (query : String) : Follows (.start query) .start :=
  ⟨Tree.opened_empty query, rfl, rfl, rfl⟩

theorem Follows.combinator (h : Follows r d) : r.combinator = d.inner.combinator := by
  rw [Reader.combinator, h.levels]
  rfl

theorem Follows.setQuoting (h : Follows r d) (q : Quoting) :
    Follows { r with quoting := q } { d with quoting := q } :=
  ⟨h.opened, h.levels, rfl, h.sign⟩

theorem Follows.setSign (h : Follows r d) (sign : Option Sign) :
    Follows { r with sign := sign } { d with sign := sign } :=
  ⟨h.opened, h.levels, h.quoting, rfl⟩

theorem Frame.combinator_addPhrase (f : Frame) (text : String) (mode : Mode) :
    (f.addPhrase text mode).combinator = f.combinator := by
  unfold Frame.addPhrase
  dsimp only
  split <;> rfl

theorem Follows.addPhrase (h : Follows r d) (text : String) (mode : Mode) :
    Follows (r.addPhrase text mode) (d.addPhrase text mode) := by
  have hopened := h.opened.addPhrase text mode
  have hlevels : r.levels
      = (d.inner.addPhrase text mode).combinator :: d.outer.map Frame.combinator := by
    rw [Frame.combinator_addPhrase, h.levels]
  rw [Reader.addPhrase, Draft.addPhrase]
  refine ⟨?_, ?_, h.quoting, h.sign⟩ <;> dsimp only
  · exact hopened
  · exact hlevels

theorem Follows.addWord (h : Follows r d) (text : String) :
    Follows (r.addWord text) (d.addWord text) := by
  -- the reader decides on the mode as the draft does, from the same sign and combinator
  have hword : r.addWord text
      = { r.addPhrase text (Draft.wordMode d.sign d.inner.combinator) with sign := none } := by
    rw [Reader.addWord, h.sign, h.combinator]
    rfl
  rw [hword]
  exact (h.addPhrase text (Draft.wordMode d.sign d.inner.combinator)).setSign none

theorem Follows.setCombinator (h : Follows r d) (c : Combinator) :
    Follows (r.setCombinator c) (d.setCombinator c) := by
  have hlevels := h.levels
  unfold Reader.setCombinator
  split
  · -- the list of combinators is never empty, since the open group has one
    rename_i hnil
    rw [hnil] at hlevels
    cases hlevels
  · rename_i outer hcons
    rw [hcons] at hlevels
    obtain ⟨_, houter⟩ := List.cons.inj hlevels
    exact ⟨h.opened, congrArg (c :: ·) houter, h.quoting, h.sign⟩

theorem Follows.openGroup (h : Follows r d) : Follows r.openGroup d.openGroup where
  opened := by
    show (r.tree.addGroup r.cursor r.combinator.mode).Opened _ _ _
    rw [h.combinator]
    exact h.opened.addGroup d.inner.combinator.mode
  levels := congrArg (Combinator.none :: ·) h.levels
  quoting := h.quoting
  sign := h.sign

theorem Follows.closeGroup (h : Follows r d) : Follows r.closeGroup d.closeGroup := by
  obtain ⟨f, outer, quoting, sign⟩ := d
  cases outer with
  | nil =>
    -- nothing is around the whole query, so neither the reader nor the draft moves
    have hroot : r.closeGroup = r := by rw [Reader.closeGroup, h.opened.root]
    rw [hroot]
    exact h
  | cons g outer =>
    obtain ⟨p, hp, hopened⟩ := h.opened.close
    -- the cursor goes to the parent, and the combinator of the closed group is forgotten
    have hclose : r.closeGroup = { r with cursor := p, levels := r.levels.tail } := by
      rw [Reader.closeGroup, hp]
    rw [hclose]
    refine ⟨hopened, ?_, h.quoting, h.sign⟩
    show r.levels.tail = _
    rw [h.levels]
    rfl

/-- **One token keeps the reader and the draft together.** -/
theorem follows_step (h : Follows r d) (token : Token) : Follows (r.step token) (d.step token) := by
  unfold Reader.step Draft.step
  rw [h.quoting]
  cases d.quoting with
  | outside =>
    show Follows (r.stepOutside token) (d.stepOutside token)
    unfold Reader.stepOutside Draft.stepOutside
    cases token.kind with
    | space => exact h
    | colon => exact h
    | quote => exact h.setQuoting (.inside "")
    | word => exact h.addWord token.text
    | or => exact h.setCombinator .or
    | and => exact h.setCombinator .and
    | parenOpen => exact h.openGroup
    | parenClose => exact h.closeGroup
    | plus => exact h.setSign (some .plus)
    | minus => exact h.setSign (some .minus)
  | inside text =>
    show Follows (r.stepInside text token) (d.stepInside text token)
    unfold Reader.stepInside Draft.stepInside
    split
    · rw [h.combinator]
      exact (h.addPhrase text d.inner.combinator.mode).setQuoting .outside
    · exact h.setQuoting (.inside (text ++ token.text))

theorem follows_run (h : Follows r d) (tokens : List Token) :
    Follows (r.run tokens) (d.run tokens) := by
  induction tokens generalizing r d with
  | nil => exact h
  | cons token tokens ih => exact ih (follows_step h token)

/-- The tree of a reading stores what the draft has written. -/
theorem stores_run (query : String) (tokens : List Token) :
    ((Reader.start query).run tokens).tree.Stores none Tree.root
      (Draft.start.run tokens).expression ((Reader.start query).run tokens).tree.size :=
  (follows_run (follows_start query) tokens).opened.stores

/-- A query means what the draft of its tokens has written. -/
theorem rootExpression_parse (o : Options) (query : String) :
    (parse o query).rootExpression = (Draft.start.run (tokenize o query)).expression := by
  have hstores := stores_run query (tokenize o query)
  exact hstores.expressionWithin (parse o query).size (Nat.le_add_left _ _)

/-- The tree of a query fills all its numbers with what it means. -/
theorem stores_parse (o : Options) (query : String) :
    (parse o query).Stores none Tree.root (parse o query).rootExpression (parse o query).size := by
  rw [rootExpression_parse]
  exact stores_run query (tokenize o query)

/-! ## At the top -/

/--
**Every tree is well formed**, whatever tokens were read into it, balanced or not, and
so is the tree of every query.
-/
theorem reading_wellFormed (query : String) :
    (∀ tokens, ((Reader.start query).run tokens).tree.WellFormed)
      ∧ ∀ o, (parse o query).WellFormed :=
  ⟨fun tokens => (stores_run query tokens).wellFormed,
    fun o => (stores_run query (tokenize o query)).wellFormed⟩

end SearchQuery
