import SearchQuery.Proofs.Outline.Lines
import SearchQuery.Proofs.Reading.Draft
import SearchQuery.Proofs.Terminal.Painting
import SearchQuery.Terminal.Outline

/-!
# The outline in colour has the lines of the outline

The plain outline goes down an expression and carries the depth with it. The one in colour
goes down the numbers of a tree and counts for each group, from parent to parent, how many
groups are around it. The two depths agree because a parent is older than its child, so the
count up never runs out of numbers and a child lies one deeper than its parent
(`Stores.depth_eq`).

`forall₂_styledContents` says of any relation between lines that it holds of the two outlines,
line by line, as soon as it holds of the line of any phrase and of any group. Equality is one
such relation when the colours are off, and "with the colours taken out, the first is the
second" is one when they are on.
-/

namespace SearchQuery

/-! ## How deep a group lies -/

namespace Tree

variable {t : Tree} {e : Expression} {i p fuel fuel' : Nat}

/-- The parent of a group is older. -/
theorem Stores.parent?_lt (h : Stores t none root e t.size) (hp : t.parent? i = some p) :
    p < i := by
  have hi := lt_size_of_parent? hp
  -- what is stored there is the whole query, without a parent, or has a parent that is older
  obtain ⟨q, e', k, hst, _, ⟨_, rfl⟩ | ⟨m, rfl, _, hlt, _⟩⟩ := h.at hi
  · rw [hst.parent?] at hp
    cases hp
  · obtain rfl : m = p := Option.some.inj (hst.parent?.symm.trans hp)
    exact hlt

/-- A count up from a group takes no more steps than its number. -/
theorem Stores.depthWithin_eq (h : Stores t none root e t.size) (hi : i < fuel)
    (hi' : i < fuel') : t.depthWithin fuel i = t.depthWithin fuel' i := by
  induction i using Nat.strongRecOn generalizing fuel fuel' with
  | ind i ih =>
    obtain ⟨n, rfl⟩ := Nat.exists_eq_succ_of_ne_zero (Nat.ne_zero_of_lt hi)
    obtain ⟨n', rfl⟩ := Nat.exists_eq_succ_of_ne_zero (Nat.ne_zero_of_lt hi')
    rw [depthWithin, depthWithin]
    cases hp : t.parent? i with
    | none => rfl
    | some p =>
      -- both counts go on from the parent, which is older
      have hlt := h.parent?_lt hp
      exact congrArg (· + 1) (ih p hlt (by omega) (by omega))

/-- **A group lies one deeper than its parent.** -/
theorem Stores.depth_eq (h : Stores t none root e t.size) (hp : t.parent? i = some p) :
    t.depth i = t.depth p + 1 := by
  have hi := lt_size_of_parent? hp
  have hup : t.depthWithin (t.size + 1) i = t.depthWithin t.size p + 1 := by
    rw [depthWithin, hp]
  rw [depth, depth, ← hup]
  exact h.depthWithin_eq hi (Nat.lt_succ_of_lt hi)

/-- The mode of a stored expression stands in its node. -/
theorem Stores.mode_node? {parent : Option NodeId} {j : Nat} (h : Stores t parent i e j) :
    ∃ node, t.node? i = some node ∧ node.mode = e.mode := by
  cases h with
  | group hn _ => exact ⟨_, hn, rfl⟩

end Tree

namespace Terminal

/-! ## Line by line -/

/-- The line of a phrase as a styler writes it. -/
def Styler.phraseLine (s : Styler) (depth : Nat) (p : Phrase) : String :=
  Expression.margin depth ++ "Phrase(" ++ s.mode p.mode ++ ", " ++ Text.quoted p.text ++ ")"

/-- The line that announces a group as a styler writes it. -/
def Styler.groupLine (s : Styler) (depth : Nat) (mode : Mode) : String :=
  Expression.margin depth ++ "Group(" ++ s.mode mode ++ ")"

/-- The lines of a group that a walk announces. -/
def styledGroup (t : Tree) (s : Styler) (fuel depth : Nat) (id : NodeId) : List String :=
  match t.node? id with
  | none => []
  | some c => s.groupLine depth c.mode :: styledContents t s fuel id

/-- A relation between lines that holds of what a styler writes and of what it would leave alone. -/
structure Styler.Writes (s : Styler) (R : String → String → Prop) : Prop where
  phrase : ∀ depth p, R (s.phraseLine depth p) (Expression.phraseLine depth p)
  group : ∀ depth m, R (s.groupLine depth m) (Expression.groupLine depth m)

variable {t : Tree} {s : Styler} {R : String → String → Prop} {whole : Expression}

theorem styledContents_eq {i : NodeId} {node : Node} (hn : t.node? i = some node) (fuel : Nat) :
    styledContents t s (fuel + 1) i
      = node.phrases.map (s.phraseLine (t.depth i + 1))
        ++ node.children.flatMap (styledGroup t s fuel (t.depth i + 1)) := by
  rw [styledContents, hn]
  rfl

mutual

/-- **The two outlines of a stored expression correspond line by line.** -/
theorem forall₂_styledContents (hroot : t.Stores none Tree.root whole t.size) (hR : s.Writes R)
    {parent : Option NodeId} {i j : Nat} {e : Expression} :
    ∀ (fuel : Nat), t.Stores parent i e j → j ≤ i + fuel →
      List.Forall₂ R (styledContents t s fuel i) (e.outline (t.depth i + 1))
  | 0, h, hf => absurd h.lt (by omega)
  | fuel + 1, .group hn hs, hf => by
    rw [styledContents_eq hn, Expression.outline]
    refine List.rel_append ?_ (forall₂_styledGroups hroot hR fuel hs (by omega))
    exact List.forall₂_map_left_iff.mpr (List.forall₂_map_right_iff.mpr
      (List.forall₂_same.mpr fun p _ => hR.phrase _ p))

theorem forall₂_styledGroups (hroot : t.Stores none Tree.root whole t.size) (hR : s.Writes R)
    {p i j : Nat} {ids : List Nat} {es : List Expression} :
    ∀ (fuel : Nat), t.StoresAll p i ids es j → j ≤ i + fuel →
      List.Forall₂ R (ids.flatMap (styledGroup t s fuel (t.depth p + 1)))
        (Expression.outlineAll (t.depth p + 1) es)
  | _, .nil, _ => .nil
  | fuel, .cons h hs, hf => by
    have hlt := h.lt
    have hle := hs.le
    obtain ⟨node, hn, hmode⟩ := h.mode_node?
    have hfirst := forall₂_styledContents hroot hR fuel h (by omega)
    -- the contents of the child are counted from the child, its own line from its parent
    rw [hroot.depth_eq h.parent?] at hfirst
    rw [List.flatMap_cons, styledGroup, hn, Expression.outlineAll, ← hmode]
    exact List.rel_append (.cons (hR.group _ _) hfirst)
      (forall₂_styledGroups hroot hR fuel hs (by omega))

end

/-- The outlines of a whole tree correspond, heading and all. -/
theorem forall₂_styledOutline (hroot : t.Stores none Tree.root whole t.size) (hR : s.Writes R)
    (hheading : R (s.header t.heading) t.heading) :
    List.Forall₂ R (s.header t.heading :: styledContents t s t.size Tree.root)
      t.outlineLines := by
  have hdepth : t.depth Tree.root = 0 := by
    obtain ⟨n, hn⟩ := Nat.exists_eq_succ_of_ne_zero (Nat.ne_zero_of_lt hroot.lt)
    rw [Tree.depth, hn, Tree.depthWithin, hroot.parent?]
  have hwhole : t.rootExpression = whole := hroot.expressionWithin t.size (Nat.le_add_left _ _)
  have hlines := forall₂_styledContents hroot hR t.size hroot (Nat.le_add_left _ _)
  rw [hdepth, Nat.zero_add, ← hwhole] at hlines
  exact .cons hheading hlines

/-! ## With colours and without -/

theorem Styler.writes_off : (⟨false⟩ : Styler).Writes (· = ·) :=
  ⟨fun _ _ => rfl, fun _ _ => rfl⟩

theorem shows_printable {text : String} (h : ∀ c ∈ text.toList, Text.isPrintable c = true) :
    Shows text text :=
  shows_self (Text.not_mem_of_isPrintable h (by decide))

theorem shows_margin (d : Nat) : Shows (Expression.margin d) (Expression.margin d) :=
  shows_self fun h => absurd (Expression.mem_margin h) (by decide)

theorem Styler.shows_mode (s : Styler) (m : Mode) : Shows (s.mode m) m.label :=
  s.shows_paint [modeColor m]
    (Text.not_mem_of_isPrintable (fun _ => Mode.isPrintable_of_mem_label) (by decide))

/-- With the colours taken out, a line is what it would be without them. -/
theorem Styler.writes_shows (s : Styler) : s.Writes Shows where
  phrase := by
    intro depth p
    have hname : Shows "Phrase(" "Phrase(" := shows_self (by decide)
    have hcomma : Shows ", " ", " := shows_self (by decide)
    have hend : Shows ")" ")" := shows_self (by decide)
    have htext : Shows (Text.quoted p.text) (Text.quoted p.text) :=
      shows_printable fun _ => Text.isPrintable_of_mem_quoted
    -- only the mode is in colour, so all else shows itself
    have hmode := ((shows_margin depth).append hname).append (s.shows_mode p.mode)
    exact ((hmode.append hcomma).append htext).append hend
  group := by
    intro depth m
    have hname : Shows "Group(" "Group(" := shows_self (by decide)
    have hend : Shows ")" ")" := shows_self (by decide)
    exact (((shows_margin depth).append hname).append (s.shows_mode m)).append hend

/-- Lines that are ended show the lines that they show. -/
theorem shows_join_ended {lines plains : List String} (h : List.Forall₂ Shows lines plains) :
    Shows (String.join (lines.map (· ++ "\n"))) (String.join (plains.map (· ++ "\n"))) := by
  have hbreak : Shows "\n" "\n" := shows_self (by decide)
  apply shows_join
  rw [List.forall₂_map_left_iff, List.forall₂_map_right_iff]
  exact h.imp fun _ _ hline => hline.append hbreak

/--
**The outline in colour is the outline.** Without colours it is the same text, and with them
it is the same text as soon as every escape sequence for colour is deleted from it, wherever
in the text it stands: what was typed adds none.
-/
theorem styledOutline_parse (o : Options) (query : String) :
    styledOutline (parse o query) ⟨false⟩ = (parse o query).outline
      ∧ unpainted (styledOutline (parse o query) ⟨true⟩) = (parse o query).outline := by
  have hroot := stores_parse o query
  constructor
  · have hlines := forall₂_styledOutline hroot Styler.writes_off rfl
    rw [List.forall₂_eq_eq_eq] at hlines
    rw [styledOutline, hlines, Tree.outline]
  · have hprintable : ∀ c ∈ (parse o query).heading.toList, Text.isPrintable c = true := fun _ =>
      Tree.isPrintable_of_mem_outlineLines List.mem_cons_self
    have hheading : Shows ((⟨true⟩ : Styler).header (parse o query).heading)
        (parse o query).heading :=
      Styler.shows_paint _ _ (Text.not_mem_of_isPrintable hprintable (by decide))
    have hlines := forall₂_styledOutline hroot (Styler.writes_shows ⟨true⟩) hheading
    exact (shows_join_ended hlines).unpainted_eq

end Terminal

end SearchQuery
