import SearchQuery.Proofs.Tree.Storage
import SearchQuery.Query.Parser

/-!
# How a tree grows while a query is read

While a query is read, some groups are still open: the one that receives what comes
next, and the groups around it. A `Frame` is the content of an open group. `Opened`
says that a tree holds a group open with some content inside some others, and its
three laws follow the three changes that a reading makes:

* a phrase goes to the open group and to no other (`Opened.addPhrase`);
* a new group is stored behind everything else and becomes the open one
  (`Opened.addGroup`);
* the open group becomes the last child of the one around it (`Opened.close`).

The open groups are the last ones at their level, so the numbers inside the open group
are the last numbers of the tree. That is why a group that has been closed is never
touched again, and why numbers come out in the order of a walk.
-/

namespace SearchQuery

/-- What an open group holds so far, and the combinator in force in it. -/
structure Frame where
  mode : Mode
  phrases : List Phrase
  children : List Expression
  combinator : Combinator

namespace Frame

/-- A group that has just been opened. -/
def new (mode : Mode) : Frame := ⟨mode, [], [], .none⟩

/-- The content after a phrase; a text that is blank adds nothing. -/
def addPhrase (f : Frame) (text : String) (mode : Mode) : Frame :=
  let phrase := Phrase.ofText text mode
  if phrase.text = "" then f else { f with phrases := f.phrases ++ [phrase] }

/-- The content after a group inside. -/
def addChild (f : Frame) (e : Expression) : Frame :=
  { f with children := f.children ++ [e] }

/-- The group, when it is closed as it stands. -/
def expression (f : Frame) : Expression :=
  .group f.mode f.phrases f.children

/-- The whole query, when all open groups are closed as they stand. -/
def close : Frame → List Frame → Expression
  | f, [] => f.expression
  | f, g :: outer => close (g.addChild f.expression) outer

end Frame

namespace Tree

variable {t t' : Tree} {node : Node} {i n : Nat} {f g : Frame} {outer : List Frame}

/-! ## What the two changes do to the nodes -/

theorem size_addPhrase (t : Tree) (i : NodeId) (text : String) (mode : Mode) :
    (t.addPhrase i text mode).size = t.size := by
  unfold Tree.addPhrase
  dsimp only
  split
  · rfl
  · exact Array.size_modify

theorem node?_addPhrase_of_ne (text : String) (mode : Mode) (hn : i ≠ n) :
    (t.addPhrase i text mode).node? n = t.node? n := by
  unfold Tree.addPhrase
  dsimp only
  split
  · rfl
  · rw [Tree.node?, Array.getElem?_modify, if_neg hn]
    rfl

theorem node?_addPhrase_self {q : Option NodeId} {ids : List NodeId} (text : String) (mode : Mode)
    (hn : t.node? i = some ⟨f.mode, q, f.phrases, ids⟩) :
    (t.addPhrase i text mode).node? i
      = some ⟨(f.addPhrase text mode).mode, q, (f.addPhrase text mode).phrases, ids⟩ := by
  unfold Tree.addPhrase Frame.addPhrase
  dsimp only
  split
  · exact hn
  · rw [Tree.node?, Array.getElem?_modify, if_pos rfl, show t.nodes[i]? = _ from hn]
    rfl

theorem size_addGroup (t : Tree) (i : NodeId) (mode : Mode) :
    (t.addGroup i mode).size = t.size + 1 := by
  show (Array.push _ _).size = _
  rw [Array.size_push, Array.size_modify]
  rfl

theorem node?_addGroup_of_ne (mode : Mode) (hi : i ≠ n) (hn : n < t.size) :
    (t.addGroup i mode).node? n = t.node? n := by
  have hne : n ≠ t.nodes.size := Nat.ne_of_lt hn
  show (Array.push _ _)[n]? = _
  rw [Array.getElem?_push, Array.size_modify, if_neg hne, Array.getElem?_modify, if_neg hi]
  rfl

theorem node?_addGroup_parent (mode : Mode) (hn : t.node? i = some node) :
    (t.addGroup i mode).node? i
      = some { node with children := node.children ++ [t.size] } := by
  have hne : i ≠ t.nodes.size := Nat.ne_of_lt (Array.getElem?_eq_some_iff.mp hn).1
  show (Array.push _ _)[i]? = _
  rw [Array.getElem?_push, Array.size_modify, if_neg hne, Array.getElem?_modify, if_pos rfl,
    show t.nodes[i]? = _ from hn]
  rfl

theorem node?_addGroup_new (t : Tree) (i : NodeId) (mode : Mode) :
    (t.addGroup i mode).node? t.size = some ⟨mode, some i, [], []⟩ := by
  show (Array.push _ _)[t.nodes.size]? = _
  rw [Array.getElem?_push, Array.size_modify, if_pos rfl]

/-! ## Open groups -/

/-- The group `i` is the last so far in the groups of `outer`, which are open around it. -/
inductive Within (t : Tree) : Option NodeId → Nat → List Frame → Prop where
  | root : Within t none root []
  | child {p i : Nat} {q : Option NodeId} {ids : List Nat} {f : Frame} {outer : List Frame} :
      t.node? p = some ⟨f.mode, q, f.phrases, ids ++ [i]⟩ →
      StoresAll t p (p + 1) ids f.children i → Within t q p outer →
      Within t (some p) i (f :: outer)

/-- The tree holds the group `i` open with the content of `f`, inside the groups of `outer`. -/
def Opened (t : Tree) (i : Nat) (f : Frame) (outer : List Frame) : Prop :=
  ∃ q ids, t.node? i = some ⟨f.mode, q, f.phrases, ids⟩
    ∧ StoresAll t i (i + 1) ids f.children t.size ∧ Within t q i outer

/-- The groups around an open group are older than it. -/
theorem Within.congr {q : Option NodeId} (h : Within t q i outer)
    (heq : ∀ n, n < i → t'.node? n = t.node? n) : Within t' q i outer := by
  induction h with
  | root => exact .root
  | @child p i q ids f outer hn hs _ ih =>
    have hlt : p < i := hs.le
    exact .child ((heq p hlt).trans hn) (hs.congr fun n _ hj => heq n hj)
      (ih fun n hp => heq n (Nat.lt_trans hp hlt))

theorem Opened.lt_size (h : Opened t i f outer) : i < t.size := by
  obtain ⟨q, ids, hn, _, _⟩ := h
  exact (Array.getElem?_eq_some_iff.mp hn).1

theorem opened_empty (query : String) : Opened (.empty query) root (.new .default) [] :=
  ⟨none, [], rfl, .nil, .root⟩

/-- **A phrase changes the open group only.** -/
theorem Opened.addPhrase (h : Opened t i f outer) (text : String) (mode : Mode) :
    Opened (t.addPhrase i text mode) i (f.addPhrase text mode) outer := by
  obtain ⟨q, ids, hn, hs, hw⟩ := h
  have hchildren : (f.addPhrase text mode).children = f.children := by
    unfold Frame.addPhrase
    dsimp only
    split <;> rfl
  -- the groups inside have greater numbers than `i`, and the groups around have smaller ones
  refine ⟨q, ids, node?_addPhrase_self text mode hn, ?_, ?_⟩
  · rw [hchildren, size_addPhrase]
    exact hs.congr fun n hi _ => node?_addPhrase_of_ne text mode (by omega)
  · exact hw.congr fun n hi => node?_addPhrase_of_ne text mode (by omega)

/-- **A new group is stored behind all others and is open inside the one that was open.** -/
theorem Opened.addGroup (h : Opened t i f outer) (mode : Mode) :
    Opened (t.addGroup i mode) t.size (.new mode) (f :: outer) := by
  have hlt := h.lt_size
  obtain ⟨q, ids, hn, hs, hw⟩ := h
  have hwithin : Within (t.addGroup i mode) (some i) t.size (f :: outer) :=
    .child (node?_addGroup_parent mode hn)
      (hs.congr fun n hi hj => node?_addGroup_of_ne mode (by omega) hj)
      (hw.congr fun n hi => node?_addGroup_of_ne mode (by omega) (by omega))
  -- the new group has no children yet, so its interval is its own number
  refine ⟨some i, [], node?_addGroup_new t i mode, ?_, hwithin⟩
  rw [size_addGroup]
  exact .nil

/-- **A closed group is the last child of the one around it**, which is open again. -/
theorem Opened.close (h : Opened t i f (g :: outer)) :
    ∃ p, t.parent? i = some p ∧ Opened t p (g.addChild f.expression) outer := by
  obtain ⟨q, ids, hn, hs, hw⟩ := h
  cases hw with
  | @child p _ q' ids' _ _ hn' hs' hw' =>
    have hstored : Stores t (some p) i f.expression t.size := .group hn hs
    exact ⟨p, hstored.parent?, q', ids' ++ [i], hn', hs'.snoc hstored, hw'⟩

/-- The whole query is inside nothing. -/
theorem Opened.root (h : Opened t i f []) : t.parent? i = none := by
  obtain ⟨q, ids, hn, _, hw⟩ := h
  cases hw with
  | root => rw [Tree.parent?, hn]; rfl

/-- A walk up from an open group meets the groups of `outer`, one level for each. -/
theorem Within.depthWithin {q : Option NodeId} (h : Within t q i outer) (hp : t.parent? i = q) :
    ∀ fuel, outer.length ≤ fuel → t.depthWithin fuel i = outer.length := by
  induction h with
  | root =>
    intro fuel _
    cases fuel with
    | zero => rfl
    | succ fuel => rw [Tree.depthWithin, hp]; rfl
  | @child p i q ids f outer hn hs _ ih =>
    intro fuel hf
    rw [List.length_cons] at hf ⊢
    -- one level of the walk takes it to the parent, with one group less around it
    obtain ⟨fuel, rfl⟩ : ∃ n, fuel = n + 1 := ⟨fuel - 1, by omega⟩
    have hparent : t.parent? p = q := by rw [Tree.parent?, hn]; rfl
    rw [Tree.depthWithin, hp]
    exact congrArg (· + 1) (ih hparent fuel (by omega))

/-- There are no more groups around a group than groups older than it. -/
theorem Within.length_le {q : Option NodeId} (h : Within t q i outer) : outer.length ≤ i := by
  induction h with
  | root => exact Nat.zero_le _
  | @child p i q ids f outer _ hs _ ih =>
    have hlt : p < i := hs.le
    rw [List.length_cons]
    omega

/-- **The depth of an open group is the number of groups open around it.** -/
theorem Opened.depth (h : Opened t i f outer) : t.depth i = outer.length := by
  have hlt := h.lt_size
  obtain ⟨q, ids, hn, _, hw⟩ := h
  have hparent : t.parent? i = q := by rw [Tree.parent?, hn]; rfl
  have hle := hw.length_le
  exact hw.depthWithin hparent t.size (by omega)

/-- **A tree with open groups stores the query that results from closing them.** -/
theorem Opened.stores (h : Opened t i f outer) :
    Stores t none Tree.root (f.close outer) t.size := by
  induction outer generalizing i f with
  | nil =>
    obtain ⟨q, ids, hn, hs, hw⟩ := h
    cases hw with
    | root => exact .group hn hs
  | cons g outer ih =>
    obtain ⟨p, _, hopen⟩ := h.close
    exact ih hopen

/-! ## An open group is held in one way only -/

/-- The groups around an open group fix its number, its parent and every older node. -/
theorem Within.unique {q q' : Option NodeId} {j : Nat} (h : Within t q i outer)
    (h' : Within t' q' j outer) :
    i = j ∧ q = q' ∧ ∀ n, n < i → t.node? n = t'.node? n := by
  induction h generalizing q' j with
  | root =>
    cases h' with
    | root => exact ⟨rfl, rfl, fun n hn => absurd hn (Nat.not_lt_zero n)⟩
  | @child p i q ids f outer hn hs _ ih =>
    cases h' with
    | @child p' _ q' ids' _ _ hn' hs' hw' =>
      obtain ⟨rfl, rfl, hold⟩ := ih hw'
      -- the groups between the parent and `i` are stored in both trees in the one way there is
      obtain ⟨rfl, rfl, hbetween⟩ := hs.unique hs'
      refine ⟨rfl, rfl, fun n hni => ?_⟩
      rcases Nat.lt_trichotomy n p with hlt | rfl | hgt
      · exact hold n hlt
      · rw [hn, hn']
      · exact hbetween n hgt hni

/--
**One more child in the open group is the only difference.** It gets the next number, its parent
lists it last, and all older nodes are the same.
-/
theorem Opened.addChild {j : Nat} {e : Expression} (h : Opened t i f outer)
    (h' : Opened t' j (f.addChild e) outer) :
    i = j ∧ Stores t' (some i) t.size e t'.size
      ∧ (∃ node, t.node? i = some node
          ∧ t'.node? i = some { node with children := node.children ++ [t.size] })
      ∧ ∀ n, n < t.size → n ≠ i → t'.node? n = t.node? n := by
  obtain ⟨q, ids, hn, hs, hw⟩ := h
  obtain ⟨q', ids', hn', hs', hw'⟩ := h'
  obtain ⟨rfl, rfl, hold⟩ := hw.unique hw'
  obtain ⟨ids', m, rfl, hbefore, hlast⟩ := hs'.last
  -- all children but the last are the old ones, stored in the same numbers
  obtain ⟨rfl, rfl, hbetween⟩ := hs.unique hbefore
  refine ⟨rfl, hlast, ⟨_, hn, hn'⟩, fun n hlt hne => ?_⟩
  rcases Nat.lt_or_ge n i with hni | hin
  · exact (hold n hni).symm
  · exact (hbetween n (by omega) hlt).symm

end Tree

end SearchQuery
