import Mathlib.Data.List.Basic
import Mathlib.Data.List.Nodup
import SearchQuery.Proofs.Tree.Storage

/-!
# What a well-formed tree promises

A tree keeps two indices of the same links, the parent of each group and the children
of each, and every walk over it trusts both. `WellFormed` lists what a walk may rely
on. `Stores.wellFormed` says that a tree has all of it as soon as its numbers, from
the whole query to the last, store one expression.
-/

namespace SearchQuery

namespace Tree

/-- What every walk over a tree relies on. -/
structure WellFormed (t : Tree) : Prop where
  /-- There is a whole query, and it alone has no parent. -/
  root_only : 0 < t.size ∧ ∀ i, i < t.size → (t.parent? i = none ↔ i = root)
  /-- Every other group has an older parent, which lists it once; no other group lists it. -/
  listed_once : ∀ i, 0 < i → i < t.size → ∃ p, p < i ∧ t.parent? i = some p
    ∧ ∀ j node, t.node? j = some node → node.children.count i = if j = p then 1 else 0
  /-- Children are listed in the order of their numbers. -/
  increasing : ∀ j node, t.node? j = some node → node.children.Pairwise (· < ·)
  /-- The parent of a child is the group that lists it. -/
  child_parent : ∀ j node, t.node? j = some node → ∀ c ∈ node.children, t.parent? c = some j
  /-- The walk from a group meets the group, and then its children in order. -/
  walk : ∀ j node, t.node? j = some node →
    t.preorder j = j :: node.children.flatMap t.preorder
  /-- The walk from the whole query meets every number once, in order. -/
  walk_root : t.preorder root = List.range t.size
  /-- What is inside a group fills the numbers that follow it, without a gap. -/
  interval : ∀ i, i < t.size → ∃ k, t.preorder i = List.range' i (k + 1)

variable {t : Tree} {e : Expression} {node : Node} {i j : Nat}

theorem lt_size_of_node? (h : t.node? j = some node) : j < t.size :=
  (Array.getElem?_eq_some_iff.mp h).1

theorem lt_size_of_parent? {p : NodeId} (h : t.parent? i = some p) : i < t.size := by
  obtain ⟨node, hnode, _⟩ := Option.bind_eq_some_iff.mp h
  exact lt_size_of_node? hnode

/-- Where the numbers store one expression, each of them stores one. -/
theorem Stores.at (h : Stores t none root e t.size) (hi : i < t.size) :
    ∃ q e' k, Stores t q i e' k ∧ k ≤ t.size
      ∧ (i = 0 ∧ q = none ∨ ∃ m, q = some m ∧ ListedFrom t 0 m i) :=
  h.inside i (Nat.zero_le i) hi

/-- Where the numbers store one expression, each group stores its children after itself. -/
theorem Stores.children_at (h : Stores t none root e t.size) (hn : t.node? j = some node) :
    ∃ es k, StoresAll t j (j + 1) node.children es k ∧ k ≤ t.size := by
  obtain ⟨q, e', k, hst, hk, _⟩ := h.at (lt_size_of_node? hn)
  cases hst with
  | group hn' hs =>
    cases hn.symm.trans hn'
    exact ⟨_, k, hs, hk⟩

/-- The walk from a stored group needs no more levels than the tree allows. -/
theorem Stores.preorder {q : Option NodeId} (h : Stores t q i e j) (hj : j ≤ t.size) :
    t.preorder i = List.range' i (j - i) :=
  h.preorderWithin t.size (by omega)

theorem Stores.walk (h : Stores t none root e t.size) (hn : t.node? j = some node) :
    t.preorder j = j :: node.children.flatMap t.preorder := by
  obtain ⟨es, k, hs, hk⟩ := h.children_at hn
  have hlt := lt_size_of_node? hn
  obtain ⟨s, hsize⟩ : ∃ s, t.size = s + 1 := ⟨t.size - 1, by omega⟩
  have hcut : t.preorder j = j :: node.children.flatMap (t.preorderWithin s) := by
    rw [Tree.preorder, hsize, Tree.preorderWithin, hn]
  -- a child lies one level down and one number up, so one level less is enough for it
  have hsame : ∀ c ∈ node.children, t.preorderWithin s c = t.preorder c := by
    intro c hc
    obtain ⟨hjc, hck, _⟩ := hs.children.2 c hc
    obtain ⟨q, e', m, hst, hm, _⟩ := h.at (i := c) (by omega)
    rw [hst.preorder hm, hst.preorderWithin s (by omega)]
  rw [hcut]
  exact congrArg (j :: ·) (List.flatMap_congr hsame)

/-- The expression of a group is its own node over the expressions of its children. -/
theorem Stores.expression_eq (h : Stores t none root e t.size) (hn : t.node? j = some node) :
    t.expression j = .group node.mode node.phrases (node.children.map t.expression) := by
  obtain ⟨es, k, hs, hk⟩ := h.children_at hn
  have hlt := lt_size_of_node? hn
  obtain ⟨s, hsize⟩ : ∃ s, t.size = s + 1 := ⟨t.size - 1, by omega⟩
  have hcut : t.expression j
      = .group node.mode node.phrases (node.children.map (t.expressionWithin s)) := by
    rw [Tree.expression, hsize, Tree.expressionWithin, hn]
  have hsame : ∀ c ∈ node.children, t.expressionWithin s c = t.expression c := by
    intro c hc
    obtain ⟨hjc, hck, _⟩ := hs.children.2 c hc
    obtain ⟨q, e', m, hst, hm, _⟩ := h.at (i := c) (by omega)
    rw [hst.expressionWithin s (by omega), Tree.expression, hst.expressionWithin t.size (by omega)]
  rw [hcut, List.map_congr_left hsame]

theorem Stores.listed_once (h : Stores t none root e t.size) (h0 : 0 < i) (hi : i < t.size) :
    ∃ p, p < i ∧ t.parent? i = some p
      ∧ ∀ j node, t.node? j = some node → node.children.count i = if j = p then 1 else 0 := by
  obtain ⟨q, e', k, hst, _, ⟨rfl, _⟩ | ⟨p, rfl, _, hlt, listing, hp, hmem⟩⟩ := h.at hi
  · exact absurd h0 (Nat.lt_irrefl 0)
  · -- the group that lists it is its parent, and a group lists only its own children
    refine ⟨p, hlt, hst.parent?, fun j node hn => ?_⟩
    obtain ⟨es, k', hs, _⟩ := h.children_at hn
    obtain ⟨hsorted, hchildren⟩ := hs.children
    by_cases hj : j = p
    · subst hj
      cases hn.symm.trans hp
      rw [if_pos rfl]
      exact List.count_eq_one_of_mem (hsorted.imp Nat.ne_of_lt) hmem
    · rw [if_neg hj]
      refine List.count_eq_zero.mpr fun hm => hj ?_
      exact Option.some.inj ((hchildren i hm).2.2.symm.trans hst.parent?)

/-- **A tree that stores one expression in all its numbers is well formed.** -/
theorem Stores.wellFormed (h : Stores t none root e t.size) : t.WellFormed where
  root_only := by
    refine ⟨h.lt, fun i hi => ?_⟩
    obtain ⟨q, e', k, hst, _, ⟨rfl, rfl⟩ | ⟨p, rfl, _, hlt, _⟩⟩ := h.at hi
    · exact iff_of_true hst.parent? rfl
    · refine iff_of_false (by rw [hst.parent?]; exact Option.some_ne_none p) ?_
      exact fun h0 : i = 0 => by omega
  listed_once := fun i h0 hi => h.listed_once h0 hi
  increasing := by
    intro j node hn
    obtain ⟨es, k, hs, _⟩ := h.children_at hn
    exact hs.children.1
  child_parent := by
    intro j node hn c hc
    obtain ⟨es, k, hs, _⟩ := h.children_at hn
    exact (hs.children.2 c hc).2.2
  walk := fun j node hn => h.walk hn
  walk_root := by
    rw [h.preorder (Nat.le_refl _), List.range_eq_range']
    rfl
  interval := by
    intro i hi
    obtain ⟨q, e', k, hst, hk, _⟩ := h.at hi
    have hlt := hst.lt
    exact ⟨k - i - 1, by rw [hst.preorder hk, show k - i - 1 + 1 = k - i by omega]⟩

end Tree

end SearchQuery
