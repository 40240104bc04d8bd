import SearchQuery.Query.Tree

/-!
# How a tree stores an expression

`Stores t parent i e j` says that the group with number `i` is stored in `t` as the
expression `e`, below `parent`, and that it and all that is inside it fill the numbers
from `i` up to `j`, which is the first number after it. `StoresAll` says the same of
the children of one group, each starting where the one before it ends.

The intervals carry the proofs. What is stored in an interval depends on the nodes of
that interval only (`Stores.congr`), so a change elsewhere leaves it alone. A walk down
from `i` needs no more levels than the interval has numbers, so the bound on the walks
of a tree never cuts them short, and it meets the numbers of the interval in order
(`Stores.preorderWithin`). There is one way only to store an expression from `i` on
(`Stores.unique`). And every number of the interval is a group, listed by an older one
of the interval (`Stores.inside`).
-/

namespace SearchQuery

namespace Tree

mutual

/-- The group with number `i` is stored as an expression, in the numbers from `i` up to `j`. -/
inductive Stores (t : Tree) : Option NodeId → Nat → Expression → Nat → Prop where
  | group {parent : Option NodeId} {i j : Nat} {mode : Mode} {phrases : List Phrase}
      {ids : List Nat} {es : List Expression} :
      t.node? i = some ⟨mode, parent, phrases, ids⟩ → StoresAll t i (i + 1) ids es j →
      Stores t parent i (.group mode phrases es) j

/-- The groups with these numbers are children of `p`, stored one after the other from `i` up to `j`. -/
inductive StoresAll (t : Tree) : Nat → Nat → List Nat → List Expression → Nat → Prop where
  | nil {p i : Nat} : StoresAll t p i [] [] i
  | cons {p i j k : Nat} {e : Expression} {ids : List Nat} {es : List Expression} :
      Stores t (some p) i e j → StoresAll t p j ids es k →
      StoresAll t p i (i :: ids) (e :: es) k

end

variable {t t' : Tree} {parent : Option NodeId} {p i j k : Nat} {e : Expression}
  {ids : List Nat} {es : List Expression}

theorem Stores.parent? (h : Stores t parent i e j) : t.parent? i = parent := by
  cases h with
  | group hn _ => rw [Tree.parent?, hn]; rfl

/-! ## The intervals -/

mutual

/-- A group fills at least its own number. -/
theorem Stores.lt {parent : Option NodeId} {i j : Nat} {e : Expression} :
    Stores t parent i e j → i < j
  | .group _ hs => hs.le

theorem StoresAll.le {p i j : Nat} {ids : List Nat} {es : List Expression} :
    StoresAll t p i ids es j → i ≤ j
  | .nil => Nat.le_refl _
  | .cons h hs => Nat.le_trans (Nat.le_of_lt h.lt) hs.le

end

mutual

/-- **What an interval stores depends on its own nodes only.** -/
theorem Stores.congr {parent : Option NodeId} {i j : Nat} {e : Expression} :
    Stores t parent i e j → (∀ n, i ≤ n → n < j → t'.node? n = t.node? n) →
      Stores t' parent i e j
  | .group hn hs, heq =>
    .group ((heq _ (Nat.le_refl _) hs.le).trans hn)
      (hs.congr fun n hi hj => heq n (Nat.le_of_succ_le hi) hj)

theorem StoresAll.congr {p i j : Nat} {ids : List Nat} {es : List Expression} :
    StoresAll t p i ids es j → (∀ n, i ≤ n → n < j → t'.node? n = t.node? n) →
      StoresAll t' p i ids es j
  | .nil, _ => .nil
  | .cons h hs, heq =>
    .cons (h.congr fun n hi hj => heq n hi (Nat.lt_of_lt_of_le hj hs.le))
      (hs.congr fun n hi hj => heq n (Nat.le_trans (Nat.le_of_lt h.lt) hi) hj)

end

/-- One more child goes where the last one ends. -/
theorem StoresAll.snoc (hs : StoresAll t p i ids es j) (h : Stores t (some p) j e k) :
    StoresAll t p i (ids ++ [j]) (es ++ [e]) k := by
  induction es generalizing i ids with
  | nil =>
    cases hs with
    | nil => exact .cons h .nil
  | cons e' es ih =>
    cases hs with
    | cons h' hs => exact .cons h' (ih hs)

/-- The last child starts where the ones before it end. -/
theorem StoresAll.last (hs : StoresAll t p i ids (es ++ [e]) k) :
    ∃ ids' j, ids = ids' ++ [j] ∧ StoresAll t p i ids' es j ∧ Stores t (some p) j e k := by
  induction es generalizing i ids with
  | nil =>
    cases hs with
    | cons h hs =>
      cases hs with
      | nil => exact ⟨[], i, rfl, .nil, h⟩
  | cons e' es ih =>
    cases hs with
    | cons h hs =>
      obtain ⟨ids', j, rfl, hbefore, hlast⟩ := ih hs
      exact ⟨i :: ids', j, rfl, .cons h hbefore, hlast⟩

/-- Children are numbered upwards within the interval, and name their parent. -/
theorem StoresAll.children (hs : StoresAll t p i ids es j) :
    ids.Pairwise (· < ·) ∧ ∀ c ∈ ids, i ≤ c ∧ c < j ∧ t.parent? c = some p := by
  induction es generalizing i ids with
  | nil =>
    cases hs with
    | nil => exact ⟨.nil, by simp⟩
  | cons e es ih =>
    cases hs with
    | cons h hs =>
      obtain ⟨hsorted, hrest⟩ := ih hs
      have hlt := h.lt
      refine ⟨List.pairwise_cons.mpr ⟨fun c hc => ?_, hsorted⟩, fun c hc => ?_⟩
      · have := (hrest c hc).1
        omega
      · rcases List.mem_cons.mp hc with rfl | hc
        · exact ⟨Nat.le_refl _, Nat.lt_of_lt_of_le hlt hs.le, h.parent?⟩
        · obtain ⟨hi, hj, hp⟩ := hrest c hc
          exact ⟨by omega, hj, hp⟩

/-! ## Walks down an interval -/

mutual

/-- With a level for each number of the interval, the walk reads the expression off. -/
theorem Stores.expressionWithin {parent : Option NodeId} {i j : Nat} {e : Expression} :
    ∀ (fuel : Nat), Stores t parent i e j → j ≤ i + fuel → t.expressionWithin fuel i = e
  | 0, h, hf => absurd h.lt (by omega)
  | fuel + 1, .group hn hs, hf => by
    rw [Tree.expressionWithin, hn]
    dsimp only
    -- the children start one number up, which pays for the level that is gone
    rw [hs.expressionWithin fuel (by omega)]

theorem StoresAll.expressionWithin {p i j : Nat} {ids : List Nat} {es : List Expression} :
    ∀ (fuel : Nat), StoresAll t p i ids es j → j ≤ i + fuel →
      ids.map (t.expressionWithin fuel) = es
  | _, .nil, _ => rfl
  | fuel, .cons h hs, hf => by
    have hlt := h.lt
    have hle := hs.le
    rw [List.map_cons, h.expressionWithin fuel (by omega), hs.expressionWithin fuel (by omega)]

end

/-- Two intervals with a common end make one. -/
theorem range'_append_mid {m : Nat} (hi : i ≤ m) (hj : m ≤ j) :
    List.range' i (m - i) ++ List.range' m (j - m) = List.range' i (j - i) := by
  have happ : List.range' i (m - i) ++ List.range' (i + (m - i)) (j - m)
      = List.range' i (m - i + (j - m)) := List.range'_append_1
  rwa [show i + (m - i) = m by omega, show m - i + (j - m) = j - i by omega] at happ

mutual

/-- The walk meets the numbers of the interval in order. -/
theorem Stores.preorderWithin {parent : Option NodeId} {i j : Nat} {e : Expression} :
    ∀ (fuel : Nat), Stores t parent i e j → j ≤ i + fuel →
      t.preorderWithin fuel i = List.range' i (j - i)
  | 0, h, hf => absurd h.lt (by omega)
  | fuel + 1, .group hn hs, hf => by
    have hle := hs.le
    rw [Tree.preorderWithin, hn]
    dsimp only
    -- the number of the group itself comes before those of its children
    rw [hs.preorderWithin fuel (by omega), ← List.range'_succ,
      show j - (i + 1) + 1 = j - i by omega]

theorem StoresAll.preorderWithin {p i j : Nat} {ids : List Nat} {es : List Expression} :
    ∀ (fuel : Nat), StoresAll t p i ids es j → j ≤ i + fuel →
      ids.flatMap (t.preorderWithin fuel) = List.range' i (j - i)
  | _, .nil, _ => by simp
  | fuel, .cons h hs, hf => by
    have hlt := h.lt
    have hle := hs.le
    rw [List.flatMap_cons, h.preorderWithin fuel (by omega), hs.preorderWithin fuel (by omega)]
    exact range'_append_mid (Nat.le_of_lt hlt) hle

end

/-! ## An expression is stored in one way only -/

mutual

/-- **From a number on there is one way to store an expression.** -/
theorem Stores.unique {parent : Option NodeId} {i j j' : Nat} {e : Expression} :
    Stores t parent i e j → Stores t' parent i e j' →
      j = j' ∧ ∀ n, i ≤ n → n < j → t.node? n = t'.node? n
  | .group hn hs, .group hn' hs' => by
    -- the children fix their numbers and where the group ends, and with these its own node
    obtain ⟨rfl, rfl, hrest⟩ := hs.unique hs'
    refine ⟨rfl, fun n hi hj => ?_⟩
    rcases Nat.eq_or_lt_of_le hi with rfl | hlt
    · rw [hn, hn']
    · exact hrest n hlt hj

theorem StoresAll.unique {p i j j' : Nat} {ids ids' : List Nat} {es : List Expression} :
    StoresAll t p i ids es j → StoresAll t' p i ids' es j' →
      ids = ids' ∧ j = j' ∧ ∀ n, i ≤ n → n < j → t.node? n = t'.node? n
  | .nil, .nil => ⟨rfl, rfl, fun _ hi hj => absurd hj (Nat.not_lt.mpr hi)⟩
  | .cons (j := m) h hs, .cons h' hs' => by
    -- the second group starts where the first one ends, in both trees
    obtain ⟨rfl, hfirst⟩ := h.unique h'
    obtain ⟨rfl, rfl, hrest⟩ := hs.unique hs'
    refine ⟨rfl, rfl, fun n hi hj => ?_⟩
    rcases Nat.lt_or_ge n m with hm | hm
    · exact hfirst n hi hm
    · exact hrest n hm hj

end

/-- Trees that store the same expression in all their numbers have the same nodes. -/
theorem Stores.nodes_eq (h : Stores t parent 0 e t.size) (h' : Stores t' parent 0 e t'.size) :
    t.nodes = t'.nodes := by
  obtain ⟨hsize, hnodes⟩ := h.unique h'
  refine Array.ext_getElem? fun n => ?_
  rcases Nat.lt_or_ge n t.size with hlt | hge
  · exact hnodes n (Nat.zero_le n) hlt
  · have hge' : t'.size ≤ n := hsize ▸ hge
    rw [Array.getElem?_eq_none hge, Array.getElem?_eq_none hge']

/-! ## Every number of an interval is a group of it -/

/-- The group `n` is a child of the group `m`, which is not older than `i`. -/
def ListedFrom (t : Tree) (i m n : Nat) : Prop :=
  i ≤ m ∧ m < n ∧ ∃ node, t.node? m = some node ∧ n ∈ node.children

mutual

/-- A number of the interval is the group itself or is listed by a group of the interval. -/
theorem Stores.inside {parent : Option NodeId} {i j : Nat} {e : Expression} (n : Nat) :
    Stores t parent i e j → i ≤ n → n < j →
      ∃ q e' k, Stores t q n e' k ∧ k ≤ j
        ∧ (n = i ∧ q = parent ∨ ∃ m, q = some m ∧ ListedFrom t i m n)
  | .group hn hs, hi, hj => by
    rcases Nat.eq_or_lt_of_le hi with rfl | hlt
    · exact ⟨_, _, _, .group hn hs, Nat.le_refl _, .inl ⟨rfl, rfl⟩⟩
    · -- a number behind that of the group belongs to its children: one of them is it or lists it
      obtain ⟨q, e', k, h, hk, ⟨hm, rfl⟩ | ⟨m, rfl, hle, hlisted⟩⟩ := hs.inside n hlt hj
      · exact ⟨_, e', k, h, hk, .inr ⟨i, rfl, Nat.le_refl _, hlt, _, hn, hm⟩⟩
      · exact ⟨_, e', k, h, hk, .inr ⟨m, rfl, Nat.le_of_succ_le hle, hlisted⟩⟩

theorem StoresAll.inside {p i j : Nat} {ids : List Nat} {es : List Expression} (n : Nat) :
    StoresAll t p i ids es j → i ≤ n → n < j →
      ∃ q e' k, Stores t q n e' k ∧ k ≤ j
        ∧ (n ∈ ids ∧ q = some p ∨ ∃ m, q = some m ∧ ListedFrom t i m n)
  | .nil, hi, hj => absurd hj (Nat.not_lt.mpr hi)
  | .cons (j := m) h hs, hi, hj => by
    rcases Nat.lt_or_ge n m with hm | hm
    · obtain ⟨q, e', k, h', hk, ⟨rfl, rfl⟩ | hlisted⟩ := h.inside n hi hm
      · exact ⟨_, e', k, h', Nat.le_trans hk hs.le, .inl ⟨List.mem_cons_self, rfl⟩⟩
      · exact ⟨q, e', k, h', Nat.le_trans hk hs.le, .inr hlisted⟩
    · have hlt := h.lt
      obtain ⟨q, e', k, h', hk, ⟨hmem, rfl⟩ | ⟨r, rfl, hle, hlisted⟩⟩ := hs.inside n hm hj
      · exact ⟨_, e', k, h', hk, .inl ⟨List.mem_cons_of_mem _ hmem, rfl⟩⟩
      · exact ⟨_, e', k, h', hk, .inr ⟨r, rfl, by omega, hlisted⟩⟩

end

end Tree

end SearchQuery
