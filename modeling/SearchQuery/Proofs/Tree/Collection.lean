import SearchQuery.Proofs.Tree.WellFormed

/-!
# What is collected from a tree

Words are collected by a walk over an expression, once for the phrases to find and once for
the others, and a third walk asks only whether there is a phrase to find. All three see the
same phrases in the same order, which is what `Expression.allPhrases` lists, and each is said
by one equation over that list (`collect_eq`, `isValid_eq`).

A stored expression fills an interval of numbers, and a walk meets them in order. So its
phrases are those of the numbers of the interval, read from the first to the last
(`Stores.allPhrases`), and no walk is needed to find them. Which numbers these are can be told
from the parents alone: they are the groups from which the walk up comes past the group that
was asked for (`Stores.mem_preorder_iff`).
-/

namespace SearchQuery

namespace Expression

mutual

/-- The phrases of the group itself, and then those of each child with all that is inside it. -/
def allPhrases : Expression → List Phrase
  | group _ phrases children => phrases ++ allPhrasesIn children

/-- The same for several expressions, one after the other. -/
def allPhrasesIn : List Expression → List Phrase
  | [] => []
  | e :: es => allPhrases e ++ allPhrasesIn es

end

mutual

theorem collect_eq (included : Bool) : ∀ e : Expression,
    e.collect included
      = (e.allPhrases.filter fun p => p.isIncluded = included).flatMap Phrase.words
  | group mode phrases children => by
    rw [collect, allPhrases, List.filter_append, List.flatMap_append,
      collectAll_eq included children]

theorem collectAll_eq (included : Bool) : ∀ es : List Expression,
    collectAll included es
      = ((allPhrasesIn es).filter fun p => p.isIncluded = included).flatMap Phrase.words
  | [] => rfl
  | e :: es => by
    rw [collectAll, allPhrasesIn, List.filter_append, List.flatMap_append,
      collect_eq included e, collectAll_eq included es]

end

mutual

theorem isValid_eq : ∀ e : Expression, e.isValid = e.allPhrases.any Phrase.isIncluded
  | group mode phrases children => by
    rw [isValid, allPhrases, List.any_append, anyValid_eq children]

theorem anyValid_eq : ∀ es : List Expression,
    anyValid es = (allPhrasesIn es).any Phrase.isIncluded
  | [] => rfl
  | e :: es => by
    rw [anyValid, allPhrasesIn, List.any_append, isValid_eq e, anyValid_eq es]

end

theorem mem_collect {included : Bool} {e : Expression} {w : String}
    (h : w ∈ e.collect included) : ∃ p ∈ e.allPhrases, w ∈ p.words := by
  rw [collect_eq] at h
  obtain ⟨p, hp, hw⟩ := List.mem_flatMap.mp h
  exact ⟨p, List.mem_of_mem_filter hp, hw⟩

/-- Words are collected where a phrase to find occurs, as long as each phrase has words. -/
theorem isValid_iff_words_ne_nil {e : Expression} (h : ∀ p ∈ e.allPhrases, p.words ≠ []) :
    e.isValid = true ↔ e.words ≠ [] := by
  rw [isValid_eq, List.any_eq_true, words, collect_eq, ne_eq, List.flatMap_eq_nil_iff]
  constructor
  · rintro ⟨p, hp, hin⟩ hnone
    exact h p hp (hnone p (List.mem_filter.mpr ⟨hp, decide_eq_true hin⟩))
  · intro hsome
    by_contra hnone
    refine hsome fun p hp => ?_
    obtain ⟨hp, hin⟩ := List.mem_filter.mp hp
    exact absurd ⟨p, hp, of_decide_eq_true hin⟩ hnone

/-- The two collections share the words of all phrases out, each phrase to one of them. -/
theorem collect_perm (e : Expression) :
    (e.words ++ e.excludedWords).Perm (e.allPhrases.flatMap Phrase.words) := by
  rw [words, excludedWords, collect_eq, collect_eq, ← List.flatMap_append]
  refine List.Perm.flatMap_right _ ?_
  have hsplit := List.filter_append_perm (fun p : Phrase => decide (p.isIncluded = true)) e.allPhrases
  -- the two filters ask opposite questions
  have hother : e.allPhrases.filter (fun p => !decide (p.isIncluded = true))
      = e.allPhrases.filter fun p => p.isIncluded = false := by
    refine List.filter_congr fun p _ => ?_
    cases p.isIncluded <;> rfl
  rwa [hother] at hsplit

end Expression

namespace Tree

variable {t : Tree} {e : Expression} {i j n : Nat}

/-- The phrases of the group with this number, without those inside it. -/
def phrasesAt (t : Tree) (id : NodeId) : List Phrase :=
  ((t.node? id).map Node.phrases).getD []

/-- The words of those phrases of the group itself that `keep` selects. -/
def wordsAt (t : Tree) (keep : Phrase → Bool) (id : NodeId) : List String :=
  ((t.phrasesAt id).filter keep).flatMap Phrase.words

theorem phrasesAt_eq {node : Node} (h : t.node? i = some node) : t.phrasesAt i = node.phrases := by
  rw [phrasesAt, h]
  rfl

mutual

/-- **A stored expression has the phrases of its numbers, in order.** -/
theorem Stores.allPhrases {parent : Option NodeId} {i j : Nat} {e : Expression} :
    Stores t parent i e j → e.allPhrases = (List.range' i (j - i)).flatMap t.phrasesAt
  | .group hn hs => by
    have hle := hs.le
    rw [Expression.allPhrases, hs.allPhrases, show j - i = j - (i + 1) + 1 by omega,
      List.range'_succ, List.flatMap_cons, phrasesAt_eq hn]

theorem StoresAll.allPhrases {p i j : Nat} {ids : List Nat} {es : List Expression} :
    StoresAll t p i ids es j →
      Expression.allPhrasesIn es = (List.range' i (j - i)).flatMap t.phrasesAt
  | .nil => by rw [Nat.sub_self]; rfl
  | .cons h hs => by
    rw [Expression.allPhrasesIn, h.allPhrases, hs.allPhrases, ← List.flatMap_append,
      range'_append_mid (Nat.le_of_lt h.lt) hs.le]

end

/-- The phrases of a group and of all that is inside it, read off the numbers of a walk. -/
theorem Stores.allPhrases_expression (h : Stores t none root e t.size) (hi : i < t.size) :
    (t.expression i).allPhrases = (t.preorder i).flatMap t.phrasesAt := by
  obtain ⟨q, e', k, hst, hk, _⟩ := h.at hi
  have hexpr : t.expression i = e' := hst.expressionWithin t.size (by omega)
  -- the numbers of the walk are those of the interval
  rw [hexpr, hst.preorder hk, hst.allPhrases]

/-- **What is collected from a group is the words at the numbers of a walk**, one after the other. -/
theorem Stores.collect_expression (h : Stores t none root e t.size) (hi : i < t.size)
    (included : Bool) : (t.expression i).collect included
      = (t.preorder i).flatMap (t.wordsAt fun p => p.isIncluded = included) := by
  rw [Expression.collect_eq, h.allPhrases_expression hi, List.filter_flatMap, List.flatMap_assoc]
  rfl

/-! ## What lies inside a group -/

/-- The group `n` is the group `i`, or the walk up from `n` comes past `i`. -/
inductive Inside (t : Tree) (i : NodeId) : NodeId → Prop where
  | self : Inside t i i
  | child {n p : NodeId} : t.parent? n = some p → Inside t i p → Inside t i n

theorem Stores.inside_of_interval {q : Option NodeId} (h : Stores t q i e j) (hi : i ≤ n)
    (hj : n < j) : t.Inside i n := by
  induction n using Nat.strongRecOn with
  | ind n ih =>
    obtain ⟨q', e', k, hst, _, ⟨rfl, _⟩ | ⟨m, rfl, him, hmn, _⟩⟩ := h.inside n hi hj
    · exact .self
    · -- the group that lists `n` is older and in the interval too, so the walk up goes on from it
      exact .child hst.parent? (ih m hmn him (by omega))

/-- The parent of a group lists it. -/
theorem Stores.mem_children (h : Stores t none root e t.size) {p : NodeId}
    (hp : t.parent? n = some p) : ∃ node, t.node? p = some node ∧ n ∈ node.children := by
  have hn := lt_size_of_parent? hp
  obtain ⟨q, e', k, hst, _, ⟨_, rfl⟩ | ⟨m, rfl, _, _, node, hnode, hmem⟩⟩ := h.at hn
  · rw [hst.parent?] at hp
    cases hp
  · obtain rfl : m = p := Option.some.inj (hst.parent?.symm.trans hp)
    exact ⟨node, hnode, hmem⟩

/-- **The walk down from a group meets what lies inside it**, as the parents tell. -/
theorem Stores.mem_preorder_iff (h : Stores t none root e t.size) (hi : i < t.size) :
    n ∈ t.preorder i ↔ t.Inside i n := by
  obtain ⟨q, e', k, hst, hk, _⟩ := h.at hi
  have hlt := hst.lt
  rw [hst.preorder hk, List.mem_range'_1]
  constructor
  · rintro ⟨hin, hnk⟩
    exact hst.inside_of_interval hin (by omega)
  · intro hin
    induction hin with
    | self => omega
    | @child n p hp _ ih =>
      -- the parent is in the interval, and it stores its children in the interval behind itself
      obtain ⟨hip, hpk⟩ := ih
      obtain ⟨q', e'', k', hst', hk', _⟩ := hst.inside p hip (by omega)
      obtain ⟨node, hnode, hmem⟩ := h.mem_children hp
      cases hst' with
      | group hn hs =>
        cases hnode.symm.trans hn
        obtain ⟨hpn, hnk', _⟩ := hs.children.2 n hmem
        omega

end Tree

end SearchQuery
