import SearchQuery.Query.Token

/-!
# What cutting a text yields

A unit is one character that always stands alone, or a stretch of characters that
never do. `isUnit_of_mem_split` says that cutting yields nothing else, and
`flatten_split` that it loses nothing.

The kind of a unit follows its shape: only a stretch can be a word, because every
character that stands alone has a meaning of its own.
-/

namespace SearchQuery

namespace Token

variable {c : Char} {unit : List Char}

/-- One character that stands alone, or a stretch of characters that do not. -/
inductive IsUnit : List Char → Prop where
  | boundary {c : Char} : isBoundary c = true → IsUnit [c]
  | run {unit : List Char} : unit ≠ [] → (∀ c ∈ unit, isBoundary c = false) → IsUnit unit

/-! ## Cutting loses nothing -/

theorem flatten_joinRun (c : Char) (units : List (List Char)) :
    (joinRun c units).flatten = c :: units.flatten := by
  unfold joinRun
  split
  · split <;> rfl
  · rfl

theorem flatten_split (text : List Char) : (split text).flatten = text := by
  induction text with
  | nil => rfl
  | cons c rest ih =>
    rw [split]
    split
    · rw [List.flatten_cons, ih]; rfl
    · rw [flatten_joinRun, ih]

/-! ## Cutting yields units -/

theorem isUnit_of_mem_joinRun {units : List (List Char)} (hc : isBoundary c = false)
    (h : ∀ u ∈ units, IsUnit u) : ∀ u ∈ joinRun c units, IsUnit u := by
  have hone : IsUnit [c] := .run (by simp) (by simpa using hc)
  unfold joinRun
  split
  · rename_i d run units
    split
    · intro u hu
      rcases List.mem_cons.mp hu with rfl | hu
      · exact hone
      · exact h u hu
    · rename_i hd
      intro u hu
      rcases List.mem_cons.mp hu with rfl | hu
      · -- the stretch that starts with `d` grows by one character
        cases h (d :: run) List.mem_cons_self with
        | boundary hb => exact absurd hb hd
        | run _ hrun =>
          refine .run (by simp) (fun e he => ?_)
          rcases List.mem_cons.mp he with rfl | he
          · exact hc
          · exact hrun e he
      · exact h u (List.mem_cons_of_mem _ hu)
  · intro u hu
    rcases List.mem_cons.mp hu with rfl | hu
    · exact hone
    · exact h u hu

theorem isUnit_of_mem_split {text : List Char} : ∀ u ∈ split text, IsUnit u := by
  induction text with
  | nil => intro u hu; simp [split] at hu
  | cons c rest ih =>
    rw [split]
    split
    · rename_i hc
      intro u hu
      rcases List.mem_cons.mp hu with rfl | hu
      · exact .boundary hc
      · exact ih u hu
    · rename_i hc
      exact isUnit_of_mem_joinRun (by simpa using hc) ih

/-! ## The kind of a unit -/

/-- The characters that stand alone are white space, the quote, the signs and the parentheses. -/
theorem isBoundary_iff :
    isBoundary c = true ↔
      Text.isSpace c = true ∨ c = '"' ∨ c = '+' ∨ c = '(' ∨ c = ')' ∨ c = '-' := by
  simp [isBoundary, or_assoc]

theorem ofUnit_space (h : Text.isSpace c = true) : Kind.ofUnit [c] = .space := by
  rw [Kind.ofUnit, Kind.ofChar?, if_pos h]
  rfl

/-- A character that stands alone has a meaning of its own. -/
theorem ofChar?_boundary (h : isBoundary c = true) :
    ∃ k, Kind.ofChar? c = some k ∧ k ≠ .word := by
  by_cases hs : Text.isSpace c = true
  · exact ⟨.space, by rw [Kind.ofChar?, if_pos hs], by decide⟩
  · rcases isBoundary_iff.mp h with hc | rfl | rfl | rfl | rfl | rfl
    · exact absurd hc hs
    · exact ⟨.quote, by decide, by decide⟩
    · exact ⟨.plus, by decide, by decide⟩
    · exact ⟨.parenOpen, by decide, by decide⟩
    · exact ⟨.parenClose, by decide, by decide⟩
    · exact ⟨.minus, by decide, by decide⟩

/-- A character that does not stand alone means nothing, unless it is the colon. -/
theorem ofChar?_inner (h : isBoundary c = false) :
    Kind.ofChar? c = none ∨ Kind.ofChar? c = some .colon := by
  -- none of the characters with a meaning is left but the colon
  have hb := mt isBoundary_iff.mpr (by rw [h]; decide)
  simp only [not_or, Bool.not_eq_true] at hb
  obtain ⟨hs, hq, hp, ho, hc, hm⟩ := hb
  simp only [Kind.ofChar?, hs, hq, hp, ho, hc, hm, if_false, Bool.false_eq_true]
  split
  · exact .inr rfl
  · exact .inl rfl

/-- A stretch is a word, a keyword or a colon. -/
theorem ofUnit_run (h : ∀ c ∈ unit, isBoundary c = false) :
    Kind.ofUnit unit = .word ∨ Kind.ofUnit unit = .and ∨ Kind.ofUnit unit = .or
      ∨ Kind.ofUnit unit = .colon := by
  unfold Kind.ofUnit
  split
  · rename_i c
    rcases ofChar?_inner (h c List.mem_cons_self) with hc | hc <;> rw [hc] <;> simp
  · unfold Kind.ofRun
    dsimp only
    split
    · simp
    · split <;> simp

/-- A word is a stretch: it has characters, and none of them stands alone. -/
theorem run_of_ofUnit_word (h : IsUnit unit) (hk : Kind.ofUnit unit = .word) :
    unit ≠ [] ∧ ∀ c ∈ unit, isBoundary c = false := by
  cases h with
  | run hne hrun => exact ⟨hne, hrun⟩
  | boundary hb =>
    -- a character that stands alone has another kind
    obtain ⟨k, hc, hne⟩ := ofChar?_boundary hb
    rw [Kind.ofUnit, hc] at hk
    exact absurd hk hne

/-- Every token of a query is the token of a unit. -/
theorem mem_tokenize {o : Options} {query : String} {t : Token} (h : t ∈ tokenize o query) :
    ∃ unit, IsUnit unit ∧ t = ofUnit unit := by
  obtain ⟨unit, hu, rfl⟩ := List.mem_map.mp h
  exact ⟨unit, isUnit_of_mem_split unit hu, rfl⟩

end Token

end SearchQuery
