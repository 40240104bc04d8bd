import Mathlib.Data.List.Chain
import SearchQuery.Proofs.Token.Seam

/-!
# A text is cut in one way

Cutting a text and putting the units together again undo each other. A list of units is
`Lexical` if a text could have been cut so: each unit is a character that stands alone or a
stretch of characters that do not, and there is always something between two stretches. Cutting
yields such a list (`lexical_split`), and such a list is what its own text is cut into
(`split_flatten`). So no other list of the kind has the same text.

Two stretches side by side are the only thing that cutting cannot give back: it would make one
of them. That is the seam of `AtSeam`, and the units of a lexical list meet at seams.
-/

namespace SearchQuery

namespace Token

variable {c : Char} {unit : List Char} {units : List (List Char)}

/-- Characters that do not stand alone, at least one. -/
def IsRun (unit : List Char) : Prop :=
  unit ≠ [] ∧ ∀ c ∈ unit, isBoundary c = false

structure Lexical (units : List (List Char)) : Prop where
  unit : ∀ u ∈ units, IsUnit u
  /-- No two stretches are neighbours. -/
  apart : units.IsChain fun u v => ¬ (IsRun u ∧ IsRun v)

theorem lexical_nil : Lexical [] := ⟨by simp, .nil⟩

theorem not_isRun_boundary (hc : isBoundary c = true) (run : List Char) : ¬ IsRun (c :: run) := by
  intro h
  rw [h.2 c List.mem_cons_self] at hc
  cases hc

theorem lexical_cons_iff : Lexical (unit :: units) ↔
    IsUnit unit ∧ (∀ v ∈ units.head?, ¬ (IsRun unit ∧ IsRun v)) ∧ Lexical units := by
  constructor
  · intro h
    obtain ⟨hunit, hunits⟩ := List.forall_mem_cons.mp h.unit
    obtain ⟨hfirst, hrest⟩ := List.isChain_cons.mp h.apart
    exact ⟨hunit, hfirst, hunits, hrest⟩
  · intro ⟨hunit, hfirst, h⟩
    exact ⟨List.forall_mem_cons.mpr ⟨hunit, h.unit⟩, List.isChain_cons.mpr ⟨hfirst, h.apart⟩⟩

/-! ## Cutting yields a lexical list -/

/-- A stretch may grow at its front. -/
theorem Lexical.joinRun (h : Lexical units) (hc : isBoundary c = false) :
    Lexical (joinRun c units) := by
  have hone : IsUnit [c] := .run (by simp) (by simpa using hc)
  cases units with
  | nil => exact lexical_cons_iff.mpr ⟨hone, by simp, h⟩
  | cons unit units =>
    obtain ⟨hunit, hfirst, hunits⟩ := lexical_cons_iff.mp h
    cases hunit with
    | @boundary d hd =>
      -- a character that stands alone comes first, and a new stretch starts before it
      rw [Token.joinRun, if_pos hd]
      refine lexical_cons_iff.mpr ⟨hone, ?_, h⟩
      intro v hv hruns
      obtain rfl := Option.some.inj hv
      exact not_isRun_boundary hd [] hruns.2
    | run hne hrun =>
      obtain ⟨d, run, rfl⟩ := List.exists_cons_of_ne_nil hne
      have hd : ¬ isBoundary d = true := by simp [hrun d List.mem_cons_self]
      rw [Token.joinRun, if_neg hd]
      refine lexical_cons_iff.mpr ⟨.run (by simp) (List.forall_mem_cons.mpr ⟨hc, hrun⟩), ?_, hunits⟩
      -- what follows is no stretch, since it follows a shorter one already
      intro v hv hruns
      exact hfirst v hv ⟨⟨hne, hrun⟩, hruns.2⟩

theorem lexical_split (text : List Char) : Lexical (split text) := by
  induction text with
  | nil => exact lexical_nil
  | cons c rest ih =>
    rw [split]
    split
    · rename_i hc
      refine lexical_cons_iff.mpr ⟨.boundary hc, ?_, ih⟩
      intro v _ hruns
      exact not_isRun_boundary hc [] hruns.1
    · rename_i hc
      exact ih.joinRun (by simpa using hc)

/-! ## A lexical list is found again -/

theorem split_run (h : IsRun unit) : split unit = [unit] := by
  obtain ⟨hne, hrun⟩ := h
  induction unit with
  | nil => exact absurd rfl hne
  | cons c run ih =>
    obtain ⟨hc, hrun⟩ := List.forall_mem_cons.mp hrun
    rw [split, if_neg (by simp [hc])]
    cases run with
    | nil => rfl
    | cons d run =>
      have hd : ¬ isBoundary d = true := by simp [hrun d List.mem_cons_self]
      -- the rest of the stretch is one unit, and `c` joins it
      rw [ih (by simp) hrun, joinRun, if_neg hd]

theorem split_unit (h : IsUnit unit) : split unit = [unit] := by
  cases h with
  | boundary hc => rw [split, if_pos hc]; rfl
  | run hne hrun => exact split_run ⟨hne, hrun⟩

/-- The text behind the first unit starts at a seam. -/
theorem Lexical.atSeam (h : Lexical (unit :: units)) : AtSeam unit units.flatten := by
  obtain ⟨hunit, hfirst, hunits⟩ := lexical_cons_iff.mp h
  cases hunit with
  | boundary hc =>
    left
    intro d hd
    obtain rfl := Option.some.inj hd
    exact hc
  | run hne hrun =>
    right
    intro d hd
    cases units with
    | nil => cases hd
    | cons next units =>
      obtain ⟨hnext, -, -⟩ := lexical_cons_iff.mp hunits
      cases hnext with
      | boundary hb =>
        obtain rfl := Option.some.inj hd
        exact hb
      | run hne' hrun' => exact absurd ⟨⟨hne, hrun⟩, hne', hrun'⟩ (hfirst next rfl)

/-- **Putting together is undone by cutting.** -/
theorem split_flatten (h : Lexical units) : split units.flatten = units := by
  induction units with
  | nil => rfl
  | cons unit units ih =>
    obtain ⟨hunit, -, hunits⟩ := lexical_cons_iff.mp h
    -- units meet at seams, so each is cut out on its own
    rw [List.flatten_cons, split_append h.atSeam, split_unit hunit, ih hunits]
    rfl

end Token

/-! ## Units and tokens as texts -/

theorem map_toList_splitUnits (text : String) :
    (splitUnits text).map String.toList = Token.split text.toList := by
  rw [splitUnits, List.map_map]
  exact List.map_id'' (fun _ => String.toList_ofList) _

theorem join_eq_iff {units : List String} {text : String} :
    String.join units = text ↔ (units.map String.toList).flatten = text.toList := by
  rw [← String.toList_inj, String.toList_join, List.flatMap_def]

theorem map_text_tokenize (o : Options) (query : String) :
    (tokenize o query).map Token.text = splitUnits (repair o query) := by
  rw [tokenize, splitUnits, toList_repair, List.map_map]
  rfl

/-- The texts of the tokens, joined, are the repaired query. -/
theorem join_text_tokenize (o : Options) (query : String) :
    String.join ((tokenize o query).map Token.text) = repair o query := by
  rw [join_eq_iff, map_text_tokenize, map_toList_splitUnits, Token.flatten_split]

/-! ## At the top -/

/--
**Cutting a text and putting units together undo each other.** The units of a text are lexical
and make up the text; a list of texts is lexical exactly when it is what its own text is cut
into; and the texts of the tokens of a query make up the repaired query.
-/
theorem splitUnits_inverse :
    (∀ text, Token.Lexical ((splitUnits text).map String.toList)
        ∧ String.join (splitUnits text) = text)
      ∧ (∀ units : List String, Token.Lexical (units.map String.toList)
          ↔ splitUnits (String.join units) = units)
      ∧ ∀ o query, String.join ((tokenize o query).map Token.text) = repair o query := by
  have hcut : ∀ text, Token.Lexical ((splitUnits text).map String.toList)
      ∧ String.join (splitUnits text) = text := by
    intro text
    rw [join_eq_iff, map_toList_splitUnits]
    exact ⟨Token.lexical_split text.toList, Token.flatten_split text.toList⟩
  refine ⟨hcut, ?_, ?_⟩
  · intro units
    constructor
    · intro h
      -- cutting gives back the characters of each unit, and these determine it
      have hjoin := join_eq_iff.mp (Eq.refl (String.join units))
      refine List.map_injective_iff.mpr (fun _ _ => String.toList_inj.mp) ?_
      rw [map_toList_splitUnits, ← hjoin, Token.split_flatten h]
    · intro h
      rw [← h]
      exact (hcut (String.join units)).1
  · intro o query
    rw [map_text_tokenize]
    exact (hcut (repair o query)).2

example : splitUnits "né -(日本 x" = ["né", " ", "-", "(", "日本", " ", "x"] := by decide

end SearchQuery
