import SearchQuery.Proofs.Repair.Effect

/-!
# Texts that pass as they are

`Passes o opened text left` says that a text, met while `opened` is open, needs no
repair and leaves `left` open: every closer in it closes the innermost delimiter.
It speaks of the characters only, not of the repair.

`chars_eq_self_iff` ties it to the repair: a query comes back unchanged exactly when
it passes with nothing open before it and nothing open after it. The repair only
ever adds, so a text that keeps its length has kept everything.
-/

namespace SearchQuery

namespace Repair

variable {o : Options} {opened left : List Delimiter} {c : Char} {d : Delimiter} {text : List Char}

/-- With `opened` open, innermost first, the text needs no repair and leaves `left` open. -/
inductive Passes (o : Options) : List Delimiter → List Char → List Delimiter → Prop where
  | nil {opened : List Delimiter} : Passes o opened [] opened
  | plain {opened left : List Delimiter} {c : Char} {text : List Char} :
      Ordinary o c → Passes o opened text left → Passes o opened (c :: text) left
  | opens {opened left : List Delimiter} {d : Delimiter} {text : List Char} :
      o.Uses d → (d ≠ .paren → d ∉ opened) → Passes o (d :: opened) text left →
      Passes o opened (d.opener :: text) left
  | closes {opened left : List Delimiter} {d : Delimiter} {text : List Char} :
      o.Uses d → Passes o opened text left → Passes o (d :: opened) (d.closer :: text) left

theorem above_self : above d (d :: opened) = [] :=
  above_append_cons List.not_mem_nil

theorem below_self : below d (d :: opened) = opened :=
  below_append_cons List.not_mem_nil

/-- One character passes when the repair puts nothing in front of it, at its place or at the start. -/
theorem passes_cons_iff :
    Passes o opened (c :: text) left ↔
      forced o opened c = [] ∧ effect o opened c ≠ .unmatched
        ∧ Passes o (next o opened c) text left := by
  constructor
  · intro h
    cases h with
    | plain hc h =>
      have he : effect o opened c = .plain := effect_ordinary hc
      exact ⟨by simp [forced, he], by simp [he], by simpa [next, he] using h⟩
    | @opens _ _ d _ hu hn h =>
      have he : effect o opened d.opener = .opens d := effect_opener hu hn
      exact ⟨by simp [forced, he], by simp [he], by simpa [next, he] using h⟩
    | @closes opened _ d _ hu h =>
      have he : effect o (d :: opened) d.closer = .closes d := effect_closer hu List.mem_cons_self
      exact ⟨by simp [forced, he, above_self], by simp [he], by simpa [next, he, below_self] using h⟩
  · rintro ⟨hf, hn, h⟩
    rcases effect_cases o opened c with ⟨he, hc⟩ | ⟨d, he, hu, hc, hd⟩ | ⟨d, he, hu, hc, hm⟩ | ⟨he, _, _⟩
    · rw [next, he] at h
      exact .plain hc h
    · rw [next, he] at h
      subst hc
      exact .opens hu hd h
    · -- nothing is forced, so nothing lies above the delimiter that is closed
      rw [forced, he] at hf
      rw [next, he] at h
      have hcut := above_append_below hm
      rw [show above d opened = [] from hf, List.nil_append] at hcut
      rw [hc, ← hcut]
      exact .closes hu h
    · exact absurd he hn

/-- What comes after a text that passes is read with what the text leaves open. -/
theorem passes_append_iff {text more : List Char} {last : List Delimiter}
    (h : Passes o opened text left) :
    Passes o opened (text ++ more) last ↔ Passes o left more last := by
  induction text generalizing opened with
  | nil => cases h; rfl
  | cons c text ih =>
    obtain ⟨hf, hn, hrest⟩ := passes_cons_iff.mp h
    -- the first character passes whatever comes later, so all hangs on the rest
    rw [List.cons_append, passes_cons_iff, ih hrest]
    exact ⟨fun hp => hp.2.2, fun hp => ⟨hf, hn, hp⟩⟩

/-- The closers of what is open, innermost first, pass. -/
theorem passes_closers {top : List Delimiter} (hu : ∀ d ∈ top, o.Uses d) :
    Passes o (top ++ opened) (top.map Delimiter.closer) opened := by
  induction top with
  | nil => exact .nil
  | cons d top ih =>
    exact .closes (hu d List.mem_cons_self) (ih fun e he => hu e (List.mem_cons_of_mem d he))

/-- Opening parentheses pass, and stay open. -/
theorem passes_openers (n : Nat) :
    Passes o opened (List.replicate n '(') (List.replicate n .paren ++ opened) := by
  induction n generalizing opened with
  | zero => exact .nil
  | succ n ih =>
    -- the first `(` lies below those that follow it
    have hopen : Passes o opened ('(' :: List.replicate n '(')
        (List.replicate n .paren ++ .paren :: opened) :=
      .opens (d := .paren) trivial (absurd rfl) ih
    rw [List.replicate_succ, List.replicate_succ', List.append_assoc]
    exact hopen

/-! ## What passes is left alone -/

theorem unmatched_of_passes (h : Passes o opened text left) : unmatched o opened text = 0 := by
  induction text generalizing opened with
  | nil => rfl
  | cons c text ih =>
    obtain ⟨_, hn, hrest⟩ := passes_cons_iff.mp h
    rw [unmatched, if_neg hn, ih hrest]

/-- All that is added to a text that passes are the closers of what it leaves open. -/
theorem body_of_passes (h : Passes o opened text left) :
    body o opened text = text ++ left.map Delimiter.closer := by
  induction text generalizing opened with
  | nil => cases h; rfl
  | cons c text ih =>
    obtain ⟨hf, _, hrest⟩ := passes_cons_iff.mp h
    rw [body, hf, ih hrest]
    rfl

/-- Nothing of a text is lost in its body, and its order is kept. -/
theorem sublist_body (o : Options) (opened : List Delimiter) (text : List Char) :
    text.Sublist (body o opened text) := by
  induction text generalizing opened with
  | nil => exact List.nil_sublist _
  | cons c text ih =>
    exact ((ih (next o opened c)).cons_cons c).trans (List.sublist_append_right _ _)

/-- Where the repair adds nothing, the text passes. -/
theorem passes_of_length (hn : unmatched o opened text = 0)
    (hl : (body o opened text).length = text.length) : Passes o opened text [] := by
  induction text generalizing opened with
  | nil =>
    have : opened = [] := by simpa [body] using hl
    subst this
    exact .nil
  | cons c text ih =>
    -- the rest is written with no fewer characters than it has, so none are left for `c`
    have hle := (sublist_body o (next o opened c) text).length_le
    simp only [body, List.length_append, List.length_cons, List.length_map] at hl
    rw [unmatched] at hn
    refine passes_cons_iff.mpr ⟨List.eq_nil_of_length_eq_zero (by omega), ?_, ih ?_ ?_⟩
    · intro he
      rw [if_pos he] at hn
      omega
    · omega
    · omega

/-- **A query is left alone exactly when it passes and leaves nothing open.** -/
theorem chars_eq_self_iff (o : Options) (text : List Char) :
    chars o text = text ↔ Passes o [] text [] := by
  constructor
  · intro h
    -- the body alone is as long as the text, so nothing is left to put in front or to insert
    have hlen := congrArg List.length h
    have hle := (sublist_body o [] text).length_le
    simp only [chars, List.length_append, List.length_replicate] at hlen
    exact passes_of_length (by omega) (by omega)
  · intro h
    rw [chars, unmatched_of_passes h, body_of_passes h]
    simp

end Repair

end SearchQuery
