import SearchQuery.Proofs.Repair.Stretch
import SearchQuery.Proofs.Token.Mark

/-!
# Cutting a text at a seam

Two texts that are put together are cut into the units of the one and then those of the
other, unless a stretch runs across the place where they meet. It does not as soon as one of
the two characters there always stands alone, or one of the texts is empty: that is
`AtSeam`, and `split_append` is the law.

For a repaired query the seam can be seen on the query itself. What the repair writes for a
stretch ends as the stretch does, and the closers that it may write next to it stand alone,
single quotes apart (`atSeam_written`).
-/

namespace SearchQuery

namespace Token

variable {c : Char} {front back text : List Char} {units more : List (List Char)}

/-- No unit can run from the end of the one text into the start of the other. -/
def AtSeam (front back : List Char) : Prop :=
  (∀ c, front.getLast? = some c → isBoundary c = true)
    ∨ ∀ c, back.head? = some c → isBoundary c = true

theorem AtSeam.tail (h : AtSeam (c :: front) back) : AtSeam front back := by
  refine h.imp_left fun hlast d hd => hlast d ?_
  rw [List.getLast?_cons, hd]
  rfl

/-- A character joins the first unit, so the units behind it do not matter. -/
theorem joinRun_append (c : Char) (h : units ≠ []) :
    joinRun c (units ++ more) = joinRun c units ++ more := by
  obtain ⟨unit, rest, rfl⟩ := List.exists_cons_of_ne_nil h
  cases unit with
  | nil => rfl
  | cons d run =>
    rw [List.cons_append, joinRun, joinRun]
    split <;> rfl

theorem joinRun_boundary (hc : ∀ d, back.head? = some d → isBoundary d = true) :
    joinRun c (split back) = [c] :: split back := by
  cases back with
  | nil => rfl
  | cons d rest =>
    have hd : isBoundary d = true := hc d rfl
    rw [split, if_pos hd, joinRun, if_pos hd]

theorem split_ne_nil (h : text ≠ []) : split text ≠ [] := by
  intro hnil
  apply h
  rw [← flatten_split text, hnil]
  rfl

/-- **At a seam two texts are cut independently.** -/
theorem split_append (h : AtSeam front back) : split (front ++ back) = split front ++ split back := by
  induction front with
  | nil => rfl
  | cons c front ih =>
    rw [List.cons_append, split, split]
    by_cases hne : front = []
    · -- at the last character of the first text the seam decides
      subst hne
      by_cases hc : isBoundary c = true
      · rw [if_pos hc, if_pos hc]
        rfl
      · have hback := h.resolve_left fun hlast => hc (hlast c rfl)
        rw [if_neg hc, if_neg hc, List.nil_append, joinRun_boundary hback]
        rfl
    · rw [ih h.tail]
      split
      · rfl
      · exact joinRun_append c (split_ne_nil hne)

/-- The tokens of a text that is taken as it stands. -/
def scan (text : List Char) : List Token := (split text).map ofUnit

theorem scan_append (h : AtSeam front back) : scan (front ++ back) = scan front ++ scan back := by
  rw [scan, split_append h, List.map_append]
  rfl

/-- At a seam there is room for characters that stand alone. -/
theorem scan_insert (h : AtSeam front back) (ht : ∀ c ∈ text, isBoundary c = true) :
    scan (front ++ (text ++ back)) = scan front ++ (scan text ++ scan back) := by
  by_cases hne : text = []
  · subst hne
    exact scan_append h
  · -- the characters put in stand alone, so there is a seam at both of their ends
    have hfirst : AtSeam front (text ++ back) := by
      refine .inr fun c hc => ht c (List.mem_of_head? ?_)
      rwa [List.head?_append_of_ne_nil text hne] at hc
    have hlast : AtSeam text back := .inl fun c hc => ht c (List.mem_of_getLast? hc)
    rw [scan_append hfirst, scan_append hlast]

/-! ## White space -/

theorem isBoundary_of_isSpace (h : Text.isSpace c = true) : isBoundary c = true :=
  isBoundary_iff.mpr (.inl h)

/-- The tokens of a blank text are white space. -/
theorem kind_of_blank (h : ∀ c ∈ text, Text.isSpace c = true) :
    ∀ t ∈ scan text, t.kind = .space := by
  intro t ht
  obtain ⟨unit, hunit, rfl⟩ := List.mem_map.mp ht
  have hspace : ∀ c ∈ unit, Text.isSpace c = true := by
    intro c hc
    apply h c
    rw [← flatten_split text]
    exact List.mem_flatten.mpr ⟨unit, hunit, hc⟩
  cases isUnit_of_mem_split unit hunit with
  | @boundary c _ => exact ofUnit_space (hspace c List.mem_cons_self)
  | run hne hrun =>
    obtain ⟨c, hc⟩ := List.exists_mem_of_ne_nil unit hne
    -- white space stands alone, so no stretch is blank
    have hb := isBoundary_of_isSpace (hspace c hc)
    rw [hrun c hc] at hb
    cases hb

/-! ## Repaired queries -/

theorem isBoundary_closer {d : Delimiter} (h : d ≠ .singleQuote) : isBoundary d.closer = true := by
  cases d with
  | paren => decide
  | doubleQuote => decide
  | singleQuote => exact absurd rfl h

/--
**The seam of a query is a seam of the repaired query**, when single quotes are not in use:
what is written for the front, with openers before it, and what is written for the back.
-/
theorem atSeam_written {opened : List Delimiter} (n : Nat)
    (hu : ∀ d ∈ opened, d ≠ .singleQuote) (o : Options) (h : AtSeam front back) :
    AtSeam (List.replicate n '(' ++ Repair.written o [] front) (Repair.body o opened back) := by
  refine h.imp (fun hlast c hc => ?_) fun hfirst c hc => ?_
  · rw [List.getLast?_append, Repair.getLast?_written] at hc
    cases hfront : front.getLast? with
    | some d =>
      rw [hfront] at hc
      obtain rfl : d = c := Option.some.inj hc
      exact hlast d hfront
    | none =>
      -- nothing stands between the openers and the back
      rw [hfront] at hc
      obtain rfl := List.eq_of_mem_replicate (List.mem_of_getLast? hc)
      decide
  · -- the back starts as it did, or with a closer, which stands alone too
    rcases Repair.head?_body hc with ⟨d, hd, rfl⟩ | hback
    · exact isBoundary_closer (hu d hd)
    · exact hfirst c hback

end Token

end SearchQuery
