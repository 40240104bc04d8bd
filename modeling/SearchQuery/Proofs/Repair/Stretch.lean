import Mathlib.Data.List.Basic
import SearchQuery.Proofs.Repair.Effect

/-!
# Repairing a query in stretches

The repair reads from left to right, and of what it has read it keeps the open delimiters
only. So a query can be cut anywhere and repaired stretch by stretch: `written` is what comes
out for a stretch as long as the query goes on behind it, and the rest is repaired with what
the stretch leaves open (`chars_append`). Only the openers in front know of the whole query.

Two things are kept that matter to a reader of the result. What is written for a stretch ends
with the character that the stretch ends with, and what is written behind it starts with a
closer or with the character that comes next.
-/

namespace SearchQuery

namespace Repair

variable {o : Options} {opened : List Delimiter} {c : Char} {text more : List Char}

/-- What is written for a stretch of a query, when the query does not end behind it. -/
def written (o : Options) (opened : List Delimiter) : List Char → List Char
  | [] => []
  | c :: rest =>
    (forced o opened c).map Delimiter.closer ++ c :: written o (next o opened c) rest

theorem openAfter_cons : openAfter o opened (c :: text) = openAfter o (next o opened c) text := rfl

theorem body_append (o : Options) (opened : List Delimiter) (text more : List Char) :
    body o opened (text ++ more)
      = written o opened text ++ body o (openAfter o opened text) more := by
  induction text generalizing opened with
  | nil => rfl
  | cons c text ih =>
    rw [List.cons_append, body, ih, written, openAfter_cons, List.append_assoc, List.cons_append]

theorem unmatched_append (o : Options) (opened : List Delimiter) (text more : List Char) :
    unmatched o opened (text ++ more)
      = unmatched o opened text + unmatched o (openAfter o opened text) more := by
  induction text generalizing opened with
  | nil => exact (Nat.zero_add _).symm
  | cons c text ih => rw [List.cons_append, unmatched, ih, unmatched, openAfter_cons, Nat.add_assoc]

/-- At the end of a query nothing more is written than the closers of what is open. -/
theorem body_eq_written (o : Options) (opened : List Delimiter) (text : List Char) :
    body o opened text
      = written o opened text ++ (openAfter o opened text).map Delimiter.closer := by
  -- the whole query is a stretch with nothing behind it
  have happ := body_append o opened text []
  rwa [List.append_nil] at happ

/-- **A query is repaired stretch by stretch**, but for the openers in front of all of it. -/
theorem chars_append (o : Options) (text more : List Char) :
    chars o (text ++ more)
      = List.replicate (unmatched o [] text + unmatched o (openAfter o [] text) more) '('
        ++ written o [] text ++ body o (openAfter o [] text) more := by
  rw [chars, unmatched_append, body_append, List.append_assoc]

/-! ## Ordinary text -/

theorem next_ordinary (h : Ordinary o c) : next o opened c = opened := by
  rw [next, effect_ordinary h]

/-- Ordinary text is written as it stands, and nothing changes behind it. -/
theorem body_ordinary_append (h : ∀ c ∈ text, Ordinary o c) :
    body o opened (text ++ more) = text ++ body o opened more := by
  induction text with
  | nil => rfl
  | cons c text ih =>
    have hc := h c List.mem_cons_self
    have hrest := ih fun d hd => h d (List.mem_cons_of_mem c hd)
    rw [List.cons_append, body, next_ordinary hc, hrest, forced, effect_ordinary hc]
    rfl

theorem unmatched_ordinary_append (h : ∀ c ∈ text, Ordinary o c) :
    unmatched o opened (text ++ more) = unmatched o opened more := by
  induction text with
  | nil => rfl
  | cons c text ih =>
    have hc := h c List.mem_cons_self
    have hrest := ih fun d hd => h d (List.mem_cons_of_mem c hd)
    rw [List.cons_append, unmatched, next_ordinary hc, hrest, effect_ordinary hc,
      if_neg Effect.noConfusion, Nat.zero_add]

/-! ## Both ends of what is written -/

theorem getLast?_written (o : Options) (opened : List Delimiter) (text : List Char) :
    (written o opened text).getLast? = text.getLast? := by
  induction text generalizing opened with
  | nil => rfl
  | cons c text ih =>
    rw [written, List.getLast?_append, List.getLast?_cons, ih, List.getLast?_cons]
    rfl

/-- Only what is open is ever closed. -/
theorem mem_of_mem_forced {d : Delimiter} (h : d ∈ forced o opened c) : d ∈ opened := by
  unfold forced at h
  split at h
  · exact (List.takeWhile_sublist _).mem h
  · cases h

/-- What is written behind some place starts with a closer, or as the query goes on there. -/
theorem head?_body (h : (body o opened text).head? = some c) :
    (∃ d ∈ opened, c = d.closer) ∨ text.head? = some c := by
  have hcloser : ∀ ds : List Delimiter, (∀ d ∈ ds, d ∈ opened) →
      (ds.map Delimiter.closer).head? = some c → ∃ d ∈ opened, c = d.closer := by
    intro ds hds hhead
    obtain ⟨d, hd, hc⟩ := List.mem_map.mp (List.mem_of_head? hhead)
    exact ⟨d, hds d hd, hc.symm⟩
  cases text with
  | nil => exact .inl (hcloser opened (fun _ hd => hd) h)
  | cons b rest =>
    rw [body, List.head?_append] at h
    -- what is forced comes before `b`; if nothing is, `b` comes first
    cases hhead : ((forced o opened b).map Delimiter.closer).head? with
    | none =>
      rw [hhead] at h
      exact .inr h
    | some a =>
      rw [hhead] at h
      obtain rfl : a = c := Option.some.inj h
      exact .inl (hcloser _ (fun _ hd => mem_of_mem_forced hd) hhead)

theorem uses_openAfter (h : ∀ d ∈ opened, o.Uses d) : ∀ d ∈ openAfter o opened text, o.Uses d := by
  induction text generalizing opened with
  | nil => exact h
  | cons c text ih => exact ih (uses_next h)

end Repair

end SearchQuery
