import SearchQuery.Toml.Document

/-!
# Lines that say nothing

On a comment or an empty line the reading never comes to a key: at the start of the line it sees a
comment sign or a line break, and the end of the line is then all that is left of the line
(`run_endLine`).

The reader is a chain of small readings, each of which may fail. A lemma `run_x` says where `x`
ends when it starts at a given place, and `run_bind_ok` puts these together one by one.
-/

namespace SearchQuery.Toml

/-- A line without a setting: nothing at all, or a comment. -/
structure IsIdleLine (line : List Char) : Prop where
  start : line = [] ∨ line.head? = some '#'
  plain : ∀ c ∈ line, StringForm.isPlain c = true

namespace Reading

variable {α β : Type} {n : Nat} {line rest : List Char}

theorem run_bind_ok {x : Reading α} {f : α → Reading β} {a : α} {c c' : Cursor}
    (h : x.run c = .ok (a, c')) : (x >>= f).run c = (f a).run c' := by
  rw [StateT.run_bind, h]
  rfl

theorem run_peek? (c : Cursor) : peek?.run c = .ok (c.rest.head?, c) := rfl

theorem run_skip (count : Nat) (c : Cursor) :
    (skip count).run c = .ok ((), ⟨c.position + count, c.rest.drop count⟩) := rfl

theorem run_skipBlanks (h : ∀ c ∈ rest.head?, c ≠ ' ' ∧ c ≠ '\t') :
    skipBlanks.run ⟨n, rest⟩ = .ok ((), ⟨n, rest⟩) := by
  have hnone : rest.takeWhile (fun c => c = ' ' || c = '\t') = [] := by
    cases rest with
    | nil => rfl
    | cons c rest =>
      obtain ⟨hspace, htab⟩ := h c rfl
      simp [hspace, htab]
  have hrun : (takeWhile fun c => c = ' ' || c = '\t').run ⟨n, rest⟩ = .ok ([], ⟨n, rest⟩) := by
    show Except.ok (rest.takeWhile _, (⟨n + (rest.takeWhile _).length, rest.drop _⟩ : Cursor)) = _
    rw [hnone]
    rfl
  unfold skipBlanks
  rw [run_bind_ok hrun]
  rfl

theorem run_skipComment_other (h : rest.head? ≠ some '#') :
    skipComment.run ⟨n, rest⟩ = .ok ((), ⟨n, rest⟩) := by
  unfold skipComment
  rw [run_bind_ok (run_peek? _), if_neg h]
  rfl

theorem ne_newline_of_plain {c : Char} (h : StringForm.isPlain c = true) : c ≠ '\n' ∧ c ≠ '\r' := by
  constructor
  · rintro rfl
    exact absurd h (by decide)
  · rintro rfl
    exact absurd h (by decide)

theorem takeWhile_line (h : ∀ c ∈ line, StringForm.isPlain c = true) :
    (line ++ '\n' :: rest).takeWhile (· ≠ '\n') = line := by
  have hall : ∀ c ∈ line, (decide (c ≠ '\n')) = true := by
    intro c hc
    exact decide_eq_true (ne_newline_of_plain (h c hc)).1
  rw [List.takeWhile_append_of_pos hall, List.takeWhile_cons_of_neg (by simp), List.append_nil]

/-- A comment is read up to the end of its line. -/
theorem run_skipComment (hstart : line.head? = some '#')
    (hplain : ∀ c ∈ line, StringForm.isPlain c = true) :
    skipComment.run ⟨n, line ++ '\n' :: rest⟩ = .ok ((), ⟨n + line.length, '\n' :: rest⟩) := by
  have hhead : (line ++ '\n' :: rest).head? = some '#' := by
    rw [List.head?_append, hstart]
    rfl
  -- a carriage return before the line break would be left to the end of the line
  have hlast : line.getLast? ≠ some '\r' := by
    intro h
    exact (ne_newline_of_plain (hplain '\r' (List.mem_of_getLast? h))).2 rfl
  have hall : line.all StringForm.isPlain = true := List.all_eq_true.mpr hplain
  have hskip := run_skip line.length ⟨n, line ++ '\n' :: rest⟩
  unfold skipComment
  rw [run_bind_ok (run_peek? _), if_pos hhead, run_bind_ok (c := ⟨n, line ++ '\n' :: rest⟩) rfl,
    run_bind_ok (c := ⟨n, line ++ '\n' :: rest⟩) rfl]
  simp only [takeWhile_line hplain, hlast, decide_false, Bool.and_false, Bool.false_eq_true,
    if_false, hall, if_true]
  rw [hskip, List.drop_left]

theorem head?_idleLine (h : IsIdleLine line) (rest : List Char) :
    ∃ first, (line ++ '\n' :: rest).head? = some first ∧ (first = '#' ∨ first = '\n') := by
  rcases h.start with rfl | hstart
  · exact ⟨'\n', rfl, .inr rfl⟩
  · refine ⟨'#', ?_, .inl rfl⟩
    rw [List.head?_append, hstart]
    rfl

theorem run_skipBlanks_idleLine (h : IsIdleLine line) :
    skipBlanks.run ⟨n, line ++ '\n' :: rest⟩ = .ok ((), ⟨n, line ++ '\n' :: rest⟩) := by
  obtain ⟨first, hfirst, heq⟩ := head?_idleLine h rest
  refine run_skipBlanks fun c hc => ?_
  obtain rfl : first = c := Option.some.inj (hfirst.symm.trans hc)
  rcases heq with rfl | rfl <;> decide

/-- **The end of an idle line is the whole line.** -/
theorem run_endLine (h : IsIdleLine line) :
    endLine.run ⟨n, line ++ '\n' :: rest⟩ = .ok ((), ⟨n + line.length + 1, rest⟩) := by
  have hbreak : lineBreak?.run ⟨n + line.length, '\n' :: rest⟩
      = .ok (true, ⟨n + line.length + 1, rest⟩) := rfl
  have hcomment : skipComment.run ⟨n, line ++ '\n' :: rest⟩
      = .ok ((), ⟨n + line.length, '\n' :: rest⟩) := by
    rcases h.start with rfl | hstart
    · -- an empty line has no comment to skip, and the line break is what is left of it
      exact run_skipComment_other (by simp)
    · exact run_skipComment hstart h.plain
  unfold endLine
  rw [run_bind_ok (run_skipBlanks_idleLine h), run_bind_ok hcomment, run_bind_ok hbreak]
  rfl

end Reading

end SearchQuery.Toml
