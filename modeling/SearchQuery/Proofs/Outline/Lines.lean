import SearchQuery.Proofs.Text.Quoting
import SearchQuery.Query.Outline

/-!
# The lines of an outline

An outline is read line by line, and each line can be told from the others. Its margin ends
where a letter stands, so the depth can be counted; the letter says whether it announces a
phrase or a group; the names of the modes start with different letters; and the text of a
phrase is quoted (`phraseLine_inj`, `groupLine_inj`, `phraseLine_ne_groupLine`).

All of a line is printable, so what ends it is the line break behind it and nothing that was
typed, and lines that are joined can be parted again (`join_ended_inj`).
-/

namespace SearchQuery

variable {c : Char} {s s' : List Char} {m m' : Mode} {p p' : Phrase} {d d' : Nat}

/-- No two modes have names that start alike, so a name is known by what stands there. -/
theorem Mode.label_append_inj (h : m.label.toList ++ s = m'.label.toList ++ s') :
    m = m' ∧ s = s' := by
  cases m <;> cases m' <;> simp_all [label]

theorem Mode.isPrintable_of_mem_label (h : c ∈ m.label.toList) : Text.isPrintable c = true := by
  have hletters : m.label.toList.all Text.isPrintable = true := by cases m <;> decide
  exact List.all_eq_true.mp hletters c h

namespace Expression

/-! ## Margins -/

theorem toList_margin_succ (d : Nat) :
    (margin (d + 1)).toList = ' ' :: ' ' :: (margin d).toList := by
  rw [margin, List.replicate_succ, String.join_cons, String.toList_append]
  rfl

theorem mem_margin (h : c ∈ (margin d).toList) : c = ' ' := by
  induction d with
  | zero => cases h
  | succ d ih =>
    rw [toList_margin_succ, List.mem_cons, List.mem_cons] at h
    rcases h with rfl | rfl | h
    · rfl
    · rfl
    · exact ih h

/-- A margin ends at the first character that is no space. -/
theorem margin_append_inj {c c' : Char} (hc : c ≠ ' ') (hc' : c' ≠ ' ')
    (h : (margin d).toList ++ c :: s = (margin d').toList ++ c' :: s') :
    d = d' ∧ c = c' ∧ s = s' := by
  induction d generalizing d' with
  | zero =>
    cases d' with
    | zero => exact ⟨rfl, List.cons.inj h⟩
    | succ d' =>
      rw [toList_margin_succ] at h
      exact absurd (List.cons.inj h).1 hc
  | succ d ih =>
    rw [toList_margin_succ] at h
    cases d' with
    | zero => exact absurd (List.cons.inj h).1.symm hc'
    | succ d' =>
      rw [toList_margin_succ] at h
      obtain ⟨rfl, hrest⟩ := ih (List.cons.inj (List.cons.inj h).2).2
      exact ⟨rfl, hrest⟩

/-! ## One line -/

theorem toList_phraseLine (d : Nat) (p : Phrase) : (phraseLine d p).toList
    = (margin d).toList ++ 'P' :: ("hrase(".toList ++ (p.mode.label.toList
        ++ ',' :: ' ' :: ((Text.quoted p.text).toList ++ [')']))) := by
  simp [phraseLine]

theorem toList_groupLine (d : Nat) (m : Mode) : (groupLine d m).toList
    = (margin d).toList ++ 'G' :: ("roup(".toList ++ (m.label.toList ++ [')'])) := by
  simp [groupLine]

/-- **The line of a phrase tells its depth, its mode and its text.** -/
theorem phraseLine_inj (h : phraseLine d p = phraseLine d' p') :
    d = d' ∧ p.mode = p'.mode ∧ p.text = p'.text := by
  have hchars := congrArg String.toList h
  rw [toList_phraseLine, toList_phraseLine] at hchars
  -- from the left: the margin, then the name of the mode, then the quoted text
  obtain ⟨hdepth, _, hrest⟩ := margin_append_inj (by decide) (by decide) hchars
  obtain ⟨hmode, hrest⟩ := Mode.label_append_inj (List.append_cancel_left hrest)
  obtain ⟨htext, _⟩ := Text.quoted_append_inj (List.cons.inj (List.cons.inj hrest).2).2
  exact ⟨hdepth, hmode, htext⟩

/-- **The line of a group tells its depth and its mode.** -/
theorem groupLine_inj (h : groupLine d m = groupLine d' m') : d = d' ∧ m = m' := by
  have hchars := congrArg String.toList h
  rw [toList_groupLine, toList_groupLine] at hchars
  obtain ⟨hdepth, _, hrest⟩ := margin_append_inj (by decide) (by decide) hchars
  exact ⟨hdepth, (Mode.label_append_inj (List.append_cancel_left hrest)).1⟩

theorem phraseLine_ne_groupLine : phraseLine d p ≠ groupLine d' m := by
  intro h
  have hchars := congrArg String.toList h
  rw [toList_phraseLine, toList_groupLine] at hchars
  -- the lines differ in the first letter behind their margins
  obtain ⟨_, hletter, _⟩ := margin_append_inj (by decide) (by decide) hchars
  exact absurd hletter (by decide)

/-! ## What was typed does not break a line -/

theorem isPrintable_of_mem_phraseLine (h : c ∈ (phraseLine d p).toList) :
    Text.isPrintable c = true := by
  have hname : "Phrase(".toList.all Text.isPrintable = true := by decide
  have hcomma : ", ".toList.all Text.isPrintable = true := by decide
  simp only [phraseLine, String.toList_append, List.mem_append] at h
  -- the parts of a line: margin, name, mode, comma, text and the closing parenthesis
  rcases h with ((((h | h) | h) | h) | h) | h
  · obtain rfl := mem_margin h
    decide
  · exact List.all_eq_true.mp hname c h
  · exact Mode.isPrintable_of_mem_label h
  · exact List.all_eq_true.mp hcomma c h
  · exact Text.isPrintable_of_mem_quoted h
  · obtain rfl := List.mem_singleton.mp h
    decide

theorem isPrintable_of_mem_groupLine (h : c ∈ (groupLine d m).toList) :
    Text.isPrintable c = true := by
  have hname : "Group(".toList.all Text.isPrintable = true := by decide
  simp only [groupLine, String.toList_append, List.mem_append] at h
  rcases h with ((h | h) | h) | h
  · obtain rfl := mem_margin h
    decide
  · exact List.all_eq_true.mp hname c h
  · exact Mode.isPrintable_of_mem_label h
  · obtain rfl := List.mem_singleton.mp h
    decide

mutual

theorem isPrintable_of_mem_outline {line : String} : ∀ {d : Nat} {e : Expression},
    line ∈ e.outline d → ∀ c ∈ line.toList, Text.isPrintable c = true
  | d, .group mode phrases children, h => by
    rw [outline, List.mem_append] at h
    rcases h with h | h
    · obtain ⟨p, _, rfl⟩ := List.mem_map.mp h
      exact fun c hc => isPrintable_of_mem_phraseLine hc
    · exact isPrintable_of_mem_outlineAll h

theorem isPrintable_of_mem_outlineAll {line : String} : ∀ {d : Nat} {es : List Expression},
    line ∈ outlineAll d es → ∀ c ∈ line.toList, Text.isPrintable c = true
  | _, [], h => nomatch h
  | d, e :: es, h => by
    rw [outlineAll, List.cons_append, List.mem_cons, List.mem_append] at h
    rcases h with rfl | h | h
    · exact fun c hc => isPrintable_of_mem_groupLine hc
    · exact isPrintable_of_mem_outline h
    · exact isPrintable_of_mem_outlineAll h

end

end Expression

namespace Tree

variable {t t' : Tree}

theorem heading_inj (h : t.heading = t'.heading) : t.query = t'.query := by
  have hchars := congrArg String.toList h
  simp only [heading, String.toList_append, List.append_assoc] at hchars
  exact (Text.quoted_append_inj (List.append_cancel_left hchars)).1

/-- **All of a line is printable**, whatever was typed. -/
theorem isPrintable_of_mem_outlineLines {line : String} (h : line ∈ t.outlineLines)
    (hc : c ∈ line.toList) : Text.isPrintable c = true := by
  rcases List.mem_cons.mp h with rfl | h
  · have hname : "Query(".toList.all Text.isPrintable = true := by decide
    simp only [heading, String.toList_append, List.mem_append] at hc
    rcases hc with (hc | hc) | hc
    · exact List.all_eq_true.mp hname c hc
    · exact Text.isPrintable_of_mem_quoted hc
    · obtain rfl := List.mem_singleton.mp hc
      decide
  · exact Expression.isPrintable_of_mem_outline h c hc

end Tree

/-! ## Lines that are joined -/

/-- What stands before the first line break is a line. -/
theorem line_append_inj {l l' : List Char} (hl : '\n' ∉ l) (hl' : '\n' ∉ l')
    (h : l ++ '\n' :: s = l' ++ '\n' :: s') : l = l' ∧ s = s' := by
  -- a line is what is taken of the text up to the line break, whatever follows
  have hread : ∀ {l s : List Char}, '\n' ∉ l → (l ++ '\n' :: s).takeWhile (· ≠ '\n') = l := by
    intro l s hl
    have hall : ∀ c ∈ l, decide (c ≠ '\n') = true := fun c hc =>
      decide_eq_true fun heq => hl (heq ▸ hc)
    rw [List.takeWhile_append_of_pos hall]
    simp
  obtain rfl : l = l' := by rw [← hread hl (s := s), h, hread hl']
  exact ⟨rfl, (List.cons.inj (List.append_cancel_left h)).2⟩

/-- A text of which every line is ended, with its first line apart. -/
theorem toList_join_ended_cons (line : String) (lines : List String) :
    (String.join ((line :: lines).map (· ++ "\n"))).toList
      = line.toList ++ '\n' :: (String.join (lines.map (· ++ "\n"))).toList := by
  rw [List.map_cons, String.join_cons, String.toList_append, String.toList_append,
    List.append_assoc]
  rfl

/-- **Lines can be parted again** if none of them holds a line break. -/
theorem join_ended_inj {lines lines' : List String} (h : ∀ l ∈ lines, '\n' ∉ l.toList)
    (h' : ∀ l ∈ lines', '\n' ∉ l.toList)
    (heq : (String.join (lines.map (· ++ "\n"))).toList
      = (String.join (lines'.map (· ++ "\n"))).toList) : lines = lines' := by
  induction lines generalizing lines' with
  | nil =>
    cases lines' with
    | nil => rfl
    | cons line' lines' =>
      rw [toList_join_ended_cons] at heq
      simp at heq
  | cons line lines ih =>
    rw [toList_join_ended_cons] at heq
    cases lines' with
    | nil => simp at heq
    | cons line' lines' =>
      rw [toList_join_ended_cons] at heq
      rw [List.forall_mem_cons] at h h'
      -- the first lines end at the same line break, and the others are parted in the same way
      obtain ⟨hline, hrest⟩ := line_append_inj h.1 h'.1 heq
      rw [String.toList_inj.mp hline, ih h.2 h'.2 hrest]

/-- There are as many line breaks as lines. -/
theorem count_join_ended {lines : List String} (h : ∀ l ∈ lines, '\n' ∉ l.toList) :
    (String.join (lines.map (· ++ "\n"))).toList.count '\n' = lines.length := by
  induction lines with
  | nil => rfl
  | cons line lines ih =>
    rw [List.forall_mem_cons] at h
    rw [toList_join_ended_cons, List.count_append, List.count_cons_self, ih h.2,
      List.count_eq_zero.mpr h.1, List.length_cons, Nat.zero_add]

/-- The last line is ended, too. -/
theorem getLast?_join_ended (line : String) (lines : List String) :
    (String.join ((line :: lines).map (· ++ "\n"))).toList.getLast? = some '\n' := by
  induction lines generalizing line with
  | nil => simp
  | cons next lines ih =>
    rw [toList_join_ended_cons, List.getLast?_append, List.getLast?_cons, ih next]
    rfl

end SearchQuery
