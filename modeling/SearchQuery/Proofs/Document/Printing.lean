import SearchQuery.Json

/-!
# Documents that are printed alike are the same

What is printed for other programs has to be read by them, so no two documents may
be printed as the same text. The proof reads from the left. Each piece of a printed
document says by itself where it ends: an escaped character by its first characters
(`unescape`), a text by the first quote that is not escaped, a list or a record by
what stands at the start of the next line. So two pieces that are printed alike up to
what follows them are the same piece, with the same to follow (`render_append_inj`),
and a whole document is the case in which nothing follows.

It also has to be shown to people, and then no text in it may act on their terminal.
What is printed around the texts is known, and a text is printed escaped, so a printed
document has no control characters but its line breaks (`clear_pretty`).
-/

namespace SearchQuery

/--
A text that is written character by character can be told from all others by what is written, if
each character can be read off the front, and none where the text ends.
-/
theorem Text.coded_append_inj {code : Char → List Char} {stop : Char}
    {read : List Char → Option (Char × List Char)}
    (hread : ∀ c s, read (code c ++ s) = some (c, s)) (hstop : ∀ s, read (stop :: s) = none) :
    ∀ {l l' s s' : List Char},
      l.flatMap code ++ stop :: s = l'.flatMap code ++ stop :: s' → l = l' ∧ s = s' := by
  -- no written character starts as the end of a text does
  have hne : ∀ {c : Char} {s s' : List Char}, code c ++ s ≠ stop :: s' := by
    intro c s s' h
    have hfirst := hread c s
    rw [h, hstop] at hfirst
    cases hfirst
  intro l
  induction l with
  | nil =>
    intro l' s s' h
    cases l' with
    | nil => exact ⟨rfl, (List.cons.inj h).2⟩
    | cons c' l' =>
      rw [List.flatMap_cons, List.append_assoc] at h
      exact absurd h.symm hne
  | cons c l ih =>
    intro l' s s' h
    rw [List.flatMap_cons, List.append_assoc] at h
    cases l' with
    | nil => exact absurd h hne
    | cons c' l' =>
      rw [List.flatMap_cons, List.append_assoc] at h
      -- the first character is known without what follows, and then the next
      have hfirst := hread c (l.flatMap code ++ stop :: s)
      rw [h, hread] at hfirst
      obtain ⟨rfl, hrest⟩ := Prod.mk.inj (Option.some.inj hfirst)
      obtain ⟨rfl, rfl⟩ := ih hrest.symm
      exact ⟨rfl, rfl⟩

namespace Json

/-! ## A character -/

/-- The number of a hexadecimal digit. -/
def hexValue (c : Char) : Nat :=
  if c.toNat < 58 then c.toNat - 48 else c.toNat - 87

theorem hexValue_hexDigit : ∀ n < 16, hexValue (hexDigit n) = n := by decide

/-- Takes the first character off an escaped text; at its end there is none. -/
def unescape : List Char → Option (Char × List Char)
  | '\\' :: 'u' :: '0' :: '0' :: high :: low :: rest =>
    some (Char.ofNat (16 * hexValue high + hexValue low), rest)
  | '\\' :: 'n' :: rest => some ('\n', rest)
  | '\\' :: 'r' :: rest => some ('\r', rest)
  | '\\' :: 't' :: rest => some ('\t', rest)
  | '\\' :: 'b' :: rest => some ('\x08', rest)
  | '\\' :: 'f' :: rest => some ('\x0c', rest)
  | '\\' :: c :: rest => some (c, rest)
  | '"' :: _ => none
  | c :: rest => some (c, rest)
  | [] => none

theorem unescape_control {c : Char} (h : c.toNat < 0x20) (rest : List Char) :
    unescape (['\\', 'u', '0', '0', hexDigit (c.toNat / 16), hexDigit (c.toNat % 16)] ++ rest)
      = some (c, rest) := by
  have hhigh : hexValue (hexDigit (c.toNat / 16)) = c.toNat / 16 :=
    hexValue_hexDigit _ (by omega)
  have hlow : hexValue (hexDigit (c.toNat % 16)) = c.toNat % 16 :=
    hexValue_hexDigit _ (Nat.mod_lt _ (by decide))
  simp only [List.cons_append, List.nil_append, unescape]
  -- the two digits are the number of the character to the base sixteen
  rw [hhigh, hlow, Nat.div_add_mod, Char.ofNat_toNat]

theorem unescape_plain {c : Char} (hquote : c ≠ '"') (hslash : c ≠ '\\') (rest : List Char) :
    unescape (c :: rest) = some (c, rest) := by
  unfold unescape
  split <;> simp_all

/-- An escaped character can be read back, whatever follows it. -/
theorem unescape_escape (c : Char) (rest : List Char) :
    unescape (escape c ++ rest) = some (c, rest) := by
  by_cases hquote : c = '"'
  · subst hquote; rfl
  by_cases hslash : c = '\\'
  · subst hslash; rfl
  by_cases hn : c = '\n'
  · subst hn; rfl
  by_cases hr : c = '\r'
  · subst hr; rfl
  by_cases ht : c = '\t'
  · subst ht; rfl
  by_cases hb : c = '\x08'
  · subst hb; rfl
  by_cases hf : c = '\x0c'
  · subst hf; rfl
  rw [escape, if_neg hquote, if_neg hslash, if_neg hn, if_neg hr, if_neg ht, if_neg hb, if_neg hf]
  split
  · next hlow => exact unescape_control hlow rest
  · exact unescape_plain hquote hslash rest

/-! ## A text -/

theorem escaped_append_inj {l l' s s' : List Char}
    (h : l.flatMap escape ++ '"' :: s = l'.flatMap escape ++ '"' :: s') : l = l' ∧ s = s' :=
  Text.coded_append_inj unescape_escape (fun _ => rfl) h

theorem toList_quote_append (text : String) (s : List Char) :
    (quote text).toList ++ s = '"' :: (text.toList.flatMap escape ++ '"' :: s) := by
  simp [quote]

theorem quote_append_inj {a b : String} {s s' : List Char}
    (h : (quote a).toList ++ s = (quote b).toList ++ s') : a = b ∧ s = s' := by
  rw [toList_quote_append, toList_quote_append] at h
  obtain ⟨htext, hs⟩ := escaped_append_inj (List.cons.inj h).2
  exact ⟨String.toList_inj.mp htext, hs⟩

/-! ## Lists and records -/

/-- The white space at the start of a line. -/
def indent (level : Nat) : List Char := (String.join (List.replicate level "  ")).toList

theorem toList_lineBreak (level : Nat) : (lineBreak level).toList = '\n' :: indent level := by
  simp [lineBreak, indent]

variable {level : Nat}

theorem render_list_append (item : Json) (items : List Json) (s : List Char) :
    (render level (list (item :: items))).toList ++ s
      = '[' :: '\n' :: (indent (level + 1) ++ ((render (level + 1) item).toList ++
          ((renderItems (level + 1) items).toList ++ '\n' :: (indent level ++ ']' :: s)))) := by
  simp [render, toList_lineBreak]

theorem render_record_append (name : String) (value : Json) (members : List (String × Json))
    (s : List Char) :
    (render level (record ((name, value) :: members))).toList ++ s
      = '\x7b' :: '\n' :: (indent (level + 1) ++ ((quote name).toList ++
          ':' :: ' ' :: ((render (level + 1) value).toList ++
            ((renderMembers (level + 1) members).toList ++
              '\n' :: (indent level ++ '\x7d' :: s))))) := by
  simp [render, toList_lineBreak]

theorem renderItems_append (item : Json) (items : List Json) (s : List Char) :
    (renderItems level (item :: items)).toList ++ s
      = ',' :: '\n' :: (indent level ++ ((render level item).toList ++
          ((renderItems level items).toList ++ s))) := by
  simp [renderItems, toList_lineBreak]

theorem renderMembers_append (name : String) (value : Json) (members : List (String × Json))
    (s : List Char) :
    (renderMembers level ((name, value) :: members)).toList ++ s
      = ',' :: '\n' :: (indent level ++ ((quote name).toList ++
          ':' :: ' ' :: ((render level value).toList ++
            ((renderMembers level members).toList ++ s)))) := by
  simp [renderMembers, toList_lineBreak]

/-- The first character of a document, by which its kind is known. -/
def lead : Json → Char
  | bool value => if value then 't' else 'f'
  | text _ => '"'
  | list _ => '['
  | record _ => '\x7b'

theorem head?_render (j : Json) : (render level j).toList.head? = some j.lead := by
  cases j with
  | bool value => cases value <;> simp [render, lead]
  | text value => simp [render, quote, lead]
  | list items => cases items <;> simp [render, lead]
  | record members => cases members <;> simp [render, lead]

theorem lead_eq {j j' : Json} {s s' : List Char}
    (h : (render level j).toList ++ s = (render level j').toList ++ s') : j.lead = j'.lead := by
  -- a printed document is not empty, so what follows it does not hide its first character
  have hhead := congrArg List.head? h
  rw [List.head?_append, List.head?_append, head?_render, head?_render] at hhead
  simpa using hhead

theorem eq_bool_of_lead {j : Json} {value : Bool} (h : j.lead = (bool value).lead) :
    j = bool value := by
  cases j with
  | bool value' => cases value <;> cases value' <;> simp [lead] at h ⊢
  | _ => cases value <;> simp [lead] at h

theorem eq_text_of_lead {j : Json} (h : j.lead = '"') : ∃ value, j = text value := by
  cases j with
  | bool value => cases value <;> simp [lead] at h
  | text value => exact ⟨value, rfl⟩
  | list | record => simp [lead] at h

theorem eq_list_of_lead {j : Json} (h : j.lead = '[') : ∃ items, j = list items := by
  cases j with
  | bool value => cases value <;> simp [lead] at h
  | list items => exact ⟨items, rfl⟩
  | text | record => simp [lead] at h

theorem eq_record_of_lead {j : Json} (h : j.lead = '\x7b') : ∃ members, j = record members := by
  cases j with
  | bool value => cases value <;> simp [lead] at h
  | record members => exact ⟨members, rfl⟩
  | text | list => simp [lead] at h

/-! ## Documents -/

mutual

/-- **Pieces that are printed alike are the same**, and so is what follows them. -/
theorem render_append_inj : ∀ (j : Json) ⦃level : Nat⦄ ⦃j' : Json⦄ ⦃s s' : List Char⦄,
    (render level j).toList ++ s = (render level j').toList ++ s' → j = j' ∧ s = s'
  | .bool value => by
    intro level j' s s' h
    obtain rfl := eq_bool_of_lead (lead_eq h).symm
    exact ⟨rfl, List.append_cancel_left h⟩
  | .text value => by
    intro level j' s s' h
    obtain ⟨value', rfl⟩ := eq_text_of_lead (lead_eq h).symm
    rw [render, render] at h
    obtain ⟨rfl, rfl⟩ := quote_append_inj h
    exact ⟨rfl, rfl⟩
  | .list [] => by
    intro level j' s s' h
    obtain ⟨items', rfl⟩ := eq_list_of_lead (lead_eq h).symm
    cases items' with
    | nil => exact ⟨rfl, List.append_cancel_left h⟩
    | cons item' items' =>
      -- an empty list ends where another one breaks the line
      rw [render_list_append] at h
      simp [render] at h
  | .list (item :: items) => by
    intro level j' s s' h
    obtain ⟨items', rfl⟩ := eq_list_of_lead (lead_eq h).symm
    cases items' with
    | nil =>
      rw [render_list_append] at h
      simp [render] at h
    | cons item' items' =>
      rw [render_list_append, render_list_append, List.cons_inj_right, List.cons_inj_right] at h
      -- both are at the same level, so the white space before the items is the same
      obtain ⟨rfl, hrest⟩ := item.render_append_inj (List.append_cancel_left h)
      obtain ⟨rfl, hend⟩ := renderItems_append_inj items items' hrest
      have hs := List.append_cancel_left hend
      exact ⟨rfl, (List.cons.inj hs).2⟩
  | .record [] => by
    intro level j' s s' h
    obtain ⟨members', rfl⟩ := eq_record_of_lead (lead_eq h).symm
    cases members' with
    | nil => exact ⟨rfl, List.append_cancel_left h⟩
    | cons member' members' =>
      rw [render_record_append] at h
      simp [render] at h
  | .record ((name, value) :: members) => by
    intro level j' s s' h
    obtain ⟨members', rfl⟩ := eq_record_of_lead (lead_eq h).symm
    cases members' with
    | nil =>
      rw [render_record_append] at h
      simp [render] at h
    | cons member' members' =>
      rw [render_record_append, render_record_append, List.cons_inj_right,
        List.cons_inj_right] at h
      -- the name ends at its quote, then the value, and what is left are the other members
      obtain ⟨rfl, hvalue⟩ := quote_append_inj (List.append_cancel_left h)
      rw [List.cons_inj_right, List.cons_inj_right] at hvalue
      obtain ⟨rfl, hrest⟩ := value.render_append_inj hvalue
      obtain ⟨rfl, hend⟩ := renderMembers_append_inj members _ hrest
      have hs := List.append_cancel_left hend
      exact ⟨rfl, (List.cons.inj hs).2⟩

/-- The items end where a line does that no comma ends. -/
theorem renderItems_append_inj : ∀ (items items' : List Json) ⦃level : Nat⦄ ⦃s s' : List Char⦄,
    (renderItems level items).toList ++ '\n' :: s
        = (renderItems level items').toList ++ '\n' :: s' →
      items = items' ∧ s = s'
  | [], [] => by
    intro level s s' h
    exact ⟨rfl, (List.cons.inj h).2⟩
  | [], item' :: items' => by
    intro level s s' h
    -- a line break against a comma
    rw [renderItems_append] at h
    simp [renderItems] at h
  | item :: items, [] => by
    intro level s s' h
    rw [renderItems_append] at h
    simp [renderItems] at h
  | item :: items, item' :: items' => by
    intro level s s' h
    rw [renderItems_append, renderItems_append, List.cons_inj_right, List.cons_inj_right] at h
    obtain ⟨rfl, hrest⟩ := item.render_append_inj (List.append_cancel_left h)
    obtain ⟨rfl, rfl⟩ := renderItems_append_inj items items' hrest
    exact ⟨rfl, rfl⟩

theorem renderMembers_append_inj : ∀ (members members' : List (String × Json)) ⦃level : Nat⦄
    ⦃s s' : List Char⦄,
    (renderMembers level members).toList ++ '\n' :: s
        = (renderMembers level members').toList ++ '\n' :: s' →
      members = members' ∧ s = s'
  | [], [] => by
    intro level s s' h
    exact ⟨rfl, (List.cons.inj h).2⟩
  | [], (name', value') :: members' => by
    intro level s s' h
    rw [renderMembers_append] at h
    simp [renderMembers] at h
  | (name, value) :: members, [] => by
    intro level s s' h
    rw [renderMembers_append] at h
    simp [renderMembers] at h
  | (name, value) :: members, (name', value') :: members' => by
    intro level s s' h
    rw [renderMembers_append, renderMembers_append, List.cons_inj_right,
      List.cons_inj_right] at h
    obtain ⟨rfl, hvalue⟩ := quote_append_inj (List.append_cancel_left h)
    rw [List.cons_inj_right, List.cons_inj_right] at hvalue
    obtain ⟨rfl, hrest⟩ := value.render_append_inj hvalue
    obtain ⟨rfl, rfl⟩ := renderMembers_append_inj members _ hrest
    exact ⟨rfl, rfl⟩

end

/-- **Documents that are printed alike are the same.** -/
theorem pretty_inj {j j' : Json} : j.pretty = j'.pretty ↔ j = j' := by
  refine ⟨fun h => ?_, fun h => h ▸ rfl⟩
  have happend : (render 0 j).toList ++ [] = (render 0 j').toList ++ [] := by
    rw [List.append_nil, List.append_nil]
    exact congrArg String.toList h
  exact (j.render_append_inj happend).1

/-! ## The characters of a document -/

/-- Whether a character is a line break or no control character. -/
def isClear (c : Char) : Bool := c = '\n' || 0x20 ≤ c.toNat

/-- All characters of a text are clear. -/
def Clear (text : String) : Prop := ∀ c ∈ text.toList, isClear c = true

theorem clear_of_all {text : String} (h : text.toList.all isClear = true) : Clear text :=
  List.all_eq_true.mp h

theorem Clear.append {a b : String} (ha : Clear a) (hb : Clear b) : Clear (a ++ b) := by
  intro c hc
  rw [String.toList_append, List.mem_append] at hc
  rcases hc with hc | hc
  · exact ha c hc
  · exact hb c hc

theorem isClear_hexDigit : ∀ n < 16, isClear (hexDigit n) = true := by decide

/-- A control character is written in letters and digits. -/
theorem all_isClear_escape (c : Char) : (escape c).all isClear = true := by
  unfold escape
  -- the seven characters with an escape of their own are written in two that are clear
  iterate 7 (split; · decide)
  split
  · rename_i hcontrol
    have hhigh : isClear (hexDigit (c.toNat / 16)) = true := isClear_hexDigit _ (by omega)
    have hlow : isClear (hexDigit (c.toNat % 16)) = true := isClear_hexDigit _ (by omega)
    have hstart : ['\\', 'u', '0', '0'].all isClear = true := by decide
    simp only [List.all_cons, List.all_nil, Bool.and_true, hhigh, hlow] at hstart ⊢
    exact hstart
  · rename_i hother
    have hclear : isClear c = true := by
      rw [isClear, Bool.or_eq_true, decide_eq_true_eq, decide_eq_true_eq]
      exact .inr (Nat.le_of_not_lt hother)
    rw [List.all_cons, hclear]
    rfl

theorem clear_quote (text : String) : Clear (quote text) := by
  intro c hc
  rw [quote, String.toList_ofList, List.mem_cons, List.mem_append, List.mem_flatMap] at hc
  rcases hc with rfl | ⟨d, _, hd⟩ | hc
  · decide
  · exact List.all_eq_true.mp (all_isClear_escape d) c hd
  · obtain rfl := List.mem_singleton.mp hc
    decide

theorem clear_lineBreak (level : Nat) : Clear (lineBreak level) := by
  intro c hc
  rw [toList_lineBreak, List.mem_cons, indent, String.toList_join, List.mem_flatMap] at hc
  rcases hc with rfl | ⟨step, hstep, hc⟩
  · decide
  · obtain rfl := List.eq_of_mem_replicate hstep
    have hblank : Clear "  " := clear_of_all (by decide)
    exact hblank c hc

mutual

theorem clear_render : ∀ (j : Json) (level : Nat), Clear (render level j)
  | .bool value, _ => by
    have htrue : Clear "true" := clear_of_all (by decide)
    have hfalse : Clear "false" := clear_of_all (by decide)
    rw [render]
    cases value
    · exact hfalse
    · exact htrue
  | .text value, _ => by
    rw [render]
    exact clear_quote value
  | .list [], _ => by
    have hempty : Clear "[]" := clear_of_all (by decide)
    rw [render]
    exact hempty
  | .list (item :: items), level => by
    have hopen : Clear "[" := clear_of_all (by decide)
    have hclose : Clear "]" := clear_of_all (by decide)
    rw [render]
    exact ((((hopen.append (clear_lineBreak _)).append (item.clear_render _)).append
      (clear_renderItems items _)).append (clear_lineBreak _)).append hclose
  | .record [], _ => by
    have hempty : Clear "\x7b\x7d" := clear_of_all (by decide)
    rw [render]
    exact hempty
  | .record ((name, value) :: members), level => by
    have hopen : Clear "\x7b" := clear_of_all (by decide)
    have hcolon : Clear ": " := clear_of_all (by decide)
    have hclose : Clear "\x7d" := clear_of_all (by decide)
    rw [render]
    exact ((((((hopen.append (clear_lineBreak _)).append (clear_quote name)).append hcolon).append
      (value.clear_render _)).append (clear_renderMembers members _)).append
        (clear_lineBreak _)).append hclose

theorem clear_renderItems : ∀ (items : List Json) (level : Nat), Clear (renderItems level items)
  | [], _ => by
    have hnone : Clear "" := clear_of_all (by decide)
    rw [renderItems]
    exact hnone
  | item :: items, level => by
    have hcomma : Clear "," := clear_of_all (by decide)
    rw [renderItems]
    exact ((hcomma.append (clear_lineBreak _)).append (item.clear_render _)).append
      (clear_renderItems items _)

theorem clear_renderMembers : ∀ (members : List (String × Json)) (level : Nat),
    Clear (renderMembers level members)
  | [], _ => by
    have hnone : Clear "" := clear_of_all (by decide)
    rw [renderMembers]
    exact hnone
  | (name, value) :: members, level => by
    have hcomma : Clear "," := clear_of_all (by decide)
    have hcolon : Clear ": " := clear_of_all (by decide)
    rw [renderMembers]
    exact ((((hcomma.append (clear_lineBreak _)).append (clear_quote name)).append hcolon).append
      (value.clear_render _)).append (clear_renderMembers members _)

end

/-- **A printed document has no control characters**, whatever texts are in it; what breaks its
lines is put there by the printing. -/
theorem clear_pretty (j : Json) : Clear j.pretty := j.clear_render 0

end Json

end SearchQuery
