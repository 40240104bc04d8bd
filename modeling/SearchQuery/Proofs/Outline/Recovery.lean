import SearchQuery.Proofs.Outline.Lines
import SearchQuery.Proofs.Document.Sameness
import SearchQuery.Proofs.Reading.StoredTerms

/-!
# An outline can be read back

The lines of an outline nest by their margins alone: nothing closes a group. What closes it
is the next line that announces a group less deep, or the end. `Above` says that of the lines
that follow, and with it the lines of an expression can be told from those of any other
(`outline_append_inj`): phrases come first, so they end at the first line of a group, and each
group ends where the lines above it begin.

A line does not show whether a phrase has several words, nor does any line show the mode of
the whole query. The first can be told from the text of a phrase, as long as the phrase is
sound, and the second is always the same.
-/

namespace SearchQuery

/-- Of a sound phrase, mode and text are all there is to know. -/
theorem Phrase.Sound.ext {p p' : Phrase} (h : p.Sound) (h' : p'.Sound) (hmode : p.mode = p'.mode)
    (htext : p.text = p'.text) : p = p' := by
  obtain ⟨text, mode, isMultiWord⟩ := p
  obtain ⟨text', mode', isMultiWord'⟩ := p'
  obtain rfl : text = text' := htext
  obtain rfl : mode = mode' := hmode
  obtain rfl : isMultiWord = isMultiWord' := h.flag.trans h'.flag.symm
  rfl

namespace Expression

theorem eq_of_parts {e e' : Expression} (hmode : e.mode = e'.mode)
    (hphrases : e.phrases = e'.phrases) (hchildren : e.children = e'.children) : e = e' := by
  obtain ⟨mode, phrases, children⟩ := e
  obtain ⟨mode', phrases', children'⟩ := e'
  exact congr (congr (congrArg Expression.group hmode) hphrases) hchildren

/-! ## Where a group ends -/

/-- Lines of which the first, if there is one, announces a group less deep than this. -/
def Above (depth : Nat) (lines : List String) : Prop :=
  ∀ line ∈ lines.head?, ∃ d m, d < depth ∧ line = groupLine d m

variable {depth : Nat} {rest rest' : List String}

theorem above_nil : Above depth [] := by
  intro line hline
  cases hline

/-- Behind the phrases of a group come groups at its own depth, or the group is over. -/
theorem Above.outlineAll (h : Above depth rest) (es : List Expression) :
    Above (depth + 1) (outlineAll depth es ++ rest) := by
  intro line hline
  cases es with
  | nil =>
    obtain ⟨d, m, hd, hgroup⟩ := h line hline
    exact ⟨d, m, Nat.lt_succ_of_lt hd, hgroup⟩
  | cons e es =>
    cases hline
    exact ⟨depth, e.mode, Nat.lt_succ_self depth, rfl⟩

/-- No phrase stands where lines above begin. -/
theorem Above.ne_phraseLine (h : Above depth rest) {d : Nat} {p : Phrase} {lines : List String} :
    phraseLine d p :: lines ≠ rest := by
  rintro rfl
  obtain ⟨d', m, _, hgroup⟩ := h (phraseLine d p) rfl
  exact phraseLine_ne_groupLine hgroup

theorem Above.ne_groupLine (h : Above depth rest) {m : Mode} {lines : List String} :
    groupLine depth m :: lines ≠ rest := by
  rintro rfl
  obtain ⟨d, m', hd, hgroup⟩ := h (groupLine depth m) rfl
  exact absurd (groupLine_inj hgroup).1 (Nat.ne_of_gt hd)

/-! ## Reading the lines back -/

theorem map_phraseLine_append_inj {d : Nat} {ps ps' : List Phrase} (hs : ∀ p ∈ ps, p.Sound)
    (hs' : ∀ p ∈ ps', p.Sound) (hr : Above depth rest) (hr' : Above depth rest')
    (h : ps.map (phraseLine d) ++ rest = ps'.map (phraseLine d) ++ rest') :
    ps = ps' ∧ rest = rest' := by
  induction ps generalizing ps' with
  | nil =>
    cases ps' with
    | nil => exact ⟨rfl, h⟩
    -- a phrase of the one group would stand among the lines above the other
    | cons p' ps' => exact absurd h.symm hr.ne_phraseLine
  | cons p ps ih =>
    cases ps' with
    | nil => exact absurd h hr'.ne_phraseLine
    | cons p' ps' =>
      rw [List.forall_mem_cons] at hs hs'
      obtain ⟨hline, hlines⟩ := List.cons.inj h
      obtain ⟨_, hmode, htext⟩ := phraseLine_inj hline
      obtain ⟨rfl, hrest⟩ := ih hs.2 hs'.2 hlines
      rw [hs.1.ext hs'.1 hmode htext]
      exact ⟨rfl, hrest⟩

mutual

/-- **The lines of a group tell what it holds**, and where it ends. -/
theorem outline_append_inj : ∀ {depth : Nat} {e e' : Expression} {rest rest' : List String},
    (∀ p ∈ e.allPhrases, p.Sound) → (∀ p ∈ e'.allPhrases, p.Sound) →
    Above depth rest → Above depth rest' → e.outline depth ++ rest = e'.outline depth ++ rest' →
      e.phrases = e'.phrases ∧ e.children = e'.children ∧ rest = rest'
  | depth, .group mode phrases children, .group mode' phrases' children', rest, rest',
      hs, hs', hr, hr', h => by
    rw [allPhrases, List.forall_mem_append] at hs hs'
    rw [outline, outline, List.append_assoc, List.append_assoc] at h
    -- the phrases end where the groups begin, and these where the group itself is over
    obtain ⟨rfl, hgroups⟩ := map_phraseLine_append_inj hs.1 hs'.1 (hr.outlineAll children)
      (hr'.outlineAll children') h
    obtain ⟨rfl, hrest⟩ := outlineAll_append_inj hs.2 hs'.2 hr hr' hgroups
    exact ⟨rfl, rfl, hrest⟩

theorem outlineAll_append_inj : ∀ {depth : Nat} {es es' : List Expression}
    {rest rest' : List String},
    (∀ p ∈ allPhrasesIn es, p.Sound) → (∀ p ∈ allPhrasesIn es', p.Sound) →
    Above depth rest → Above depth rest' →
    outlineAll depth es ++ rest = outlineAll depth es' ++ rest' → es = es' ∧ rest = rest'
  | _, [], [], _, _, _, _, _, _, h => ⟨rfl, h⟩
  | _, [], _ :: _, _, _, _, _, hr, _, h => absurd h.symm hr.ne_groupLine
  | _, _ :: _, [], _, _, _, _, _, hr', h => absurd h hr'.ne_groupLine
  | depth, e :: es, e' :: es', rest, rest', hs, hs', hr, hr', h => by
    rw [allPhrasesIn, List.forall_mem_append] at hs hs'
    rw [outlineAll, outlineAll, List.cons_append, List.cons_append, List.cons_append,
      List.cons_append, List.append_assoc, List.append_assoc] at h
    obtain ⟨hline, hlines⟩ := List.cons.inj h
    -- what follows the first group is above its contents
    obtain ⟨hphrases, hchildren, hmore⟩ := outline_append_inj hs.1 hs'.1 (hr.outlineAll es)
      (hr'.outlineAll es') hlines
    obtain ⟨rfl, hrest⟩ := outlineAll_append_inj hs.2 hs'.2 hr hr' hmore
    rw [eq_of_parts (groupLine_inj hline).2 hphrases hchildren]
    exact ⟨rfl, hrest⟩

end

end Expression

/-! ## How many lines there are -/

namespace Tree

variable {t : Tree}

mutual

/-- There is a line for each phrase and for each group inside. -/
theorem Stores.length_outline {parent : Option NodeId} {i j : Nat} {e : Expression} (d : Nat) :
    Stores t parent i e j → (e.outline d).length + 1 = e.allPhrases.length + (j - i)
  | .group hn hs => by
    have hle := hs.le
    -- a group fills as many numbers as there are groups in it, itself counted
    have hgroups := hs.length_outlineAll d
    rw [Expression.outline, Expression.allPhrases, List.length_append, List.length_append,
      List.length_map, hgroups]
    omega

theorem StoresAll.length_outlineAll {p i j : Nat} {ids : List Nat} {es : List Expression}
    (d : Nat) : StoresAll t p i ids es j →
      (Expression.outlineAll d es).length = (Expression.allPhrasesIn es).length + (j - i)
  | .nil => by simp [Expression.outlineAll, Expression.allPhrasesIn]
  | .cons h hs => by
    have hlt := h.lt
    have hle := hs.le
    have hfirst := h.length_outline (d + 1)
    have hrest := hs.length_outlineAll d
    rw [Expression.outlineAll, Expression.allPhrasesIn, List.length_append, List.length_cons,
      List.length_append]
    omega

end

theorem flatMap_range_getElem? {α β : Type} (f : α → List β) (l : List α) :
    (List.range l.length).flatMap (fun i => (l[i]?.map f).getD []) = l.flatMap f := by
  induction l with
  | nil => rfl
  | cons a l ih =>
    rw [List.length_cons, List.range_succ_eq_map, List.flatMap_cons, List.flatMap_map,
      List.flatMap_cons, ← ih]
    rfl

/-- The phrases of all groups are those of the whole query. -/
theorem Stores.phrases_eq {e : Expression} (h : Stores t none root e t.size) :
    t.phrases = e.allPhrases := by
  have hat : t.phrasesAt = fun i => (t.nodes.toList[i]?.map Node.phrases).getD [] := by
    funext i
    rw [phrasesAt, node?, Array.getElem?_toList]
  rw [h.allPhrases, phrases, ← flatMap_range_getElem?, hat, List.range_eq_range']
  rfl

end Tree

/-! ## At the top -/

variable {o o' : Options} {query query' : String}

theorem mode_rootExpression (o : Options) (query : String) :
    (parse o query).rootExpression.mode = .default := by
  have hwhole : Frame.combinator (.new .default) = .none := rfl
  rw [rootExpression_parse, Draft.start, Draft.run_tokenize o query hwhole]
  rfl

theorem sound_of_mem_rootExpression {p : Phrase}
    (hp : p ∈ (parse o query).rootExpression.allPhrases) : p.Sound := by
  have hsize := (stores_parse o query).lt
  exact (Phrase.isTerm_of_mem (mem_phrases_of_mem_expression hsize hp)).toSound

theorem not_mem_outlineLines {t : Tree} : ∀ line ∈ t.outlineLines, '\n' ∉ line.toList :=
  fun _ hline => Text.not_mem_of_isPrintable
    (fun _ => Tree.isPrintable_of_mem_outlineLines hline) (by decide)

/-- Queries with the same outline were typed alike and mean the same. -/
theorem eq_of_outline_eq (h : (parse o query).outline = (parse o' query').outline) :
    query = query' ∧ (parse o query).rootExpression = (parse o' query').rootExpression := by
  have hlines := join_ended_inj not_mem_outlineLines not_mem_outlineLines (congrArg String.toList h)
  obtain ⟨hheading, hcontents⟩ := List.cons.inj hlines
  have hquery := Tree.heading_inj hheading
  rw [query_parse, query_parse] at hquery
  rw [← List.append_nil (Expression.outline _ _),
    ← List.append_nil (Expression.outline 1 (parse o' query').rootExpression)] at hcontents
  obtain ⟨hphrases, hchildren, _⟩ := Expression.outline_append_inj
    (fun _ => sound_of_mem_rootExpression) (fun _ => sound_of_mem_rootExpression)
    Expression.above_nil Expression.above_nil hcontents
  -- no line shows the mode of the whole query
  have hmode := (mode_rootExpression o query).trans (mode_rootExpression o' query').symm
  exact ⟨hquery, Expression.eq_of_parts hmode hphrases hchildren⟩

/--
**An outline loses nothing.** Two queries, each read with some options, have the same outline
exactly when the same was typed and means the same. The outline has a line for the query,
one for each phrase in a group and one for each group inside the query, and each is ended,
whatever characters were typed.
-/
theorem outline_parse_eq_iff (o o' : Options) (query query' : String) :
    ((parse o query).outline = (parse o' query').outline
        ↔ query = query'
          ∧ (parse o query).rootExpression.same (parse o' query').rootExpression = true)
      ∧ (parse o query).outline.toList.count '\n'
        = 1 + (parse o query).phrases.length + ((parse o query).size - 1)
      ∧ (parse o query).outline.toList.getLast? = some '\n' := by
  have hstores := stores_parse o query
  refine ⟨⟨fun h => ?_, ?_⟩, ?_, getLast?_join_ended _ _⟩
  · rw [Expression.same_iff]
    exact eq_of_outline_eq h
  · rintro ⟨rfl, hsame⟩
    rw [Expression.same_iff] at hsame
    rw [parse_eq_iff.mpr ⟨rfl, hsame⟩]
  · have hlength := hstores.length_outline 1
    have hsize := hstores.lt
    rw [Tree.root] at hlength hsize
    rw [Tree.outline, count_join_ended not_mem_outlineLines, hstores.phrases_eq,
      Tree.outlineLines, List.length_cons]
    omega

end SearchQuery
