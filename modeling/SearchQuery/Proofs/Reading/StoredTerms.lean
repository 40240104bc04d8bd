import SearchQuery.Proofs.Reading.Terms
import SearchQuery.Proofs.Text.Words
import SearchQuery.Proofs.Tree.Collection

/-!
# What every stored term is like

A phrase gets into a tree in one of two ways, by a bare word or by a quoted text that ends.
`Phrase.IsTerm` is what both have in common, and it is an invariant of the reading together
with one fact on the way: the text that is collected between quotes has no quote in it
(`Reader.Holds`). Only a sign excludes a phrase and only a word takes a sign, so an excluded
phrase is a bare word as it stood in the query.

A term is a trimmed text that is not blank, and from this all else follows. It has words. Its
flag tells whether there are two of them. The way that spares the cutting of a single word
gives the same words as the cutting. And because no phrase is without words, a query has
something to search for exactly when words are collected from it.
-/

namespace SearchQuery

variable {p : Phrase} {r : Reader} {d : Draft} {token : Token} {tokens : List Token}
  {unit : List Char} {text w : String} {mode : Mode}

/-! ## Trimmed phrases -/

/-- A phrase with a text, trimmed and not blank, and with the flag that belongs to it. -/
structure Phrase.Sound (p : Phrase) : Prop where
  text_ne : p.text ≠ ""
  trimmed : Text.Trimmed p.text.toList
  flag : p.isMultiWord = p.text.toList.any Text.isSpace

namespace Phrase

theorem sound_ofText (h : (ofText text mode).text ≠ "") : (ofText text mode).Sound where
  text_ne := h
  trimmed := by
    show Text.Trimmed (String.ofList (Text.trim text.toList)).toList
    rw [String.toList_ofList]
    exact Text.trimmed_trim text.toList
  flag := by
    show (Text.trim text.toList).any Text.isSpace
      = (String.ofList (Text.trim text.toList)).toList.any Text.isSpace
    rw [String.toList_ofList]

theorem Sound.toList_ne (h : p.Sound) : p.text.toList ≠ [] := by
  intro hnil
  apply h.text_ne
  exact String.toList_eq_nil_iff.mp hnil

theorem Sound.isMultiWord_iff (h : p.Sound) :
    p.isMultiWord = true ↔ ∃ c ∈ p.text.toList, Text.isSpace c = true := by
  rw [h.flag, List.any_eq_true]

/-- A phrase that is not cut has no white space at which it could be. -/
theorem Sound.words_of_single (h : p.Sound) (hs : ¬ p.isMultiWord = true) :
    Text.words p.text.toList = [p.text.toList] := by
  refine Text.words_of_no_space h.toList_ne fun c hc => ?_
  exact Bool.eq_false_iff.mpr fun hspace => hs (h.isMultiWord_iff.mpr ⟨c, hc, hspace⟩)

/-- **The words of a phrase are those of its text**, whether it is cut or not. -/
theorem Sound.words_eq (h : p.Sound) :
    p.words = (Text.words p.text.toList).map String.ofList := by
  unfold words
  split
  · rfl
  · rename_i hs
    rw [h.words_of_single hs, List.map_singleton, String.ofList_toList]

theorem Sound.words_ne_nil (h : p.Sound) : p.words ≠ [] := by
  rw [h.words_eq, ne_eq, List.map_eq_nil_iff]
  exact h.trimmed.words_ne_nil h.toList_ne

theorem Sound.isMultiWord_iff_two_le (h : p.Sound) :
    p.isMultiWord = true ↔ 2 ≤ p.words.length := by
  rw [h.words_eq, List.length_map, h.trimmed.two_le_length_words_iff h.toList_ne]
  exact h.isMultiWord_iff

theorem Sound.mem_words (h : p.Sound) (hw : w ∈ p.words) :
    w ≠ "" ∧ ∀ c ∈ w.toList, Text.isSpace c = false := by
  rw [h.words_eq] at hw
  obtain ⟨word, hword, rfl⟩ := List.mem_map.mp hw
  obtain ⟨hne, hspace⟩ := Text.mem_words hword
  rw [String.toList_ofList]
  refine ⟨fun hempty => hne ?_, hspace⟩
  exact String.ofList_eq_empty_iff.mp hempty

end Phrase

/-! ## Bare words and texts between quotes -/

namespace Token

/-- A bare word: a stretch of characters that never stand alone, with no other meaning. -/
structure IsBare (unit : List Char) : Prop where
  run : ∀ c ∈ unit, isBoundary c = false
  word : Kind.ofUnit unit = .word

theorem IsBare.ne_colon (h : IsBare unit) : unit ≠ [':'] := by
  rintro rfl
  have hcolon : Kind.ofUnit [':'] = .colon := by decide
  exact Kind.noConfusion (hcolon.symm.trans h.word)

/-- A unit of several characters that is no keyword in any case. -/
theorem ofRun_eq_word (h : Kind.ofRun unit = .word) :
    unit.map Char.toLower ≠ ['a', 'n', 'd'] ∧ unit.map Char.toLower ≠ ['o', 'r'] := by
  unfold Kind.ofRun at h
  dsimp only at h
  split at h
  · cases h
  · split at h
    · cases h
    · exact ⟨‹_›, ‹_›⟩

theorem IsBare.ne_keyword (h : IsBare unit) :
    unit.map Char.toLower ≠ ['a', 'n', 'd'] ∧ unit.map Char.toLower ≠ ['o', 'r'] := by
  have hword := h.word
  unfold Kind.ofUnit at hword
  split at hword
  · -- one character is too short for a keyword
    simp
  · -- a longer unit is a word only after both keywords have been ruled out
    exact ofRun_eq_word hword

/-- Every unit but the quote is free of quotes. -/
theorem IsUnit.unquoted (h : IsUnit unit) (hk : Kind.ofUnit unit ≠ .quote) : '"' ∉ unit := by
  intro hmem
  cases h with
  | @boundary c _ =>
    -- a delimiter stands alone, so the quote would be the whole unit
    obtain rfl : '"' = c := List.mem_singleton.mp hmem
    exact hk (by decide)
  | run _ hrun =>
    have hboundary : isBoundary '"' = true := by decide
    rw [hrun '"' hmem] at hboundary
    cases hboundary

/-- A token that was cut out of a text. -/
def IsCut (t : Token) : Prop := ∃ unit, IsUnit unit ∧ t = ofUnit unit

theorem IsCut.isBare (h : token.IsCut) (hk : token.kind = .word) : IsBare token.text.toList := by
  obtain ⟨unit, hunit, rfl⟩ := h
  rw [show (ofUnit unit).text.toList = unit from String.toList_ofList]
  exact ⟨(run_of_ofUnit_word hunit hk).2, hk⟩

theorem IsCut.isSolid (h : token.IsCut) (hk : token.kind = .word) : token.IsSolid := by
  obtain ⟨unit, hunit, rfl⟩ := h
  exact isSolid_of_isUnit hunit hk

theorem IsCut.unquoted (h : token.IsCut) (hk : token.kind ≠ .quote) :
    '"' ∉ token.text.toList := by
  obtain ⟨unit, hunit, rfl⟩ := h
  rw [show (ofUnit unit).text.toList = unit from String.toList_ofList]
  exact hunit.unquoted hk

end Token

/-! ## The invariant of the reading -/

/-- What every phrase of a query is like. -/
structure Phrase.IsTerm (p : Phrase) : Prop extends p.Sound where
  unquoted : '"' ∉ p.text.toList
  excluded : p.mode = .exclude → Token.IsBare p.text.toList

/-- The phrases read so far are terms, and so will be the text between quotes. -/
structure Reader.Holds (r : Reader) : Prop where
  terms : ∀ p ∈ r.tree.phrases, p.IsTerm
  collected : ∀ text, r.quoting = .inside text → '"' ∉ text.toList

theorem Combinator.mode_ne_exclude (c : Combinator) : c.mode ≠ .exclude := by
  cases c <;> exact Mode.noConfusion

theorem mem_of_mem_trim {text : List Char} {c : Char} (h : c ∈ Text.trim text) : c ∈ text := by
  have hinner := (List.dropWhile_sublist _).mem (List.mem_reverse.mp h)
  exact (List.dropWhile_sublist _).mem (List.mem_reverse.mp hinner)

theorem Phrase.isTerm_word (hcut : token.IsCut) (hk : token.kind = .word) (mode : Mode) :
    IsTerm ⟨token.text, mode, false⟩ := by
  obtain ⟨hne, hspace⟩ := hcut.isSolid hk
  have hany : token.text.toList.any Text.isSpace = false := by simpa using hspace
  refine ⟨⟨hne, Text.trimmed_of_no_space hspace, hany.symm⟩, ?_, fun _ => hcut.isBare hk⟩
  exact hcut.unquoted (by rw [hk]; exact Token.Kind.noConfusion)

theorem Phrase.isTerm_quoted (hq : '"' ∉ text.toList) (hm : mode ≠ .exclude)
    (hp : p ∈ quotedPhrases text mode) : p.IsTerm := by
  unfold quotedPhrases at hp
  dsimp only at hp
  split at hp
  · cases hp
  · rename_i hne
    obtain rfl := List.mem_singleton.mp hp
    -- trimming takes characters away and adds none, so no quote comes in
    refine ⟨sound_ofText hne, fun hmem => hq ?_, fun he => absurd he hm⟩
    have hlist : (ofText text mode).text.toList = Text.trim text.toList := String.toList_ofList
    rw [hlist] at hmem
    exact mem_of_mem_trim hmem

/-- What a token adds is a term. -/
theorem Reader.Adds.isTerm (ha : r.Adds token text mode) (hr : r.Holds) (hcut : token.IsCut)
    (hp : p ∈ quotedPhrases text mode) : p.IsTerm := by
  cases ha with
  | word _ hk =>
    rw [quotedPhrases_word (hcut.isSolid hk)] at hp
    obtain rfl := List.mem_singleton.mp hp
    exact Phrase.isTerm_word hcut hk _
  -- a quoted text has the mode of a keyword, and none excludes
  | quoted hin _ =>
    exact Phrase.isTerm_quoted (hr.collected text hin) (Combinator.mode_ne_exclude _) hp

/-- **One token keeps the phrases terms**, and the collected text free of quotes. -/
theorem Reader.holds_step (hr : r.Holds) (hc : r.cursor < r.tree.size) (hcut : token.IsCut) :
    (r.step token).Holds where
  terms := by
    intro p hp
    -- only the phrase that is added is new, and only to it the kind of the token matters
    rcases r.tree_step_cases token with ⟨ht, _⟩ | ⟨text, mode, ht, _, _, ha⟩ | ⟨ht, _⟩
    · rw [ht] at hp
      exact hr.terms p hp
    · rw [ht, (Tree.phrases_addPhrase text mode hc).mem_iff] at hp
      rcases List.mem_append.mp hp with hp | hp
      · exact hr.terms p hp
      · exact ha.isTerm hr hcut hp
    · rw [ht, Tree.phrases_addGroup _ hc] at hp
      exact hr.terms p hp
  collected := by
    intro text hin
    rw [Reader.quoting_step] at hin
    unfold Quoting.next at hin
    split at hin <;> split at hin
    · cases hin
      exact List.not_mem_nil
    · cases hin
    · cases hin
    · -- the text grows by a token that is no quote
      rename_i before hbefore hk
      cases hin
      rw [String.toList_append, List.mem_append, not_or]
      exact ⟨hr.collected before hbefore, hcut.unquoted hk⟩

theorem Reader.holds_run (hf : Follows r d) (hr : r.Holds) (hcut : ∀ t ∈ tokens, t.IsCut) :
    (r.run tokens).Holds := by
  induction tokens generalizing r d with
  | nil => exact hr
  | cons token rest ih =>
    have hstep := Reader.holds_step hr hf.opened.lt_size (hcut token List.mem_cons_self)
    exact ih (follows_step hf token) hstep fun t ht => hcut t (List.mem_cons_of_mem token ht)

theorem Reader.holds_start (query : String) : (Reader.start query).Holds where
  terms := by
    intro p hp
    cases hp
  collected := by
    intro text hin
    cases hin

/-! ## The phrases of a query -/

theorem Tree.mem_phrases {t : Tree} :
    p ∈ t.phrases ↔ ∃ i node, t.node? i = some node ∧ p ∈ node.phrases := by
  rw [Tree.phrases, List.mem_flatMap]
  constructor
  · rintro ⟨node, hnode, hp⟩
    obtain ⟨i, hi⟩ := List.mem_iff_getElem?.mp hnode
    exact ⟨i, node, by rw [Tree.node?, ← Array.getElem?_toList]; exact hi, hp⟩
  · rintro ⟨i, node, hnode, hp⟩
    rw [Tree.node?, ← Array.getElem?_toList] at hnode
    exact ⟨node, List.mem_of_getElem? hnode, hp⟩

theorem Phrase.isTerm_of_mem {o : Options} {query : String} (hp : p ∈ (parse o query).phrases) :
    p.IsTerm := by
  have hcut : ∀ t ∈ tokenize o query, t.IsCut := fun _ ht => Token.mem_tokenize ht
  exact (Reader.holds_run (follows_start query) (Reader.holds_start query) hcut).terms p hp

/-- The phrases inside a group are phrases of the tree. -/
theorem mem_phrases_of_mem_expression {o : Options} {query : String} {i : NodeId}
    (hi : i < (parse o query).size) (hp : p ∈ ((parse o query).expression i).allPhrases) :
    p ∈ (parse o query).phrases := by
  rw [(stores_parse o query).allPhrases_expression hi] at hp
  obtain ⟨n, _, hp⟩ := List.mem_flatMap.mp hp
  cases hnode : (parse o query).node? n with
  | none =>
    rw [Tree.phrasesAt, hnode] at hp
    cases hp
  | some node =>
    rw [Tree.phrasesAt_eq hnode] at hp
    exact Tree.mem_phrases.mpr ⟨n, node, hnode, hp⟩

/-! ## What a search may rely on -/

/-- What is promised of a phrase, in the terms of its text and of its words. -/
structure Phrase.Shape (p : Phrase) : Prop where
  text_ne : p.text ≠ ""
  /-- No white space stands at the ends of the text. -/
  first : ∀ c, p.text.toList.head? = some c → Text.isSpace c = false
  last : ∀ c, p.text.toList.getLast? = some c → Text.isSpace c = false
  unquoted : '"' ∉ p.text.toList
  /-- The flag tells of white space in the text, and so of a second word. -/
  flag_iff_space : p.isMultiWord = true ↔ ∃ c ∈ p.text.toList, Text.isSpace c = true
  flag_iff_words : p.isMultiWord = true ↔ 2 ≤ p.words.length
  /-- The words are the text, cut at all white space. -/
  words_eq : p.words
    = ((p.text.toList.splitOnP Text.isSpace).filter (· ≠ [])).map String.ofList
  /-- An excluded phrase is one word, which stands for itself in a query. -/
  excluded_single : p.mode = .exclude → p.words = [p.text]
  excluded_delimiters : p.mode = .exclude →
    ∀ c ∈ p.text.toList, c ∉ ['"', '+', '(', ')', '-']
  excluded_colon : p.mode = .exclude → p.text ≠ ":"
  excluded_keyword : p.mode = .exclude →
    p.text.toList.map Char.toLower ≠ "and".toList ∧ p.text.toList.map Char.toLower ≠ "or".toList

/-- A stretch of characters that never stand alone has no delimiter and no white space in it. -/
theorem Token.IsBare.not_special {c : Char} (h : IsBare unit) (hc : c ∈ unit) :
    Text.isSpace c = false ∧ c ∉ ['"', '+', '(', ')', '-'] := by
  have hboundary := mt isBoundary_iff.mpr (Bool.eq_false_iff.mp (h.run c hc))
  simp only [not_or, Bool.not_eq_true] at hboundary
  obtain ⟨hs, hq, hp, ho, hcl, hm⟩ := hboundary
  exact ⟨hs, by simp [hq, hp, ho, hcl, hm]⟩

/-- **A term has the shape that a search relies on.** -/
theorem Phrase.IsTerm.shape (h : p.IsTerm) : p.Shape where
  text_ne := h.text_ne
  first := h.trimmed.first
  last := h.trimmed.last
  unquoted := h.unquoted
  flag_iff_space := h.isMultiWord_iff
  flag_iff_words := h.isMultiWord_iff_two_le
  words_eq := by rw [h.words_eq, Text.words_eq_splitOnP]
  excluded_single := by
    intro hex
    have hspace : ∀ c ∈ p.text.toList, Text.isSpace c = false := fun c hc =>
      ((h.excluded hex).not_special hc).1
    rw [h.words_eq, Text.words_of_no_space h.toList_ne hspace, List.map_singleton,
      String.ofList_toList]
  excluded_delimiters := fun hex c hc => ((h.excluded hex).not_special hc).2
  excluded_colon := by
    intro hex hcolon
    apply (h.excluded hex).ne_colon
    rw [hcolon]
    rfl
  excluded_keyword := fun hex => (h.excluded hex).ne_keyword

/-! ## At the top -/

/--
**Every phrase of a query has the shape that a search relies on**, in whatever group it is:
its text is trimmed, not blank and free of quotes, its flag and its words agree with the
text, and an excluded phrase is a bare word. So every word that is collected from a group,
to be found or not to be found, has characters and no white space among them.
-/
theorem stored_phrases_shape (o : Options) (query : String) (i : NodeId) (node : Node)
    (hn : (parse o query).node? i = some node) :
    (∀ p ∈ node.phrases, p.Shape)
      ∧ ∀ w, w ∈ ((parse o query).expression i).words
          ∨ w ∈ ((parse o query).expression i).excludedWords →
        w ≠ "" ∧ ∀ c ∈ w.toList, Text.isSpace c = false := by
  have hcollected : ∀ included w, w ∈ ((parse o query).expression i).collect included →
      w ≠ "" ∧ ∀ c ∈ w.toList, Text.isSpace c = false := by
    intro included w hw
    obtain ⟨p, hp, hwords⟩ := Expression.mem_collect hw
    have hmem := mem_phrases_of_mem_expression (Tree.lt_size_of_node? hn) hp
    exact (Phrase.isTerm_of_mem hmem).mem_words hwords
  refine ⟨fun p hp => ?_, fun w hw => hw.elim (hcollected true w) (hcollected false w)⟩
  exact (Phrase.isTerm_of_mem (Tree.mem_phrases.mpr ⟨i, node, hn, hp⟩)).shape

/-- A group with a quoted text of two words and an excluded word with a colon in it. -/
theorem stored_phrases_shape_group :
    (parse ⟨false⟩ "x (\" c  d\t\" or -a:b").node? 1
        = some ⟨.default, some 0, [⟨"c  d", .default, true⟩, ⟨"a:b", .exclude, false⟩], []⟩
      ∧ Phrase.Shape ⟨"c  d", .default, true⟩ ∧ Phrase.Shape ⟨"a:b", .exclude, false⟩ := by
  have hn : (parse ⟨false⟩ "x (\" c  d\t\" or -a:b").node? 1
      = some ⟨.default, some 0, [⟨"c  d", .default, true⟩, ⟨"a:b", .exclude, false⟩], []⟩ := by
    decide
  obtain ⟨hshape, _⟩ := stored_phrases_shape ⟨false⟩ "x (\" c  d\t\" or -a:b" 1 _ hn
  exact ⟨hn, hshape _ (by simp), hshape _ (by simp)⟩

/--
**What is collected from a group is what a scan of the numbers inside it finds**, from the
first to the last: the words of the phrases to find, and the words of the excluded ones. The
numbers inside are those from which the walk up comes past the group. Each phrase gives its
words to one of the two collections and to one only, and there is something to find in the
group exactly when words to find are collected.
-/
theorem collect_eq_scan (o : Options) (query : String) (i : NodeId)
    (hi : i < (parse o query).size) :
    ((parse o query).preorder i).Pairwise (· < ·)
      ∧ (∀ n, n ∈ (parse o query).preorder i ↔ (parse o query).Inside i n)
      ∧ ((parse o query).expression i).words
        = ((parse o query).preorder i).flatMap ((parse o query).wordsAt (·.mode ≠ .exclude))
      ∧ ((parse o query).expression i).excludedWords
        = ((parse o query).preorder i).flatMap ((parse o query).wordsAt (·.mode = .exclude))
      ∧ (((parse o query).expression i).words ++ ((parse o query).expression i).excludedWords).Perm
        (((parse o query).preorder i).flatMap fun n =>
          ((parse o query).phrasesAt n).flatMap Phrase.words)
      ∧ (((parse o query).expression i).isValid = true
        ↔ ((parse o query).expression i).words ≠ []) := by
  have hstores := stores_parse o query
  have hphrases := hstores.allPhrases_expression hi
  have hwords : ∀ p ∈ ((parse o query).expression i).allPhrases, p.words ≠ [] := by
    intro p hp
    exact (Phrase.isTerm_of_mem (mem_phrases_of_mem_expression hi hp)).words_ne_nil
  have hfind : (fun p : Phrase => decide (p.isIncluded = true))
      = fun p => decide (p.mode ≠ .exclude) := by
    funext p
    simp [Phrase.isIncluded]
  have hleave : (fun p : Phrase => decide (p.isIncluded = false))
      = fun p => decide (p.mode = .exclude) := by
    funext p
    simp [Phrase.isIncluded]
  have hperm := Expression.collect_perm ((parse o query).expression i)
  rw [hphrases, List.flatMap_assoc] at hperm
  refine ⟨?_, fun n => hstores.mem_preorder_iff hi, ?_, ?_, hperm,
    Expression.isValid_iff_words_ne_nil hwords⟩
  · -- the groups inside are an interval of numbers, so the order of the tree is that of numbers
    obtain ⟨k, hk⟩ := hstores.wellFormed.interval i hi
    rw [hk]
    exact List.pairwise_lt_range'
  · rw [Expression.words, hstores.collect_expression hi, hfind]
  · rw [Expression.excludedWords, hstores.collect_expression hi, hleave]

/-- The first of two groups, with another group inside it and with excluded words in both. -/
theorem collect_eq_scan_group :
    1 < (parse ⟨false⟩ "a (b -c (\"d e\" -f) g) (h)").size
      ∧ ((parse ⟨false⟩ "a (b -c (\"d e\" -f) g) (h)").expression 1).words = ["b", "g", "d", "e"]
      ∧ ((parse ⟨false⟩ "a (b -c (\"d e\" -f) g) (h)").expression 1).excludedWords
        = ["c", "f"] := by
  have hi : 1 < (parse ⟨false⟩ "a (b -c (\"d e\" -f) g) (h)").size := by decide
  obtain ⟨_, _, hwords, hexcluded, _⟩ :=
    collect_eq_scan ⟨false⟩ "a (b -c (\"d e\" -f) g) (h)" 1 hi
  exact ⟨hi, hwords.trans (by decide), hexcluded.trans (by decide)⟩

end SearchQuery
