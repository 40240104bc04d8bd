import SearchQuery.Proofs.Reading.Content
import SearchQuery.Proofs.Token.Level

/-!
# The reading of a query is the recursion over its tokens

`Reads.run` follows a draft through the tokens of one group, by induction over the rules
of the recursion. A group inside is the case that matters: the draft opens it on top of
the one around it, the induction takes the draft to its end, and there, be it a `)` or
the end of the query, the group becomes the next child of the one around it.

What is left is to see that the recursion, started on a whole query, does not stop at a
`)` before the end. `Reads.level?` says that the tokens of a group close as many groups
as they open, so such a `)` would have no group open; and the levels of a repaired query
leave no room for it.
-/

namespace SearchQuery

variable {c : Combinator} {sign : Option Sign} {tokens : List Token} {k : Content}

/-! ## The draft follows the recursion -/

/-- A group that is still open, with the content that came after what it held. -/
def Frame.take (f : Frame) (k : Content) (c : Combinator) : Frame :=
  ⟨f.mode, f.phrases ++ k.phrases, f.children ++ k.children, c⟩

/-- The content with more phrases. -/
def Frame.addPhrases (f : Frame) (phrases : List Phrase) : Frame :=
  { f with phrases := f.phrases ++ phrases }

variable {f : Frame} {outer : List Frame}

theorem Frame.take_stop (f : Frame) (sign : Option Sign) (rest : List Token) :
    f.take (.stop sign rest) f.combinator = f := by
  simp [Frame.take, Content.stop]

theorem Frame.take_prepend (f : Frame) (phrases : List Phrase) (k : Content) (c : Combinator) :
    f.take (k.prepend phrases) c = (f.addPhrases phrases).take k c := by
  simp [Frame.take, Content.prepend, Frame.addPhrases]

theorem Frame.take_prependChild (f : Frame) (e : Expression) (k : Content) (c : Combinator) :
    f.take (k.prependChild e) c = (f.addChild e).take k c := by
  simp [Frame.take, Content.prependChild, Frame.addChild]

theorem Frame.expression_take_new (mode : Mode) (k : Content) (c : Combinator) :
    ((Frame.new mode).take k c).expression = k.expression mode := by
  simp [Frame.take, Frame.new, Frame.expression, Content.expression]

theorem Frame.addPhrase_eq (f : Frame) (text : String) (mode : Mode) :
    f.addPhrase text mode = f.addPhrases (quotedPhrases text mode) := by
  unfold Frame.addPhrase Frame.addPhrases quotedPhrases
  dsimp only
  split
  · rw [List.append_nil]
  · rfl

/-- Trimming leaves a word alone. -/
theorem trim_of_no_space {text : List Char} (h : ∀ c ∈ text, Text.isSpace c = false) :
    Text.trim text = text := by
  have hdrop : ∀ l : List Char, (∀ c ∈ l, Text.isSpace c = false) → l.dropWhile Text.isSpace = l := by
    intro l hl
    cases l with
    | nil => rfl
    | cons c l => rw [List.dropWhile_cons, hl c List.mem_cons_self]; rfl
  rw [Text.trim, hdrop text h, hdrop text.reverse fun c hc => h c (List.mem_reverse.mp hc),
    List.reverse_reverse]

/-- A word is one phrase, with the text that it has. -/
theorem quotedPhrases_word {t : Token} (h : t.IsSolid) (mode : Mode) :
    quotedPhrases t.text mode = [⟨t.text, mode, false⟩] := by
  obtain ⟨hne, hspace⟩ := h
  have hany : t.text.toList.any Text.isSpace = false := by simpa using hspace
  have hphrase : Phrase.ofText t.text mode = ⟨t.text, mode, false⟩ := by
    rw [Phrase.ofText, trim_of_no_space hspace, hany, String.ofList_toList]
  unfold quotedPhrases
  rw [hphrase]
  exact if_neg hne

/-- Between quotes, tokens that are no quotes add their texts. -/
theorem Draft.run_body {body : List Token} (h : ∀ b ∈ body, b.kind ≠ .quote) (text : String) :
    (⟨f, outer, .inside text, sign⟩ : Draft).run body
      = ⟨f, outer, .inside (text ++ textOf body), sign⟩ := by
  induction body generalizing text with
  | nil => rw [textOf, List.map_nil, String.join_nil, String.append_empty]; rfl
  | cons b body ih =>
    have hb : b.kind ≠ .quote := h b List.mem_cons_self
    have hstep : (⟨f, outer, .inside text, sign⟩ : Draft).step b
        = ⟨f, outer, .inside (text ++ b.text), sign⟩ := if_neg hb
    rw [Draft.run_cons, hstep, ih fun u hu => h u (List.mem_cons_of_mem b hu), textOf, textOf,
      List.map_cons, String.join_cons, String.append_assoc]

/-- From one quote to the next, tokens make one phrase. -/
theorem Draft.run_quoted {t q : Token} {body : List Token} (ht : t.kind = .quote)
    (h : ∀ b ∈ body, b.kind ≠ .quote) (hq : q.kind = .quote) (rest : List Token) :
    (⟨f, outer, .outside, sign⟩ : Draft).run (t :: (body ++ q :: rest))
      = (⟨f.addPhrases (quotedPhrases (textOf body) f.combinator.mode), outer, .outside,
          sign⟩ : Draft).run rest := by
  have hopen : (⟨f, outer, .outside, sign⟩ : Draft).step t = ⟨f, outer, .inside "", sign⟩ := by
    rw [Draft.step, Draft.stepOutside, ht]
  have hclose : (⟨f, outer, .inside (textOf body), sign⟩ : Draft).step q
      = ⟨f.addPhrase (textOf body) f.combinator.mode, outer, .outside, sign⟩ := by
    show Draft.stepInside _ _ q = _
    rw [Draft.stepInside, if_pos hq, Draft.addPhrase]
  rw [Draft.run_cons, hopen, Draft.run_append, Draft.run_body h, String.empty_append,
    Draft.run_cons, hclose, Frame.addPhrase_eq]

/-- Where a group ends, it becomes a child of the one around it, at a `)` or at the end of the query. -/
theorem Draft.run_end {g : Frame} {rest : List Token}
    (h : rest = [] ∨ ∃ t after, rest = t :: after ∧ t.kind = .parenClose) :
    ((⟨g, f :: outer, .outside, sign⟩ : Draft).run rest).expression
      = ((⟨f.addChild g.expression, outer, .outside, sign⟩ : Draft).run rest.tail).expression := by
  rcases h with rfl | ⟨t, after, rfl, ht⟩
  · rfl
  · have hclose : (⟨g, f :: outer, .outside, sign⟩ : Draft).step t
        = ⟨f.addChild g.expression, outer, .outside, sign⟩ := by
      rw [Draft.step, Draft.stepOutside, ht]
      rfl
    rw [Draft.run_cons, hclose]
    rfl

/--
**The draft writes what the recursion reads.** From the tokens of a group it goes, as far
as the expression in the end is concerned, to the `)` that ends the group or to the end of
the query, with the content of the group in the open group.
-/
theorem Reads.run (h : Reads c sign tokens k) (f : Frame) (outer : List Frame)
    (hc : f.combinator = c) :
    ∃ c', ((⟨f, outer, .outside, sign⟩ : Draft).run tokens).expression
      = ((⟨f.take k c', outer, .outside, k.sign⟩ : Draft).run k.rest).expression := by
  induction h generalizing f outer with
  | nil => exact ⟨f.combinator, by rw [Frame.take_stop]; rfl⟩
  | @skip c sign t rest k hk _ ih =>
    have hstep : (⟨f, outer, .outside, sign⟩ : Draft).step t = ⟨f, outer, .outside, sign⟩ := by
      rw [Draft.step, Draft.stepOutside]
      rcases hk with hk | hk <;> rw [hk]
    rw [Draft.run_cons, hstep]
    exact ih f outer hc
  | @word c sign t rest k hk hsolid _ ih =>
    subst hc
    have hstep : (⟨f, outer, .outside, sign⟩ : Draft).step t
        = ⟨f.addPhrase t.text (Draft.wordMode sign f.combinator), outer, .outside, none⟩ := by
      rw [Draft.step, Draft.stepOutside, hk]
      show Draft.addWord _ t.text = _
      rw [Draft.addWord, Draft.addPhrase]
    rw [Draft.run_cons, hstep, Frame.addPhrase_eq, quotedPhrases_word hsolid]
    -- the word has used up the sign, so the rest is read without one
    obtain ⟨c', hrun⟩ := ih (f.addPhrases [⟨t.text, Draft.wordMode sign f.combinator, false⟩]) outer rfl
    rw [← Frame.take_prepend] at hrun
    exact ⟨c', by rw [Content.sign_prepend, Content.rest_prepend]; exact hrun⟩
  | @quoted c sign t q body rest k ht hbody hq _ ih =>
    subst hc
    rw [Draft.run_quoted ht hbody hq]
    obtain ⟨c', hrun⟩ := ih (f.addPhrases (quotedPhrases (textOf body) f.combinator.mode)) outer rfl
    rw [← Frame.take_prepend] at hrun
    exact ⟨c', by rw [Content.sign_prepend, Content.rest_prepend]; exact hrun⟩
  -- a quote that is never closed takes the rest of the query, and no phrase is made of it
  | @unquoted c sign t body ht hbody =>
    have hopen : (⟨f, outer, .outside, sign⟩ : Draft).step t = ⟨f, outer, .inside "", sign⟩ := by
      rw [Draft.step, Draft.stepOutside, ht]
    refine ⟨f.combinator, ?_⟩
    rw [Draft.run_cons, hopen, Draft.run_body hbody, Frame.take_stop]
    rfl
  | @or c sign t rest k hk _ ih =>
    have hstep : (⟨f, outer, .outside, sign⟩ : Draft).step t
        = ⟨{ f with combinator := .or }, outer, .outside, sign⟩ := by
      rw [Draft.step, Draft.stepOutside, hk]
      rfl
    rw [Draft.run_cons, hstep]
    exact ih { f with combinator := .or } outer rfl
  | @and c sign t rest k hk _ ih =>
    have hstep : (⟨f, outer, .outside, sign⟩ : Draft).step t
        = ⟨{ f with combinator := .and }, outer, .outside, sign⟩ := by
      rw [Draft.step, Draft.stepOutside, hk]
      rfl
    rw [Draft.run_cons, hstep]
    exact ih { f with combinator := .and } outer rfl
  | @plus c sign t rest k hk _ ih =>
    have hstep : (⟨f, outer, .outside, sign⟩ : Draft).step t
        = ⟨f, outer, .outside, some .plus⟩ := by
      rw [Draft.step, Draft.stepOutside, hk]
    rw [Draft.run_cons, hstep]
    exact ih f outer hc
  | @minus c sign t rest k hk _ ih =>
    have hstep : (⟨f, outer, .outside, sign⟩ : Draft).step t
        = ⟨f, outer, .outside, some .minus⟩ := by
      rw [Draft.step, Draft.stepOutside, hk]
    rw [Draft.run_cons, hstep]
    exact ih f outer hc
  | @group c sign t rest inner k hk hinner hafter ihInner ih =>
    subst hc
    have hstep : (⟨f, outer, .outside, sign⟩ : Draft).step t
        = ⟨.new f.combinator.mode, f :: outer, .outside, sign⟩ := by
      rw [Draft.step, Draft.stepOutside, hk]
      rfl
    -- to the end of the group inside, out of it, and to the end of this one
    obtain ⟨c', hrun⟩ := ihInner (.new f.combinator.mode) (f :: outer) rfl
    obtain ⟨c'', hrest⟩ := ih (f.addChild (inner.expression f.combinator.mode)) outer rfl
    rw [← Frame.take_prependChild] at hrest
    refine ⟨c'', ?_⟩
    rw [Content.sign_prependChild, Content.rest_prependChild, ← hrest, Draft.run_cons, hstep, hrun,
      Draft.run_end hinner.rest_cases, Frame.expression_take_new]
  | @close c sign t rest hk =>
    exact ⟨f.combinator, by rw [Frame.take_stop]; rfl⟩

/-! ## The whole query is read to its end -/

/-- Between quotes, tokens that are no quotes leave the level alone. -/
theorem Mark.level?_inside {body : List Token} (h : ∀ b ∈ body, b.kind ≠ .quote) (n : Nat)
    (marks : List Mark) : level? true n (inTokens body ++ marks) = level? true n marks := by
  induction body with
  | nil => rfl
  | cons b body ih =>
    -- a parenthesis between quotes is text, so no token of the body has a mark that counts
    have hb := h b List.mem_cons_self
    rw [inTokens_cons, List.append_assoc]
    have hskip : level? true n ((ofKind? b.kind).toList ++ (inTokens body ++ marks))
        = level? true n (inTokens body ++ marks) := by
      cases hk : b.kind with
      | quote => exact absurd hk hb
      | _ => rfl
    rw [hskip]
    exact ih fun u hu => h u (List.mem_cons_of_mem b hu)

/-- Outside quotes, the tokens of a group that ends at a `)` close as many groups as they open. -/
theorem Reads.level? (h : Reads c sign tokens k) (hne : k.rest ≠ []) (n : Nat) :
    Mark.level? false n (Mark.inTokens tokens) = Mark.level? false n (Mark.inTokens k.rest) := by
  induction h generalizing n with
  | nil => exact absurd rfl hne
  | skip hk _ ih =>
    rw [Mark.inTokens_cons, ← ih hne n]
    rcases hk with hk | hk <;> rw [hk] <;> rfl
  | word hk _ _ ih =>
    rw [Content.rest_prepend] at hne ⊢
    rw [Mark.inTokens_cons, hk]
    exact ih hne n
  | quoted ht hbody hq _ ih =>
    rw [Content.rest_prepend] at hne ⊢
    rw [Mark.inTokens_cons, ht, Mark.inTokens_append, Mark.inTokens_cons, hq]
    exact (Mark.level?_inside hbody n _).trans (ih hne n)
  | unquoted => exact absurd rfl hne
  | or hk _ ih => rw [Mark.inTokens_cons, hk]; exact ih hne n
  | and hk _ ih => rw [Mark.inTokens_cons, hk]; exact ih hne n
  | plus hk _ ih => rw [Mark.inTokens_cons, hk]; exact ih hne n
  | minus hk _ ih => rw [Mark.inTokens_cons, hk]; exact ih hne n
  | @group c sign t rest inner k hk hinner hafter ihInner ih =>
    rw [Content.rest_prependChild] at hne ⊢
    rcases hinner.rest_cases with hnil | ⟨u, after, hcons, hu⟩
    · -- nothing is left after a group that ends with the query
      rw [hnil] at hafter
      cases hafter with
      | nil => exact absurd rfl hne
    · -- one level up at the `(`, and down again at the `)` where the group inside stops
      have hi := ihInner (by rw [hcons]; exact List.cons_ne_nil u after) (n + 1)
      have hj := ih hne n
      rw [hcons] at hi hj
      rw [Mark.inTokens_cons, hu] at hi
      rw [Mark.inTokens_cons, hk]
      exact hi.trans hj
  | close => rfl

/-- A unit that is a word has some text and no white space in it. -/
theorem Token.isSolid_of_isUnit {unit : List Char} (h : IsUnit unit)
    (hk : Kind.ofUnit unit = .word) : (ofUnit unit).IsSolid := by
  obtain ⟨hne, hrun⟩ := run_of_ofUnit_word h hk
  have hlist : (ofUnit unit).text.toList = unit := String.toList_ofList
  refine ⟨fun hempty => hne ?_, fun c hc => ?_⟩
  · rw [← hlist, hempty]
    rfl
  · have hb := hrun c (hlist ▸ hc)
    exact Bool.eq_false_iff.mpr fun hs => by
      rw [isBoundary_iff.mpr (.inl hs)] at hb
      exact Bool.noConfusion hb

/-- The words among the tokens of a query have some text and no white space in it. -/
theorem Token.isSolid_of_mem_tokenize {o : Options} {query : String} {t : Token}
    (h : t ∈ tokenize o query) (hk : t.kind = .word) : t.IsSolid := by
  obtain ⟨unit, hunit, rfl⟩ := mem_tokenize h
  exact isSolid_of_isUnit hunit hk

theorem reads_tokenize (o : Options) (query : String) :
    Reads .none none (tokenize o query) (content .none none (tokenize o query)) :=
  reads_content fun _ ht hk => Token.isSolid_of_mem_tokenize ht hk

/-- No token of a query is left over: it has no `)` outside quotes with nothing to close. -/
theorem rest_content_tokenize (o : Options) (query : String) :
    (content .none none (tokenize o query)).rest = [] := by
  have hreads := reads_tokenize o query
  rcases hreads.rest_cases with hnil | ⟨t, after, hcons, ht⟩
  · exact hnil
  · -- what is left would be a `)` at level zero, and a repaired query has no such place
    have hlevel := hreads.level? (by rw [hcons]; exact List.cons_ne_nil t after) 0
    rw [Mark.level?_tokenize, hcons, Mark.inTokens_cons, ht] at hlevel
    cases hlevel

/--
**The tokens of a query add its content to the group that is open**, whatever that holds, as
long as no keyword is in force in it and no sign waits.
-/
theorem Draft.run_tokenize (o : Options) (query : String) (hf : f.combinator = .none) :
    ((⟨f, [], .outside, none⟩ : Draft).run (tokenize o query)).expression
      = .group f.mode (f.phrases ++ (content .none none (tokenize o query)).phrases)
          (f.children ++ (content .none none (tokenize o query)).children) := by
  obtain ⟨c, hrun⟩ := (reads_tokenize o query).run f [] hf
  rw [rest_content_tokenize] at hrun
  exact hrun

/-! ## At the top -/

/--
**The tree of a query is the content of its tokens**, read by recursion: the whole query
holds the phrases and the groups of the content, and no token is left over. The expression
of a tree is its nodes unfolded, each with its own mode and phrases and over its children.
-/
theorem parse_eq_content (o : Options) (query : String) :
    (parse o query).rootExpression = (content .none none (tokenize o query)).expression .default
      ∧ (content .none none (tokenize o query)).rest = []
      ∧ ∀ i node, (parse o query).node? i = some node → (parse o query).expression i
        = .group node.mode node.phrases (node.children.map (parse o query).expression) := by
  have hstores := stores_run query (tokenize o query)
  refine ⟨?_, rest_content_tokenize o query, fun i node hn => hstores.expression_eq hn⟩
  calc (parse o query).rootExpression
    _ = (Draft.start.run (tokenize o query)).expression := rootExpression_parse o query
    _ = (content .none none (tokenize o query)).expression .default :=
      Draft.run_tokenize o query rfl

end SearchQuery
