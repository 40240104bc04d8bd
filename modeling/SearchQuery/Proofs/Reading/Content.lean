import SearchQuery.Proofs.Reading.Draft

/-!
# What a group holds, read by recursion

The reader goes through the tokens once and keeps its place in a tree. What it finds
can be said without a place: the content of a group is read token by token, and a
parenthesis starts the content of a group inside, which is read the same way before
the rest of this one. `Content.read` is that recursion, and `content` what it yields.

Two things are not in the shape of the tokens. A combinator holds for the rest of its
own group only, so it is handed down and dropped at the end of the group. A sign waits
for the next word of the whole query, so a content takes one and leaves one.

The recursion has to carry that it leaves fewer tokens than it was given. `Reads` says
the same without that, one rule for each way in which the tokens may go on, and
inductions go over its rules: `reads_content` ties the two.
-/

namespace SearchQuery

/-- What is read of a group, from some token on to its end. -/
structure Content where
  phrases : List Phrase
  children : List Expression
  /-- The sign that waits when the group ends. -/
  sign : Option Sign
  /-- The tokens left: the `)` that ends the group and what follows it, or none. -/
  rest : List Token

namespace Content

/-- Nothing, where the group ends. -/
def stop (sign : Option Sign) (rest : List Token) : Content := ⟨[], [], sign, rest⟩

/-- The content with phrases in front. -/
def prepend (phrases : List Phrase) (k : Content) : Content :=
  { k with phrases := phrases ++ k.phrases }

/-- The content with a group in front. -/
def prependChild (e : Expression) (k : Content) : Content :=
  { k with children := e :: k.children }

/-- The group that holds the content. -/
def expression (mode : Mode) (k : Content) : Expression :=
  .group mode k.phrases k.children

theorem sign_prepend (phrases : List Phrase) (k : Content) : (k.prepend phrases).sign = k.sign := rfl

theorem rest_prepend (phrases : List Phrase) (k : Content) : (k.prepend phrases).rest = k.rest := rfl

theorem sign_prependChild (e : Expression) (k : Content) : (k.prependChild e).sign = k.sign := rfl

theorem rest_prependChild (e : Expression) (k : Content) : (k.prependChild e).rest = k.rest := rfl

theorem suffix_prepend {k : Content} {phrases : List Phrase} {tokens : List Token}
    (h : k.rest <:+ tokens) : (k.prepend phrases).rest <:+ tokens := h

theorem suffix_prependChild {k : Content} {e : Expression} {tokens : List Token}
    (h : k.rest <:+ tokens) : (k.prependChild e).rest <:+ tokens := h

end Content

/-- The phrase of a quoted text, trimmed; none if the text is blank. -/
def quotedPhrases (text : String) (mode : Mode) : List Phrase :=
  let phrase := Phrase.ofText text mode
  if phrase.text = "" then [] else [phrase]

/-- The tokens before the next quote. -/
def beforeQuote (tokens : List Token) : List Token := tokens.takeWhile (·.kind ≠ .quote)

/-- The tokens from the next quote on. -/
def fromQuote (tokens : List Token) : List Token := tokens.dropWhile (·.kind ≠ .quote)

/-- The text that tokens make up. -/
def textOf (tokens : List Token) : String := String.join (tokens.map Token.text)

/--
Reads the content of a group from some token of it on, under the combinator in force
there and with the sign that waits. What it leaves is the end of the tokens it is given.
-/
def Content.read (c : Combinator) (sign : Option Sign) (tokens : List Token) :
    { k : Content // k.rest <:+ tokens } :=
  match tokens with
  | [] => ⟨stop sign [], List.suffix_rfl⟩
  | token :: rest =>
    have up {left : List Token} (h : left <:+ rest) : left <:+ token :: rest :=
      h.trans (List.suffix_cons token rest)
    match token.kind with
    | .space | .colon =>
      let k := read c sign rest
      ⟨k.1, up k.2⟩
    | .word =>
      let k := read c none rest
      ⟨k.1.prepend [⟨token.text, Draft.wordMode sign c, false⟩], suffix_prepend (up k.2)⟩
    | .quote =>
      match h : fromQuote rest with
      -- the text after a quote that is never closed is dropped
      | [] => ⟨stop sign [], List.nil_suffix⟩
      | quote :: after =>
        have hafter : after <:+ rest :=
          (List.suffix_cons quote after).trans (h ▸ List.dropWhile_suffix _)
        let k := read c sign after
        ⟨k.1.prepend (quotedPhrases (textOf (beforeQuote rest)) c.mode),
          suffix_prepend (up (k.2.trans hafter))⟩
    | .or =>
      let k := read .or sign rest
      ⟨k.1, up k.2⟩
    | .and =>
      let k := read .and sign rest
      ⟨k.1, up k.2⟩
    | .plus =>
      let k := read c (some .plus) rest
      ⟨k.1, up k.2⟩
    | .minus =>
      let k := read c (some .minus) rest
      ⟨k.1, up k.2⟩
    | .parenOpen =>
      -- the group inside has a combinator of its own, but the sign goes through it
      let inner := read .none sign rest
      have htail : inner.1.rest.tail <:+ rest := (List.tail_suffix _).trans inner.2
      let k := read c inner.1.sign inner.1.rest.tail
      ⟨k.1.prependChild (inner.1.expression c.mode),
        suffix_prependChild (up (k.2.trans htail))⟩
    | .parenClose => ⟨stop sign (token :: rest), List.suffix_rfl⟩
termination_by tokens.length
decreasing_by
  all_goals first
    | exact Nat.lt_succ_self _
    | exact Nat.lt_succ_of_le (List.IsSuffix.length_le ‹_›)

/-- The content of a group. -/
def content (c : Combinator) (sign : Option Sign) (tokens : List Token) : Content :=
  (Content.read c sign tokens).1

/-- A word as the tokens of a query have it: some text, and no white space in it. -/
def Token.IsSolid (t : Token) : Prop :=
  t.text ≠ "" ∧ ∀ c ∈ t.text.toList, Text.isSpace c = false

/-! ## The recursion as a grammar -/

/-- The content `k` is read from the tokens: one rule for each way in which they may go on. -/
inductive Reads : Combinator → Option Sign → List Token → Content → Prop where
  | nil {c : Combinator} {sign : Option Sign} : Reads c sign [] (.stop sign [])
  | skip {c : Combinator} {sign : Option Sign} {t : Token} {rest : List Token} {k : Content} :
      t.kind = .space ∨ t.kind = .colon → Reads c sign rest k → Reads c sign (t :: rest) k
  | word {c : Combinator} {sign : Option Sign} {t : Token} {rest : List Token} {k : Content} :
      t.kind = .word → t.IsSolid → Reads c none rest k →
      Reads c sign (t :: rest) (k.prepend [⟨t.text, Draft.wordMode sign c, false⟩])
  | quoted {c : Combinator} {sign : Option Sign} {t q : Token} {body rest : List Token}
      {k : Content} :
      t.kind = .quote → (∀ b ∈ body, b.kind ≠ .quote) → q.kind = .quote → Reads c sign rest k →
      Reads c sign (t :: (body ++ q :: rest)) (k.prepend (quotedPhrases (textOf body) c.mode))
  | unquoted {c : Combinator} {sign : Option Sign} {t : Token} {body : List Token} :
      t.kind = .quote → (∀ b ∈ body, b.kind ≠ .quote) →
      Reads c sign (t :: body) (.stop sign [])
  | or {c : Combinator} {sign : Option Sign} {t : Token} {rest : List Token} {k : Content} :
      t.kind = .or → Reads .or sign rest k → Reads c sign (t :: rest) k
  | and {c : Combinator} {sign : Option Sign} {t : Token} {rest : List Token} {k : Content} :
      t.kind = .and → Reads .and sign rest k → Reads c sign (t :: rest) k
  | plus {c : Combinator} {sign : Option Sign} {t : Token} {rest : List Token} {k : Content} :
      t.kind = .plus → Reads c (some .plus) rest k → Reads c sign (t :: rest) k
  | minus {c : Combinator} {sign : Option Sign} {t : Token} {rest : List Token} {k : Content} :
      t.kind = .minus → Reads c (some .minus) rest k → Reads c sign (t :: rest) k
  | group {c : Combinator} {sign : Option Sign} {t : Token} {rest : List Token}
      {inner k : Content} :
      t.kind = .parenOpen → Reads .none sign rest inner → Reads c inner.sign inner.rest.tail k →
      Reads c sign (t :: rest) (k.prependChild (inner.expression c.mode))
  | close {c : Combinator} {sign : Option Sign} {t : Token} {rest : List Token} :
      t.kind = .parenClose → Reads c sign (t :: rest) (.stop sign (t :: rest))

variable {c : Combinator} {sign : Option Sign} {tokens : List Token} {k : Content}

theorem beforeQuote_append_fromQuote (tokens : List Token) :
    beforeQuote tokens ++ fromQuote tokens = tokens :=
  List.takeWhile_append_dropWhile

theorem kind_of_mem_beforeQuote (tokens : List Token) :
    ∀ b ∈ beforeQuote tokens, b.kind ≠ .quote := by
  intro b h
  have hall := List.all_takeWhile (p := fun t : Token => decide (t.kind ≠ .quote)) (l := tokens)
  simpa using List.all_eq_true.mp hall b h

theorem kind_of_fromQuote {q : Token} {rest : List Token} (h : fromQuote tokens = q :: rest) :
    q.kind = .quote := by
  have hhead := List.head?_dropWhile_not (fun t : Token => decide (t.kind ≠ .quote)) tokens
  rw [show tokens.dropWhile _ = q :: rest from h] at hhead
  simpa using hhead

/-- **The recursion follows the rules**, on tokens whose words are solid. -/
theorem reads_content (h : ∀ t ∈ tokens, t.kind = .word → t.IsSolid) :
    Reads c sign tokens (content c sign tokens) := by
  unfold content
  fun_induction Content.read c sign tokens with
  | case1 c sign => exact .nil
  | case2 c sign t rest _ hk k ih => exact .skip (.inl hk) (ih fun u hu => h u (.tail t hu))
  | case3 c sign t rest _ hk k ih => exact .skip (.inr hk) (ih fun u hu => h u (.tail t hu))
  | case4 c sign t rest _ hk k ih =>
    exact .word hk (h t (.head rest) hk) (ih fun u hu => h u (.tail t hu))
  | case5 c sign t rest _ hk hfrom =>
    -- no quote follows, so all that is left stands before the next one
    have hsplit := beforeQuote_append_fromQuote rest
    rw [hfrom, List.append_nil] at hsplit
    exact .unquoted hk (hsplit ▸ kind_of_mem_beforeQuote rest)
  | case6 c sign t rest _ hk q after hfrom hafter k ih =>
    have hsplit := beforeQuote_append_fromQuote rest
    rw [hfrom] at hsplit
    -- a quote follows: the text goes up to it, and the rest is read behind it
    have hreads := Reads.quoted hk (kind_of_mem_beforeQuote rest) (kind_of_fromQuote hfrom)
      (ih fun u hu => h u (.tail t (hafter.mem hu)))
    rwa [hsplit] at hreads
  | case7 c sign t rest _ hk k ih => exact .or hk (ih fun u hu => h u (.tail t hu))
  | case8 c sign t rest _ hk k ih => exact .and hk (ih fun u hu => h u (.tail t hu))
  | case9 c sign t rest _ hk k ih => exact .plus hk (ih fun u hu => h u (.tail t hu))
  | case10 c sign t rest _ hk k ih => exact .minus hk (ih fun u hu => h u (.tail t hu))
  | case11 c sign t rest _ hk inner htail k ihInner ih =>
    exact .group hk (ihInner fun u hu => h u (.tail t hu))
      (ih fun u hu => h u (.tail t (htail.mem hu)))
  | case12 c sign t rest _ hk => exact .close hk

/-- The content ends with the tokens or at a `)`. -/
theorem Reads.rest_cases (h : Reads c sign tokens k) :
    k.rest = [] ∨ ∃ t rest, k.rest = t :: rest ∧ t.kind = .parenClose := by
  induction h with
  | nil => exact .inl rfl
  | skip _ _ ih => exact ih
  | word _ _ _ ih => rw [Content.rest_prepend]; exact ih
  | quoted _ _ _ _ ih => rw [Content.rest_prepend]; exact ih
  | unquoted => exact .inl rfl
  | or _ _ ih => exact ih
  | and _ _ ih => exact ih
  | plus _ _ ih => exact ih
  | minus _ _ ih => exact ih
  | group _ _ _ _ ih => rw [Content.rest_prependChild]; exact ih
  | @close _ _ t rest hk => exact .inr ⟨t, rest, rfl, hk⟩

end SearchQuery
