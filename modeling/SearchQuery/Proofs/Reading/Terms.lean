import Mathlib.Data.List.Basic
import SearchQuery.Proofs.Reading.Agreement

/-!
# No term is lost, and none is made up

What a reading leaves in its tree is spread over many groups, in an order that is not that
of the query. As a bag it is simple: the words outside quotes, and one term for each pair
of quotes. `outside` and `quotations` read both off the tokens, without a reader.

The proof has two halves. On the side of the reader, `Quoting.yield` says which texts one
token adds, and this depends on the state of the quotes alone: `Reader.texts_step` is one
token, `Reader.texts_run` a list of them. Where in the tree a text goes does not matter,
since `Tree.phrases` is the bag of all groups. On the side of the tokens, `yields_perm`
sorts what they yield into words and quotations.

Groups are counted in the same way, one for each `(` outside quotes.
-/

namespace SearchQuery

variable {r : Reader} {d : Draft} {token : Token} {tokens rest : List Token}

/-! ## Words and quotations, read off the tokens -/

/-- The text without the white space at its two ends. -/
def trimmed (text : String) : String := String.ofList (Text.trim text.toList)

/-- The tokens before which an even number of quotes stands, when `quotes` stand before them all. -/
def outside (quotes : Nat) : List Token → List Token
  | [] => []
  | token :: rest =>
    let after := outside (if token.kind = .quote then quotes + 1 else quotes) rest
    if quotes % 2 = 0 then token :: after else after

/-- Quotes cut the tokens into stretches, which are outside and inside by turns. -/
def stretches (tokens : List Token) : List (List Token) :=
  tokens.splitOnP (·.kind = .quote)

/-- The stretches inside that a quote closes, so that another stretch follows. -/
def enclosed : List (List Token) → List (List Token)
  | _ :: inside :: outside :: more => inside :: enclosed (outside :: more)
  | _ => []

/-- What stands between each opening quote and its closing one. -/
def quotations (tokens : List Token) : List (List Token) := enclosed (stretches tokens)

/-- The texts of the words among some tokens. -/
def wordTexts (tokens : List Token) : List String :=
  (tokens.filter (·.kind = .word)).map Token.text

/-- The terms that quoted texts make: trimmed, and none of a text that is blank. -/
def quotedTerms (texts : List String) : List String :=
  (texts.map trimmed).filter (· ≠ "")

theorem quotedTerms_cons (text : String) (texts : List String) :
    quotedTerms (text :: texts) = quotedTerms [text] ++ quotedTerms texts := by
  rw [quotedTerms, quotedTerms, quotedTerms, ← List.filter_append]
  rfl

theorem map_text_quotedPhrases (text : String) (mode : Mode) :
    (quotedPhrases text mode).map Phrase.text = quotedTerms [text] := by
  have hphrase : (Phrase.ofText text mode).text = trimmed text := rfl
  unfold quotedPhrases quotedTerms
  dsimp only
  rw [hphrase, List.map_cons, List.map_nil]
  by_cases h : trimmed text = ""
  · rw [if_pos h, h]; rfl
  · rw [if_neg h, List.filter_cons_of_pos (by simpa using h)]; exact congrArg ([·]) hphrase

/-- A word is a term as it stands. -/
theorem quotedTerms_word (h : token.IsSolid) : quotedTerms [token.text] = [token.text] := by
  rw [← map_text_quotedPhrases token.text .default, quotedPhrases_word h]
  rfl

theorem stretches_quote (h : token.kind = .quote) :
    stretches (token :: rest) = [] :: stretches rest := by
  rw [stretches, List.splitOnP_cons_eq_if_modifyHead, if_pos (decide_eq_true h)]
  rfl

theorem stretches_other (h : token.kind ≠ .quote) :
    stretches (token :: rest) = (stretches rest).modifyHead (token :: ·) := by
  rw [stretches, List.splitOnP_cons_eq_if_modifyHead, if_neg (by simpa using h)]
  rfl

/-- There is always a first stretch, which may be empty. -/
theorem stretches_eq_cons (tokens : List Token) : ∃ first more, stretches tokens = first :: more :=
  List.exists_cons_of_ne_nil (List.splitOnP_ne_nil _ tokens)

theorem enclosed_modifyHead (f : List Token → List Token) (l : List (List Token)) :
    enclosed (l.modifyHead f) = enclosed l := by
  cases l with
  | nil => rfl
  | cons first more =>
    cases more with
    | nil => rfl
    | cons second more =>
      cases more <;> rfl

/-! ## What one token adds -/

namespace Quoting

/-- The state of the quotes after a token. -/
def next : Quoting → Token → Quoting
  | .outside, token => if token.kind = .quote then .inside "" else .outside
  | .inside text, token => if token.kind = .quote then .outside else .inside (text ++ token.text)

/-- The texts of the phrases that a token adds. -/
def yield : Quoting → Token → List String
  | .outside, token => if token.kind = .word then quotedTerms [token.text] else []
  | .inside text, token => if token.kind = .quote then quotedTerms [text] else []

/-- The texts of the phrases that a list of tokens adds. -/
def yields : Quoting → List Token → List String
  | _, [] => []
  | q, token :: rest => q.yield token ++ (q.next token).yields rest

/-- One more quote changes the side. -/
theorem not_decide_odd (quotes : Nat) :
    (!decide (quotes % 2 = 1)) = decide ((quotes + 1) % 2 = 1) := by
  rw [← decide_not, decide_eq_decide]
  omega

theorem isInside_next (q : Quoting) (token : Token) :
    (q.next token).isInside = if token.kind = .quote then !q.isInside else q.isInside := by
  cases q <;> unfold next <;> dsimp only <;> split <;> rfl

theorem isInside_eq_false {q : Quoting} : q.isInside = false ↔ q = .outside :=
  ⟨eq_outside, fun h => h ▸ rfl⟩

/-- The token opens a group. -/
def Opens (q : Quoting) (token : Token) : Prop := q = .outside ∧ token.kind = .parenOpen

instance (q : Quoting) (token : Token) : Decidable (q.Opens token) :=
  inferInstanceAs (Decidable (_ ∧ _))

end Quoting

namespace Reader

theorem quoting_addWord (r : Reader) (text : String) : (r.addWord text).quoting = r.quoting := by
  unfold addWord addPhrase
  dsimp only

theorem tree_addPhrase (r : Reader) (text : String) (mode : Mode) :
    (r.addPhrase text mode).tree = r.tree.addPhrase r.cursor text mode := by
  unfold addPhrase
  dsimp only

theorem tree_addWord (r : Reader) (text : String) :
    (r.addWord text).tree
      = r.tree.addPhrase r.cursor text (Draft.wordMode r.sign r.combinator) := by
  unfold addWord
  dsimp only
  exact tree_addPhrase r text _

/--
The two ways in which a token adds a phrase, each with the text and the mode of it: a word takes
the sign that waits, and a quoted text knows of the combinator only.
-/
inductive Adds (r : Reader) (token : Token) : String → Mode → Prop where
  | word : r.quoting = .outside → token.kind = .word →
      Adds r token token.text (Draft.wordMode r.sign r.combinator)
  | quoted {text : String} : r.quoting = .inside text → token.kind = .quote →
      Adds r token text r.combinator.mode

theorem quoting_setCombinator (r : Reader) (c : Combinator) :
    (r.setCombinator c).quoting = r.quoting := by
  unfold setCombinator
  split <;> rfl

theorem tree_setCombinator (r : Reader) (c : Combinator) : (r.setCombinator c).tree = r.tree := by
  unfold setCombinator
  split <;> rfl

theorem quoting_closeGroup (r : Reader) : r.closeGroup.quoting = r.quoting := by
  unfold closeGroup
  split <;> rfl

theorem tree_closeGroup (r : Reader) : r.closeGroup.tree = r.tree := by
  unfold closeGroup
  split <;> rfl

theorem quoting_step (r : Reader) (token : Token) :
    (r.step token).quoting = r.quoting.next token := by
  unfold step
  cases hq : r.quoting with
  | inside text =>
    unfold stepInside Quoting.next
    dsimp only
    split <;> rfl
  | outside =>
    unfold stepOutside Quoting.next
    dsimp only
    cases token.kind with
    | quote => rfl
    | word => exact (quoting_addWord r token.text).trans hq
    | or => exact (quoting_setCombinator r .or).trans hq
    | and => exact (quoting_setCombinator r .and).trans hq
    | parenClose => exact (quoting_closeGroup r).trans hq
    | _ => exact hq

/--
**The three things that a token does to the tree**: nothing, one more phrase at the
cursor, or one more group; each with the texts that it yields, and a phrase with its origin.
-/
theorem tree_step_cases (r : Reader) (token : Token) :
    ((r.step token).tree = r.tree ∧ r.quoting.yield token = [] ∧ ¬ r.quoting.Opens token)
      ∨ (∃ text mode, (r.step token).tree = r.tree.addPhrase r.cursor text mode
          ∧ r.quoting.yield token = quotedTerms [text] ∧ ¬ r.quoting.Opens token
          ∧ r.Adds token text mode)
      ∨ ((r.step token).tree = r.tree.addGroup r.cursor r.combinator.mode
          ∧ r.quoting.yield token = [] ∧ r.quoting.Opens token) := by
  unfold step Quoting.Opens
  cases hq : r.quoting with
  | inside text =>
    unfold stepInside Quoting.yield
    dsimp only
    by_cases hk : token.kind = .quote
    · rw [if_pos hk, if_pos hk]
      dsimp only
      have htree := r.tree_addPhrase text r.combinator.mode
      exact .inr (.inl ⟨text, r.combinator.mode, htree, rfl, fun h => Quoting.noConfusion h.1,
        .quoted hq hk⟩)
    · rw [if_neg hk, if_neg hk]
      exact .inl ⟨rfl, rfl, fun h => Quoting.noConfusion h.1⟩
  | outside =>
    unfold stepOutside Quoting.yield
    dsimp only
    cases hk : token.kind with
    | word =>
      exact .inr (.inl ⟨token.text, _, r.tree_addWord token.text, if_pos rfl,
        fun h => Token.Kind.noConfusion h.2, .word hq hk⟩)
    | parenOpen => exact .inr (.inr ⟨rfl, rfl, rfl, rfl⟩)
    | or => exact .inl ⟨tree_setCombinator r .or, rfl, fun h => Token.Kind.noConfusion h.2⟩
    | and => exact .inl ⟨tree_setCombinator r .and, rfl, fun h => Token.Kind.noConfusion h.2⟩
    | parenClose => exact .inl ⟨tree_closeGroup r, rfl, fun h => Token.Kind.noConfusion h.2⟩
    | _ => exact .inl ⟨rfl, rfl, fun h => Token.Kind.noConfusion h.2⟩

end Reader

/-! ## What the tree gathers -/

namespace Tree

variable {t : Tree} {i : NodeId}

/-- The phrases of all groups, group by group. -/
def phrases (t : Tree) : List Phrase := t.nodes.toList.flatMap Node.phrases

theorem phrases_addPhrase (text : String) (mode : Mode) (hi : i < t.size) :
    (t.addPhrase i text mode).phrases.Perm (t.phrases ++ quotedPhrases text mode) := by
  unfold Tree.addPhrase quotedPhrases
  dsimp only
  split
  · rw [List.append_nil]
  · obtain ⟨before, node, after, hnodes, _, hmodify⟩ := List.exists_of_modify
      (fun n : Node => { n with phrases := n.phrases ++ [Phrase.ofText text mode] })
      (l := t.nodes.toList) hi
    unfold phrases
    dsimp only
    rw [Array.toList_modify, hmodify, hnodes, List.flatMap_append, List.flatMap_append,
      List.flatMap_cons, List.flatMap_cons, List.append_assoc, List.append_assoc, List.append_assoc]
    -- the phrase moves from its group to the end, over the groups that come after
    exact List.perm_append_comm.append_left node.phrases |>.append_left _

theorem phrases_addGroup (mode : Mode) (hi : i < t.size) :
    (t.addGroup i mode).phrases = t.phrases := by
  obtain ⟨before, node, after, hnodes, _, hmodify⟩ := List.exists_of_modify
    (fun n : Node => { n with children := n.children ++ [t.size] }) (l := t.nodes.toList) hi
  unfold phrases Tree.addGroup
  dsimp only
  rw [Array.toList_push, Array.toList_modify, hmodify, hnodes, List.flatMap_append,
    List.flatMap_append, List.flatMap_append, List.flatMap_cons, List.flatMap_cons]
  -- the new group has no phrases, and its parent's only change is one more child
  exact List.append_nil _

end Tree

namespace Reader

/-- **One token adds the texts that it yields.** -/
theorem texts_step (token : Token) (hc : r.cursor < r.tree.size) :
    ((r.step token).tree.phrases.map Phrase.text).Perm
      (r.tree.phrases.map Phrase.text ++ r.quoting.yield token) := by
  -- a yield is compared with the phrase only; the group in which this ends up is not seen here
  rcases r.tree_step_cases token with ⟨ht, hy, _⟩ | ⟨text, mode, ht, hy, _⟩ | ⟨ht, hy, _⟩ <;>
    rw [ht, hy]
  · rw [List.append_nil]
  · rw [← map_text_quotedPhrases text mode, ← List.map_append]
    exact (Tree.phrases_addPhrase text mode hc).map _
  · rw [List.append_nil, Tree.phrases_addGroup _ hc]

/-- **The tree gathers what the tokens yield**, all of it and nothing else. -/
theorem texts_run (h : Follows r d) (tokens : List Token) :
    ((r.run tokens).tree.phrases.map Phrase.text).Perm
      (r.tree.phrases.map Phrase.text ++ r.quoting.yields tokens) := by
  induction tokens generalizing r d with
  | nil => exact .of_eq (List.append_nil _).symm
  | cons token rest ih =>
    have hrest := ih (follows_step h token)
    have hstep := texts_step token h.opened.lt_size
    rw [Reader.quoting_step] at hrest
    rw [Quoting.yields, ← List.append_assoc]
    exact hrest.trans (hstep.append_right _)

theorem isInside_step (token : Token) {quotes : Nat}
    (hq : r.quoting.isInside = decide (quotes % 2 = 1)) :
    (r.step token).quoting.isInside
      = decide ((if token.kind = .quote then quotes + 1 else quotes) % 2 = 1) := by
  rw [quoting_step, Quoting.isInside_next, hq]
  split
  · exact Quoting.not_decide_odd quotes
  · rfl

/-- **The reader is between quotes where an odd number of them has been read.** -/
theorem isInside_run (tokens : List Token) {quotes : Nat}
    (hq : r.quoting.isInside = decide (quotes % 2 = 1)) :
    (r.run tokens).quoting.isInside
      = decide ((quotes + (tokens.map Token.kind).count .quote) % 2 = 1) := by
  induction tokens generalizing r quotes with
  | nil => exact hq
  | cons token rest ih =>
    have hrest := ih (isInside_step token hq)
    rw [List.map_cons, List.count_cons]
    simp only [beq_iff_eq]
    split at hrest
    · rw [if_pos ‹_›, Nat.add_comm _ 1, ← Nat.add_assoc]
      exact hrest
    · rw [if_neg ‹_›]
      exact hrest

theorem size_step (r : Reader) (token : Token) :
    (r.step token).tree.size = r.tree.size + if r.quoting.Opens token then 1 else 0 := by
  rcases r.tree_step_cases token with ⟨ht, _, ho⟩ | ⟨text, mode, ht, _, ho, _⟩ | ⟨ht, _, ho⟩ <;>
    rw [ht]
  · rw [if_neg ho]; rfl
  · rw [if_neg ho, Tree.size_addPhrase]; rfl
  · rw [if_pos ho, Tree.size_addGroup]

/-- **There is one more group for each `(` outside quotes.** -/
theorem size_run (r : Reader) (quotes : Nat) (tokens : List Token)
    (hq : r.quoting.isInside = decide (quotes % 2 = 1)) :
    (r.run tokens).tree.size
      = r.tree.size + (outside quotes tokens).countP (·.kind = .parenOpen) := by
  induction tokens generalizing r quotes with
  | nil => rfl
  | cons token rest ih =>
    have hnext := isInside_step token hq
    -- the side, which the reader has in its state and the tokens in their parity, is the same
    have hopens : r.quoting.Opens token ↔ quotes % 2 = 0 ∧ token.kind = .parenOpen := by
      rw [Quoting.Opens, ← Quoting.isInside_eq_false, hq, decide_eq_false_iff_not]
      exact and_congr_left' (by omega)
    have hrun : (r.run (token :: rest)).tree.size = r.tree.size
        + (if r.quoting.Opens token then 1 else 0)
        + (outside (if token.kind = .quote then quotes + 1 else quotes) rest).countP
          (·.kind = .parenOpen) := by
      rw [← size_step, ← ih (r.step token) _ hnext]
      rfl
    rw [hrun, outside]
    by_cases heven : quotes % 2 = 0
    · rw [if_pos heven, List.countP_cons, if_congr hopens rfl rfl]
      simp only [heven, true_and, decide_eq_true_eq]
      omega
    · rw [if_neg heven, if_neg fun ho => heven (hopens.mp ho).1]
      rfl

end Reader

/-! ## What the tokens yield, sorted -/

/-- The texts inside, when the first stretch goes on with a quoted text that has begun. -/
def closed (text : String) : List (List Token) → List String
  | inside :: outside :: more => (text ++ textOf inside) :: (enclosed (outside :: more)).map textOf
  | _ => []

theorem textOf_cons (token : Token) (tokens : List Token) :
    textOf (token :: tokens) = token.text ++ textOf tokens := by
  rw [textOf, textOf, List.map_cons, String.join_cons]

theorem closed_modifyHead (text : String) (token : Token) (l : List (List Token)) :
    closed text (l.modifyHead (token :: ·)) = closed (text ++ token.text) l := by
  cases l with
  | nil => rfl
  | cons first more =>
    cases more with
    | nil => rfl
    | cons second more =>
      show (text ++ textOf (token :: first)) :: _ = (text ++ token.text ++ textOf first) :: _
      rw [textOf_cons, String.append_assoc]

/-- A quote outside begins a text. -/
theorem map_quotations_quote (h : token.kind = .quote) :
    (quotations (token :: rest)).map textOf = closed "" (stretches rest) := by
  obtain ⟨first, more, hrest⟩ := stretches_eq_cons rest
  rw [quotations, stretches_quote h, hrest]
  cases more with
  | nil => rfl
  | cons second more =>
    show textOf first :: _ = ("" ++ textOf first) :: _
    rw [String.empty_append]

/-- A quote inside ends the text. -/
theorem closed_quote (text : String) (h : token.kind = .quote) :
    closed text (stretches (token :: rest)) = text :: (quotations rest).map textOf := by
  obtain ⟨first, more, hrest⟩ := stretches_eq_cons rest
  have hempty : textOf [] = "" := rfl
  rw [quotations, stretches_quote h, hrest, closed, hempty, String.append_empty]

/--
**What tokens yield are the words outside and the quotations.** Inside quotes, what is
left of the first quotation is joined to the text that has begun.
-/
theorem yields_perm (tokens : List Token) (hs : ∀ t ∈ tokens, t.kind = .word → t.IsSolid) :
    (∀ quotes, quotes % 2 = 0 → (Quoting.outside.yields tokens).Perm
        (wordTexts (outside quotes tokens) ++ quotedTerms ((quotations tokens).map textOf)))
      ∧ ∀ quotes text, quotes % 2 = 1 → ((Quoting.inside text).yields tokens).Perm
        (wordTexts (outside quotes tokens) ++ quotedTerms (closed text (stretches tokens))) := by
  induction tokens with
  -- both sides at once, as a quote hands over to the induction hypothesis of the other side
  | nil => exact ⟨fun _ _ => .refl _, fun _ _ _ => .refl _⟩
  | cons token rest ih =>
    obtain ⟨ihOut, ihIn⟩ := ih fun t ht => hs t (List.mem_cons_of_mem token ht)
    constructor
    · intro quotes heven
      rw [Quoting.yields, Quoting.yield, Quoting.next, outside, if_pos heven]
      by_cases hk : token.kind = .quote
      · have hword : token.kind ≠ .word := by rw [hk]; decide
        rw [if_neg hword, if_pos hk, if_pos hk, map_quotations_quote hk, wordTexts,
          List.filter_cons_of_neg (by simpa using hword)]
        -- an opening quote yields nothing yet: the text that it begins is empty
        exact ihIn (quotes + 1) "" (by omega)
      · rw [if_neg hk, if_neg hk, quotations, stretches_other hk, enclosed_modifyHead]
        by_cases hword : token.kind = .word
        · rw [if_pos hword, quotedTerms_word (hs token List.mem_cons_self hword), wordTexts,
            List.filter_cons_of_pos (by simpa using hword)]
          exact (ihOut quotes heven).cons token.text
        · rw [if_neg hword, wordTexts, List.filter_cons_of_neg (by simpa using hword)]
          exact ihOut quotes heven
    · intro quotes text hodd
      have hneg : ¬ quotes % 2 = 0 := by omega
      rw [Quoting.yields, Quoting.yield, Quoting.next, outside, if_neg hneg]
      by_cases hk : token.kind = .quote
      · have hrest := ihOut (quotes + 1) (by omega)
        rw [if_pos hk, if_pos hk, if_pos hk, closed_quote text hk,
          quotedTerms_cons text (List.map ..)]
        -- the quoted text is yielded before the words that follow it
        exact (hrest.append_left (quotedTerms [text])).trans (List.perm_append_comm_assoc _ _ _)
      · rw [if_neg hk, if_neg hk, if_neg hk, stretches_other hk, closed_modifyHead]
        -- inside, any other token is text, a word too, and is gathered until the quote ends
        exact ihIn quotes (text ++ token.text) hodd

/-! ## At the top -/

/-- The groups of a query are the whole query and one for each `(` outside quotes. -/
theorem size_parse (o : Options) (query : String) :
    (parse o query).size = (outside 0 (tokenize o query)).countP (·.kind = .parenOpen) + 1 := by
  have hrun := (Reader.start query).size_run 0 (tokenize o query) rfl
  rw [Nat.add_comm]
  exact hrun

/--
**No term of a query is lost or made up.** The texts of the phrases in all groups are, each
as often as it occurs, the words outside quotes and the trimmed texts between each opening
quote and its closing one, blank ones apart; and besides the whole query there is one group
for each `(` outside quotes.
-/
theorem parse_keeps_terms (o : Options) (query : String) :
    ((parse o query).phrases.map Phrase.text).Perm
        (((outside 0 (tokenize o query)).filter (·.kind = .word)).map Token.text
          ++ ((quotations (tokenize o query)).map fun body => trimmed (textOf body)).filter
            (· ≠ ""))
      ∧ (parse o query).size
        = (outside 0 (tokenize o query)).countP (·.kind = .parenOpen) + 1 := by
  refine ⟨?_, size_parse o query⟩
  have hrun := Reader.texts_run (follows_start query) (tokenize o query)
  have hsort := (yields_perm (tokenize o query)
    fun t ht hk => Token.isSolid_of_mem_tokenize ht hk).1 0 rfl
  rw [quotedTerms, List.map_map] at hsort
  exact hrun.trans hsort

end SearchQuery
