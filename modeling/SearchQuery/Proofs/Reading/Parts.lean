import SearchQuery.Proofs.Reading.Place
import SearchQuery.Proofs.Reading.Terms
import SearchQuery.Proofs.Repair.Passing
import SearchQuery.Proofs.Token.Balance
import SearchQuery.Proofs.Token.Seam

/-!
# Queries in two parts

Both results of this module cut a query in two at a place outside quotes. There the reader
has nothing in hand but the open groups, their combinators and the sign that waits.

White space between the parts changes nothing of these. It is ordinary text to the repair and
a run of spaces to the reader, so it may be put in wherever no unit is torn apart and the
repair has no double quote open (`rootExpression_insert_space`). That the repair and the
reader agree on the quotes is a matter of parity: an even number of them has been written
where none is open.

If nothing is open at all after the first part, no keyword holds in it to its end and no sign
waits, then the reader meets the second part as it would meet it alone, but for what the whole
query holds already. What it reads there is added to that, part by part
(`rootExpression_join`).
-/

namespace SearchQuery

open Repair

variable {o : Options} {c : Char} {d : Draft} {text : List Char} {tokens : List Token}

/-! ## White space means nothing outside quotes -/

theorem Repair.ordinary_of_isSpace (h : Text.isSpace c = true) : Ordinary o c := by
  have hne : ∀ b, Text.isSpace b = false → c ≠ b := by
    rintro b hb rfl
    rw [h] at hb
    cases hb
  refine ⟨Options.quote?_eq_none.mpr fun q _ _ => hne _ ?_, hne _ (by decide), hne _ (by decide)⟩
  cases q <;> decide

/-- White space outside quotes leaves a draft as it is. -/
theorem Draft.run_spaces (hq : d.quoting = .outside) (h : ∀ t ∈ tokens, t.kind = .space) :
    d.run tokens = d := by
  induction tokens with
  | nil => rfl
  | cons token rest ih =>
    have hstep : d.step token = d := by
      rw [Draft.step, hq]
      show d.stepOutside token = d
      rw [Draft.stepOutside, h token List.mem_cons_self]
    rw [Draft.run_cons, hstep]
    exact ih fun t ht => h t (List.mem_cons_of_mem token ht)

/-! ## Even numbers of quotes lead outside -/

theorem Draft.outside_of_even (h : (tokens.map Token.kind).count .quote % 2 = 0) :
    (Draft.start.run tokens).quoting = .outside := by
  -- the parity is known of a reader, and a draft is between quotes when its reader is
  have hfollows := follows_run (follows_start "") tokens
  have hinside : ((Reader.start "").run tokens).quoting.isInside
      = decide ((0 + (tokens.map Token.kind).count .quote) % 2 = 1) :=
    Reader.isInside_run tokens rfl
  rw [hfollows.quoting, Nat.zero_add, h] at hinside
  exact Quoting.eq_outside hinside

/-- A quote in use that is not open has been written an even number of times. -/
theorem Repair.count_written_even {q : Delimiter} (hq : q ≠ .paren) (hu : o.Uses q)
    (hn : q ∉ openAfter o [] text) : (written o [] text).count q.closer % 2 = 0 := by
  have hbody : ((body o [] text).count q.closer + [].count q) % 2 = 0 := count_body hq hu text
  -- the body ends with a closer for each quote left open, and of this kind there is none
  rw [body_eq_written, List.count_append, count_closers, List.count_eq_zero.mpr hn] at hbody
  exact hbody

/-- Where the repair has no double quote open, the reader is outside quotes. -/
theorem Draft.outside_of_written (n : Nat) (hn : .doubleQuote ∉ openAfter o [] text) :
    (Draft.start.run (Token.scan (List.replicate n '(' ++ written o [] text))).quoting
      = .outside := by
  apply Draft.outside_of_even
  have hcount : ((Token.scan (List.replicate n '(' ++ written o [] text)).map Token.kind).count
      .quote = (List.replicate n '(' ++ written o [] text).count '"' := Mark.count_split .quote _
  have heven : (written o [] text).count '"' % 2 = 0 :=
    count_written_even (q := .doubleQuote) (by decide) trivial hn
  rw [hcount, List.count_append, List.count_replicate, if_neg (by decide), Nat.zero_add, heven]

/-! ## Queries that need no repair -/

theorem Repair.chars_of_repair {query : String} (h : repair o query = query) :
    chars o query.toList = query.toList := by
  rw [← toList_repair, h]

theorem Repair.lost_le_unmatched {opened : List Delimiter} :
    lost o opened text ≤ unmatched o opened text := by
  induction text generalizing opened with
  | nil => exact Nat.le_refl _
  | cons c text ih =>
    have hrest : lost o (next o opened c) text ≤ unmatched o (next o opened c) text := ih
    rw [lost, unmatched]
    by_cases hlost : c = ')' ∧ .paren ∉ opened ∧ quoted opened
    · rw [if_pos hlost, if_pos (effect_eq_unmatched_iff.mpr ⟨hlost.1, hlost.2.1⟩)]
      omega
    · rw [if_neg hlost]
      omega

/--
A query that needs no repair leads back to the whole query, outside quotes. If no keyword holds
there and no sign waits, then what the whole query holds is all that is left of it.
-/
theorem Draft.run_of_repair {query : String} (h : repair o query = query)
    (hc : ((Reader.start query).run (tokenize o query)).levels.getLast? = some .none)
    (hs : ((Reader.start query).run (tokenize o query)).sign = none) :
    ∃ f : Frame, Draft.start.run (tokenize o query) = ⟨f, [], .outside, none⟩
      ∧ f.combinator = .none := by
  have hfollows := follows_run (follows_start query) (tokenize o query)
  have hpasses := (chars_eq_self_iff o query.toList).mp (chars_of_repair h)
  have hlost : lost o [] query.toList = 0 := by
    have hle : lost o [] query.toList ≤ unmatched o [] query.toList := lost_le_unmatched
    rw [unmatched_of_passes hpasses] at hle
    exact Nat.eq_zero_of_le_zero hle
  -- no `)` is lost in quotes, so no group is left open
  have hlevel := Draft.level?_start o query
  rw [hlost, ← List.append_nil (tokenize o query)] at hlevel
  obtain ⟨hinside, hdepth⟩ := Prod.mk.inj (Option.some.inj (Draft.level?_run hlevel))
  have hlevels := hfollows.levels
  have hsign := hfollows.sign
  generalize Draft.start.run (tokenize o query) = d at hinside hdepth hlevels hsign ⊢
  obtain ⟨f, outer, quoting, sign⟩ := d
  -- the level of what is left is that of the draft: nothing open, and outside quotes
  obtain rfl : outer = [] := List.eq_nil_of_length_eq_zero hdepth
  obtain rfl : quoting = .outside := Quoting.eq_outside hinside
  obtain rfl : sign = none := hsign.symm.trans hs
  rw [hlevels] at hc
  exact ⟨f, rfl, Option.some.inj hc⟩

/-- Two queries that need no repair need none together, and have their tokens one after the other. -/
theorem tokenize_join {q₁ q₂ : String} (h₁ : repair o q₁ = q₁) (h₂ : repair o q₂ = q₂) :
    tokenize o (q₁ ++ " " ++ q₂)
      = tokenize o q₁ ++ (Token.scan [' '] ++ tokenize o q₂) := by
  have hp₁ := (chars_eq_self_iff o q₁.toList).mp (chars_of_repair h₁)
  have hp₂ := (chars_eq_self_iff o q₂.toList).mp (chars_of_repair h₂)
  have hpasses : Passes o [] (q₁.toList ++ ' ' :: q₂.toList) [] :=
    (passes_append_iff hp₁).mpr (.plain (ordinary_of_isSpace (by decide)) hp₂)
  have hlist : (q₁ ++ " " ++ q₂).toList = q₁.toList ++ ([' '] ++ q₂.toList) := by
    rw [String.toList_append, String.toList_append, List.append_assoc]
    rfl
  have hchars : chars o (q₁ ++ " " ++ q₂).toList = q₁.toList ++ ([' '] ++ q₂.toList) := by
    rw [hlist]
    exact (chars_eq_self_iff o _).mpr hpasses
  have hscan : ∀ q : String, repair o q = q → tokenize o q = Token.scan q.toList := by
    intro q hq
    rw [tokenize, chars_of_repair hq]
    rfl
  -- a space is cut off from what stands before it and from what follows
  have hseam : Token.AtSeam q₁.toList ([' '] ++ q₂.toList) := .inr fun c hc => by
    obtain rfl : ' ' = c := Option.some.inj hc
    decide
  have hspace : Token.AtSeam [' '] q₂.toList := .inl fun c hc => by
    obtain rfl : ' ' = c := Option.some.inj hc
    decide
  rw [hscan q₁ h₁, hscan q₂ h₂, ← Token.scan_append hspace, ← Token.scan_append hseam, tokenize,
    hchars]
  rfl

/-! ## What two parts yield together -/

namespace Expression

/-- The words of the phrases that stand in the group itself. -/
def ownWords (included : Bool) (e : Expression) : List String :=
  (e.phrases.filter fun p => p.isIncluded = included).flatMap Phrase.words

theorem collectAll_append (included : Bool) (es es' : List Expression) :
    collectAll included (es ++ es') = collectAll included es ++ collectAll included es' := by
  induction es with
  | nil => rfl
  | cons e es ih => rw [List.cons_append, collectAll, ih, collectAll, List.append_assoc]

theorem collect_own (included : Bool) (e : Expression) :
    e.collect included = e.ownWords included ++ collectAll included e.children := by
  cases e with
  | group mode phrases children => rfl

end Expression

/-! ## At the top -/

/--
**Layout does not matter outside quotes.** White space may be put into a query wherever the
repair has no double quote open and no unit runs across: at its start, at its end, and next
to white space or one of `" + ( ) -`. What the query means stays the same.
-/
theorem rootExpression_insert_space (u w v : String)
    (hopen : .doubleQuote ∉ Repair.openAfter ⟨false⟩ [] u.toList)
    (hseam : (∀ c, u.toList.getLast? = some c → Token.isBoundary c = true)
      ∨ ∀ c, v.toList.head? = some c → Token.isBoundary c = true)
    (hw : ∀ c ∈ w.toList, Text.isSpace c = true) :
    (parse ⟨false⟩ (u ++ w ++ v)).rootExpression = (parse ⟨false⟩ (u ++ v)).rootExpression := by
  have hordinary : ∀ c ∈ w.toList, Ordinary ⟨false⟩ c := fun c hc => ordinary_of_isSpace (hw c hc)
  have huses : ∀ d ∈ openAfter ⟨false⟩ [] u.toList, d ≠ .singleQuote := by
    rintro d hd rfl
    exact absurd (uses_openAfter (by simp) _ hd) Bool.false_ne_true
  -- the repair writes the same on both sides of the white space, and puts as much in front
  obtain ⟨front, hfront⟩ : ∃ front, front = List.replicate (unmatched ⟨false⟩ [] u.toList
      + unmatched ⟨false⟩ (openAfter ⟨false⟩ [] u.toList) v.toList) '('
        ++ written ⟨false⟩ [] u.toList := ⟨_, rfl⟩
  obtain ⟨back, hback⟩ : ∃ back,
      back = body ⟨false⟩ (openAfter ⟨false⟩ [] u.toList) v.toList := ⟨_, rfl⟩
  have htight : chars ⟨false⟩ (u ++ v).toList = front ++ back := by
    rw [String.toList_append, chars_append, hfront, hback]
  have hloose : chars ⟨false⟩ (u ++ w ++ v).toList = front ++ (w.toList ++ back) := by
    rw [String.toList_append, String.toList_append, List.append_assoc, chars_append,
      unmatched_ordinary_append hordinary, body_ordinary_append hordinary, hfront, hback]
  have hcut : Token.AtSeam front back := by
    rw [hfront, hback]
    exact Token.atSeam_written _ huses _ hseam
  have htokens : tokenize ⟨false⟩ (u ++ v) = Token.scan front ++ Token.scan back := by
    rw [← Token.scan_append hcut, ← htight]
    rfl
  have hmore : tokenize ⟨false⟩ (u ++ w ++ v)
      = Token.scan front ++ (Token.scan w.toList ++ Token.scan back) := by
    rw [← Token.scan_insert hcut fun c hc => Token.isBoundary_of_isSpace (hw c hc), ← hloose]
    rfl
  -- and the reader stands outside quotes where it meets the white space
  have houtside : (Draft.start.run (Token.scan front)).quoting = .outside := by
    rw [hfront]
    exact Draft.outside_of_written _ hopen
  rw [rootExpression_parse, rootExpression_parse, htokens, hmore, Draft.run_append,
    Draft.run_append, Draft.run_append, Draft.run_spaces houtside (Token.kind_of_blank hw)]

/-- An ideographic space between a keyword and a closer that only the repair adds. -/
theorem rootExpression_insert_space_before_closer :
    (.doubleQuote ∉ Repair.openAfter ⟨false⟩ [] "\"x y\" (a or (".toList)
      ∧ (∀ c ∈ "\u3000\n".toList, Text.isSpace c = true)
      ∧ (parse ⟨false⟩ ("\"x y\" (a or (" ++ "\u3000\n" ++ "")).rootExpression
        = (parse ⟨false⟩ ("\"x y\" (a or (" ++ "")).rootExpression := by
  have hopen : .doubleQuote ∉ Repair.openAfter ⟨false⟩ [] "\"x y\" (a or (".toList := by decide
  have hspace : ∀ c ∈ "\u3000\n".toList, Text.isSpace c = true := List.all_eq_true.mp (by decide)
  exact ⟨hopen, hspace,
    rootExpression_insert_space _ _ _ hopen (.inr fun c hc => by cases hc) hspace⟩

/--
**Reading is compositional.** Of two queries that need no repair, the first of which ends with
no keyword in force at its top and no sign waiting, the phrases and the groups of both in one
are those of the first and then those of the second. So the words collected from it are the
words at the top of the first and of the second, and then those of the groups of either.
-/
theorem rootExpression_join (o : Options) (q₁ q₂ : String)
    (h₁ : repair o q₁ = q₁) (h₂ : repair o q₂ = q₂)
    (hc : ((Reader.start q₁).run (tokenize o q₁)).levels.getLast? = some .none)
    (hs : ((Reader.start q₁).run (tokenize o q₁)).sign = none) :
    (parse o (q₁ ++ " " ++ q₂)).rootExpression.phrases
        = (parse o q₁).rootExpression.phrases ++ (parse o q₂).rootExpression.phrases
      ∧ (parse o (q₁ ++ " " ++ q₂)).rootExpression.children
        = (parse o q₁).rootExpression.children ++ (parse o q₂).rootExpression.children
      ∧ ∀ included, (parse o (q₁ ++ " " ++ q₂)).rootExpression.collect included
        = (parse o q₁).rootExpression.ownWords included
          ++ (parse o q₂).rootExpression.ownWords included
          ++ (Expression.collectAll included (parse o q₁).rootExpression.children
            ++ Expression.collectAll included (parse o q₂).rootExpression.children) := by
  obtain ⟨f, hrun, hf⟩ := Draft.run_of_repair h₁ hc hs
  have hspaces : ∀ t ∈ Token.scan [' '], t.kind = .space :=
    Token.kind_of_blank (List.all_eq_true.mp (by decide))
  have hfirst : (parse o q₁).rootExpression = f.expression := by
    rw [rootExpression_parse, hrun]
    rfl
  have hsecond := rootExpression_parse o q₂
  have hjoin := rootExpression_parse o (q₁ ++ " " ++ q₂)
  -- the second query is read from what the whole query holds after the first
  rw [Draft.start, Draft.run_tokenize o q₂ rfl] at hsecond
  rw [tokenize_join h₁ h₂, Draft.run_append, Draft.run_append, hrun,
    Draft.run_spaces rfl hspaces, Draft.run_tokenize o q₂ hf] at hjoin
  have hphrases : (parse o (q₁ ++ " " ++ q₂)).rootExpression.phrases
      = (parse o q₁).rootExpression.phrases ++ (parse o q₂).rootExpression.phrases := by
    rw [hjoin, hfirst, hsecond]
    rfl
  have hchildren : (parse o (q₁ ++ " " ++ q₂)).rootExpression.children
      = (parse o q₁).rootExpression.children ++ (parse o q₂).rootExpression.children := by
    rw [hjoin, hfirst, hsecond]
    rfl
  refine ⟨hphrases, hchildren, fun included => ?_⟩
  rw [Expression.collect_own, hchildren, Expression.collectAll_append, Expression.ownWords,
    hphrases, List.filter_append, List.flatMap_append]
  rfl

/-- Two queries with groups, the first with a keyword that ends with its group. -/
theorem rootExpression_join_groups :
    repair ⟨false⟩ "a (b or -c)" = "a (b or -c)" ∧ repair ⟨false⟩ "\"d e\" (f)" = "\"d e\" (f)"
      ∧ (parse ⟨false⟩ ("a (b or -c)" ++ " " ++ "\"d e\" (f)")).rootExpression.phrases
        = [⟨"a", .default, false⟩, ⟨"d e", .default, true⟩] := by
  have h₁ : repair ⟨false⟩ "a (b or -c)" = "a (b or -c)" := by decide
  have h₂ : repair ⟨false⟩ "\"d e\" (f)" = "\"d e\" (f)" := by decide
  obtain ⟨hphrases, _⟩ := rootExpression_join ⟨false⟩ "a (b or -c)" "\"d e\" (f)" h₁ h₂ (by decide)
    (by decide)
  exact ⟨h₁, h₂, hphrases.trans (by decide)⟩

end SearchQuery
