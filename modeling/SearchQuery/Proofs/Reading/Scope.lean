import Mathlib.Data.List.Infix
import SearchQuery.Proofs.Reading.Terms

/-!
# Where a token stands, told from the tokens before it

What becomes of a token depends on three things, and each can be found by going back from it
through the tokens outside quotes, without any state:

* the group that is open there: `)` and the `(` that it closes are passed over in pairs, and the
  first `(` that is left is the one that opened the group (`groupNumber`);
* the keyword in force there: the first one on the way that stands directly in this group, and
  not in one inside it (`keywordOut`);
* the sign that waits there: the first one on the way, in whatever group, as long as no word has
  been passed (`signAt`).

All three are defined for a list of tokens with the last one first, so that one more token is one
step of the way. The first two take a number besides, which says how many more groups to leave:
a `)` adds one to it and a `(` takes one off, and so they speak of all groups that are open.
-/

namespace SearchQuery

variable {before : List Token} {earlier : List Token} {token : Token} {out : Nat}

/-! ## Going back -/

/-- An even number of quotes stands before. -/
def IsOutside (before : List Token) : Prop := (before.map Token.kind).count .quote % 2 = 0

instance (before : List Token) : Decidable (IsOutside before) :=
  inferInstanceAs (Decidable (_ = _))

/-- The tokens outside quotes, the last one first. -/
def bare (before : List Token) : List Token := (outside 0 before).reverse

/-- The number of the group that is open after some tokens, when `out` more groups are left. -/
def groupNumber : Nat → List Token → NodeId
  | _, [] => Tree.root
  | out, token :: earlier =>
    match token.kind, out with
    | .parenClose, out => groupNumber (out + 1) earlier
    | .parenOpen, 0 => earlier.countP (·.kind = .parenOpen) + 1
    | .parenOpen, out + 1 => groupNumber out earlier
    | _, out => groupNumber out earlier

/-- The tokens that stand directly in that group, the last one first. -/
def inGroup : Nat → List Token → List Token
  | _, [] => []
  | out, token :: earlier =>
    match token.kind, out with
    | .parenClose, out => inGroup (out + 1) earlier
    | .parenOpen, 0 => []
    | .parenOpen, out + 1 => inGroup out earlier
    | _, 0 => token :: inGroup 0 earlier
    | _, out + 1 => inGroup (out + 1) earlier

/-- The keyword that a token is. -/
def Combinator.ofToken? (token : Token) : Option Combinator :=
  match token.kind with
  | .and => some .and
  | .or => some .or
  | _ => Option.none

/-- The sign that a token is. -/
def Sign.ofToken? (token : Token) : Option Sign :=
  match token.kind with
  | .plus => some .plus
  | .minus => some .minus
  | _ => none

/-- The last keyword directly in that group. -/
def keywordOut (out : Nat) (earlier : List Token) : Combinator :=
  ((inGroup out earlier).findSome? Combinator.ofToken?).getD .none

/-- The last sign after the last word. -/
def waitingSign (earlier : List Token) : Option Sign :=
  (earlier.takeWhile (·.kind ≠ .word)).findSome? Sign.ofToken?

/-! ## At a place among the tokens -/

/-- The number of the innermost group open after some tokens. -/
def groupAt (before : List Token) : NodeId := groupNumber 0 (bare before)

/-- The last keyword directly in the innermost group open after some tokens. -/
def keywordAt (before : List Token) : Combinator := keywordOut 0 (bare before)

/-- The last sign outside quotes after the last word outside quotes. -/
def signAt (before : List Token) : Option Sign := waitingSign (bare before)

/-- The tokens after the last quote. -/
def sinceQuote (before : List Token) : List Token :=
  (before.reverse.takeWhile (·.kind ≠ .quote)).reverse

/-- The phrases that a token makes: a word outside quotes, and the quote that ends a text. -/
def phrasesMade (before : List Token) (token : Token) : List Phrase :=
  if IsOutside before then
    if token.kind = .word then
      [⟨token.text, Draft.wordMode (signAt before) (keywordAt before), false⟩]
    else []
  else if token.kind = .quote then
    quotedPhrases (textOf (sinceQuote before)) (keywordAt before).mode
  else []

/-- The group that a token opens, by its parent and its mode: a `(` outside quotes. -/
def groupsMade (before : List Token) (token : Token) : List (Option NodeId × Mode) :=
  if IsOutside before ∧ token.kind = .parenOpen then
    [(some (groupAt before), (keywordAt before).mode)]
  else []

/-- Each token with the tokens before it. -/
def places (tokens : List Token) : List (List Token × Token) := tokens.inits.zip tokens

/-! ## One more token -/

theorem places_cons (first : Token) (tokens : List Token) :
    places (first :: tokens)
      = ([], first) :: (places tokens).map fun place => (first :: place.1, place.2) := by
  rw [places, List.inits_cons, List.zip_cons_cons, List.zip_map_left]
  rfl

theorem places_concat (tokens : List Token) (token : Token) :
    places (tokens ++ [token]) = places tokens ++ [(tokens, token)] := by
  induction tokens with
  | nil => rfl
  | cons first tokens ih =>
    rw [List.cons_append, places_cons, ih, List.map_append, places_cons]
    rfl

/-- Only a quote changes the side. -/
theorem isOutside_concat : IsOutside (before ++ [token]) ↔
    if token.kind = .quote then ¬ IsOutside before else IsOutside before := by
  unfold IsOutside
  rw [List.map_append, List.count_append]
  by_cases hk : token.kind = .quote
  · have hone : ([token].map Token.kind).count .quote = 1 := by simp [hk]
    rw [if_pos hk, hone]
    omega
  · have hzero : ([token].map Token.kind).count .quote = 0 := by simp [hk]
    rw [if_neg hk, hzero, Nat.add_zero]

theorem outside_concat (quotes : Nat) (tokens : List Token) (token : Token) :
    outside quotes (tokens ++ [token]) = outside quotes tokens
      ++ if (quotes + (tokens.map Token.kind).count .quote) % 2 = 0 then [token] else [] := by
  induction tokens generalizing quotes with
  | nil => simp [outside]
  | cons first tokens ih =>
    have hcount : ((first :: tokens).map Token.kind).count .quote
        = (tokens.map Token.kind).count .quote + if first.kind = .quote then 1 else 0 := by
      rw [List.map_cons, List.count_cons]
      simp only [beq_iff_eq]
    -- a first quote counts before the rest as well as in the whole, so the parity agrees
    have hsum : (if first.kind = .quote then quotes + 1 else quotes)
          + (tokens.map Token.kind).count .quote
        = quotes + ((first :: tokens).map Token.kind).count .quote := by
      rw [hcount]
      split <;> omega
    rw [List.cons_append, outside, outside, ih, hsum]
    split <;> rfl

theorem bare_concat (before : List Token) (token : Token) :
    bare (before ++ [token]) = if IsOutside before then token :: bare before else bare before := by
  unfold bare
  rw [outside_concat, Nat.zero_add]
  by_cases h : IsOutside before
  · rw [if_pos h, if_pos (show _ % 2 = 0 from h), List.reverse_append]
    rfl
  · rw [if_neg h, if_neg (show ¬ _ % 2 = 0 from h), List.append_nil]

theorem sinceQuote_quote (h : token.kind = .quote) : sinceQuote (before ++ [token]) = [] := by
  unfold sinceQuote
  rw [List.reverse_append, List.reverse_singleton, List.singleton_append,
    List.takeWhile_cons_of_neg (by simp [h])]
  rfl

theorem sinceQuote_other (h : token.kind ≠ .quote) :
    sinceQuote (before ++ [token]) = sinceQuote before ++ [token] := by
  unfold sinceQuote
  rw [List.reverse_append, List.reverse_singleton, List.singleton_append,
    List.takeWhile_cons_of_pos (by simp [h]), List.reverse_cons]

/-! ## One more token outside quotes -/

theorem groupNumber_close (h : token.kind = .parenClose) :
    groupNumber out (token :: earlier) = groupNumber (out + 1) earlier := by
  rw [groupNumber.eq_def]
  simp only [h]

theorem groupNumber_open_zero (h : token.kind = .parenOpen) :
    groupNumber 0 (token :: earlier) = earlier.countP (·.kind = .parenOpen) + 1 := by
  rw [groupNumber.eq_def]
  simp only [h]

theorem groupNumber_open_succ (h : token.kind = .parenOpen) :
    groupNumber (out + 1) (token :: earlier) = groupNumber out earlier := by
  rw [groupNumber.eq_def]
  simp only [h]

theorem groupNumber_other (hclose : token.kind ≠ .parenClose) (hopen : token.kind ≠ .parenOpen) :
    groupNumber out (token :: earlier) = groupNumber out earlier := by
  rw [groupNumber.eq_def]
  cases hk : token.kind with
  | parenClose => exact absurd hk hclose
  | parenOpen => exact absurd hk hopen
  | _ => simp only [hk]

theorem keywordOut_close (h : token.kind = .parenClose) :
    keywordOut out (token :: earlier) = keywordOut (out + 1) earlier := by
  rw [keywordOut, inGroup.eq_def]
  simp only [h]
  rfl

theorem keywordOut_open_zero (h : token.kind = .parenOpen) :
    keywordOut 0 (token :: earlier) = .none := by
  rw [keywordOut, inGroup.eq_def]
  simp only [h]
  rfl

theorem keywordOut_open_succ (h : token.kind = .parenOpen) :
    keywordOut (out + 1) (token :: earlier) = keywordOut out earlier := by
  rw [keywordOut, inGroup.eq_def]
  simp only [h]
  rfl

/-- A token that is no parenthesis stands directly in the group if no more groups are left. -/
theorem inGroup_other (hclose : token.kind ≠ .parenClose) (hopen : token.kind ≠ .parenOpen) :
    inGroup out (token :: earlier)
      = if out = 0 then token :: inGroup out earlier else inGroup out earlier := by
  rw [inGroup.eq_def]
  cases hk : token.kind with
  | parenClose => exact absurd hk hclose
  | parenOpen => exact absurd hk hopen
  | _ => cases out <;> simp only [hk] <;> rfl

/-- Directly in the group, the first token on the way decides if it is a keyword. -/
theorem keywordOut_other_zero (hclose : token.kind ≠ .parenClose)
    (hopen : token.kind ≠ .parenOpen) : keywordOut 0 (token :: earlier)
      = (Combinator.ofToken? token).getD (keywordOut 0 earlier) := by
  rw [keywordOut, inGroup_other hclose hopen, if_pos rfl, List.findSome?_cons, keywordOut]
  -- a token that is no keyword hands the question on to those before it
  cases Combinator.ofToken? token <;> rfl

theorem keywordOut_other_succ (hclose : token.kind ≠ .parenClose)
    (hopen : token.kind ≠ .parenOpen) :
    keywordOut (out + 1) (token :: earlier) = keywordOut (out + 1) earlier := by
  rw [keywordOut, inGroup_other hclose hopen, if_neg (Nat.succ_ne_zero out), keywordOut]

theorem waitingSign_cons : waitingSign (token :: earlier)
    = if token.kind = .word then none else (Sign.ofToken? token).or (waitingSign earlier) := by
  unfold waitingSign
  by_cases h : token.kind = .word
  · rw [if_pos h, List.takeWhile_cons_of_neg (by simp [h])]
    rfl
  · rw [if_neg h, List.takeWhile_cons_of_pos (by simp [h]), List.findSome?_cons]
    -- the latest sign wins, since it is met first
    cases Sign.ofToken? token <;> rfl

end SearchQuery
