import SearchQuery.Proofs.Token.Unit

/-!
# The marks of a query

Whether a query is balanced depends on its double quotes and its parentheses alone.
A `Mark` is one of these, and a text and a list of tokens have each a list of marks.
`inTokens_tokenize` says that cutting a query into tokens keeps its marks, so what is
proved of the characters of a repaired query holds of its tokens.
-/

namespace SearchQuery

/-- A character that gives a query its shape. -/
inductive Mark where
  | quote
  | opener
  | closer
  deriving DecidableEq, Repr

namespace Mark

/-- The mark that a character is, if it is one. -/
def ofChar? (c : Char) : Option Mark :=
  if c = '"' then some .quote
  else if c = '(' then some .opener
  else if c = ')' then some .closer
  else none

/-- The mark that a token of some kind is, if it is one. -/
def ofKind? : Token.Kind → Option Mark
  | .quote => some .quote
  | .parenOpen => some .opener
  | .parenClose => some .closer
  | _ => none

/-- The kind of the tokens that are this mark. -/
def kind : Mark → Token.Kind
  | quote => .quote
  | opener => .parenOpen
  | closer => .parenClose

/-- The character that is this mark. -/
def char : Mark → Char
  | quote => '"'
  | opener => '('
  | closer => ')'

/-- The marks of a text, in order. -/
def inText (text : List Char) : List Mark := text.filterMap ofChar?

/-- The marks of a list of tokens, in order. -/
def inTokens (tokens : List Token) : List Mark := tokens.filterMap fun t => ofKind? t.kind

theorem inText_append (text more : List Char) : inText (text ++ more) = inText text ++ inText more :=
  List.filterMap_append

theorem inTokens_append (tokens more : List Token) :
    inTokens (tokens ++ more) = inTokens tokens ++ inTokens more :=
  List.filterMap_append

theorem inTokens_cons (t : Token) (tokens : List Token) :
    inTokens (t :: tokens) = (ofKind? t.kind).toList ++ inTokens tokens := by
  rw [inTokens, List.filterMap_cons]
  cases ofKind? t.kind <;> rfl

theorem ofChar?_eq_none {c : Char} (hq : c ≠ '"') (ho : c ≠ '(') (hc : c ≠ ')') :
    ofChar? c = none := by
  rw [ofChar?, if_neg hq, if_neg ho, if_neg hc]

/-! ## Cutting keeps the marks -/

/-- The mark of a unit is the mark of the token made of it. -/
theorem inText_unit {unit : List Char} (h : Token.IsUnit unit) :
    inText unit = (ofKind? (Token.Kind.ofUnit unit)).toList := by
  cases h with
  | @boundary c hb =>
    rcases Token.isBoundary_iff.mp hb with hs | rfl | rfl | rfl | rfl | rfl
    · -- white space is none of the three marks
      have hne : ∀ d, Text.isSpace d = false → c ≠ d := fun d hd he => by
        rw [he, hd] at hs; exact Bool.noConfusion hs
      have hnone : ofChar? c = none :=
        ofChar?_eq_none (hne _ (by decide)) (hne _ (by decide)) (hne _ (by decide))
      rw [Token.ofUnit_space hs, inText, List.filterMap_cons_none hnone]
      rfl
    all_goals decide
  | run _ hrun =>
    -- the three marks stand alone, so none is in a stretch
    have hnone : ∀ c ∈ unit, ofChar? c = none := fun c hc => by
      have hb := hrun c hc
      refine ofChar?_eq_none ?_ ?_ ?_ <;> rintro rfl <;> exact absurd hb (by decide)
    rw [inText, List.filterMap_eq_nil_iff.mpr hnone]
    rcases Token.ofUnit_run hrun with hk | hk | hk | hk <;> rw [hk] <;> rfl

theorem inTokens_map_ofUnit {units : List (List Char)} (h : ∀ u ∈ units, Token.IsUnit u) :
    inTokens (units.map Token.ofUnit) = inText units.flatten := by
  induction units with
  | nil => rfl
  | cons u units ih =>
    rw [List.map_cons, inTokens_cons, List.flatten_cons, inText_append,
      inText_unit (h u List.mem_cons_self), ih fun v hv => h v (List.mem_cons_of_mem u hv)]
    rfl

theorem inTokens_split (text : List Char) :
    inTokens ((Token.split text).map Token.ofUnit) = inText text := by
  rw [inTokens_map_ofUnit Token.isUnit_of_mem_split, Token.flatten_split]

/-- **The tokens of a query have the marks of the repaired query.** -/
theorem inTokens_tokenize (o : Options) (query : String) :
    inTokens (tokenize o query) = inText (Repair.chars o query.toList) :=
  inTokens_split (Repair.chars o query.toList)

/-! ## Counting tokens or characters is counting marks -/

theorem ofChar?_eq_some {c : Char} {m : Mark} : ofChar? c = some m ↔ c = m.char := by
  constructor
  · intro h
    unfold ofChar? at h
    split at h
    · rename_i hc; cases h; exact hc
    · split at h
      · rename_i hc; cases h; exact hc
      · split at h
        · rename_i hc; cases h; exact hc
        · cases h
  · rintro rfl
    cases m <;> decide

theorem ofKind?_eq_some {k : Token.Kind} {m : Mark} : ofKind? k = some m ↔ k = m.kind := by
  cases k <;> cases m <;> decide

theorem count_filterMap {α : Type} [DecidableEq α] {f : α → Option Mark} {a : α} {m : Mark}
    (hf : ∀ b, f b = some m ↔ b = a) (list : List α) :
    (list.filterMap f).count m = list.count a := by
  induction list with
  | nil => rfl
  | cons b list ih =>
    by_cases hb : b = a
    · rw [List.filterMap_cons_some ((hf b).mpr hb), hb, List.count_cons_self, List.count_cons_self, ih]
    · rw [List.count_cons_of_ne hb, ← ih]
      cases hm : f b with
      | none => rw [List.filterMap_cons_none hm]
      | some n =>
        -- `b` is another mark, which the count passes over
        have hn : n ≠ m := fun he => hb ((hf b).mp (he ▸ hm))
        rw [List.filterMap_cons_some hm, List.count_cons_of_ne hn]

theorem count_char (m : Mark) (text : List Char) : (inText text).count m = text.count m.char :=
  count_filterMap (fun _ => ofChar?_eq_some) text

theorem count_kind (m : Mark) (tokens : List Token) :
    (inTokens tokens).count m = (tokens.map Token.kind).count m.kind := by
  rw [← count_filterMap (fun _ => ofKind?_eq_some), List.filterMap_map]
  rfl

/-- A text has as many tokens of a mark as characters of it. -/
theorem count_split (m : Mark) (text : List Char) :
    (((Token.split text).map Token.ofUnit).map Token.kind).count m.kind = text.count m.char := by
  rw [← count_kind, inTokens_split, count_char]

end Mark

end SearchQuery
