import SearchQuery.Proofs.Repair.Passing

/-!
# Texts that nest

`Nested o quotes text` is the grammar of texts in which every delimiter is closed in
nested order. Parentheses nest freely. A quote toggles, so a pair of one kind may not
stand anywhere inside another pair of that kind: `quotes` lists the kinds that are
open around the text.

The grammar knows nothing of a stack and `Passes` nothing of a grammar, and
`passes_iff_nested` says that they describe the same texts. From grammar to stack it
is an induction on the derivation: a nested text gives the stack back as it was. From
stack to grammar a text may start with delimiters open, and then it is nested texts
with the closers of those delimiters between them, which is what `Closing` says.

So the grammar is that of the texts a repair leaves alone (`repair_eq_self_iff`), and
to run the repair is to decide whether a text nests.
-/

namespace SearchQuery

namespace Repair

variable {o : Options} {opened left : List Delimiter} {c : Char} {d : Delimiter} {text : List Char}

/-- Every delimiter of the text is closed in nested order; the quotes listed are open around it. -/
inductive Nested (o : Options) : List Delimiter → List Char → Prop where
  | nil {quotes : List Delimiter} : Nested o quotes []
  | plain {quotes : List Delimiter} {c : Char} {rest : List Char} :
      Ordinary o c → Nested o quotes rest → Nested o quotes (c :: rest)
  | parens {quotes : List Delimiter} {inner rest : List Char} :
      Nested o quotes inner → Nested o quotes rest →
      Nested o quotes ('(' :: inner ++ ')' :: rest)
  | quoted {quotes : List Delimiter} {q : Delimiter} {inner rest : List Char} :
      q ≠ .paren → o.Uses q → q ∉ quotes →
      Nested o (q :: quotes) inner → Nested o quotes rest →
      Nested o quotes (q.opener :: inner ++ q.closer :: rest)

/-! ## From the grammar to the stack -/

/-- A nested text passes and leaves open what was open. -/
theorem passes_of_nested {quotes : List Delimiter} (h : Nested o quotes text)
    (hq : ∀ q ∈ opened, q ≠ .paren → q ∈ quotes) : Passes o opened text opened := by
  induction h generalizing opened with
  | nil => exact .nil
  | plain hc _ ih => exact .plain hc (ih hq)
  | @parens quotes inner rest _ _ ihInner ihRest =>
    -- a parenthesis is no quote, so the same quotes are open inside
    have hin : Passes o (.paren :: opened) inner (.paren :: opened) := ihInner fun q hm hp =>
      hq q ((List.mem_cons.mp hm).resolve_left hp) hp
    have hout : Passes o (.paren :: opened) (inner ++ ')' :: rest) opened :=
      (passes_append_iff hin).mpr (.closes (d := .paren) trivial (ihRest hq))
    exact .opens (d := .paren) trivial (absurd rfl) hout
  | @quoted quotes q inner rest hp hu hn _ _ ihInner ihRest =>
    -- inside, `q` is one more quote that may not be opened again
    have hin : Passes o (q :: opened) inner (q :: opened) := ihInner fun e hm he =>
      (List.mem_cons.mp hm).elim (fun h => h ▸ List.mem_cons_self)
        fun h => List.mem_cons_of_mem q (hq e h he)
    have hout : Passes o (q :: opened) (inner ++ q.closer :: rest) opened :=
      (passes_append_iff hin).mpr (.closes hu (ihRest hq))
    exact .opens hu (fun _ hm => hn (hq q hm hp)) hout

/-! ## From the stack to the grammar -/

/-- The kinds of quote among the open delimiters. -/
def quotesOf (opened : List Delimiter) : List Delimiter :=
  opened.filter (· ≠ .paren)

theorem quotesOf_paren : quotesOf (.paren :: opened) = quotesOf opened := rfl

theorem quotesOf_quote (h : d ≠ .paren) : quotesOf (d :: opened) = d :: quotesOf opened :=
  List.filter_cons_of_pos (decide_eq_true h)

/-- The text closes what is open, innermost first, with nested text between the closers. -/
inductive Closing (o : Options) : List Delimiter → List Char → Prop where
  | done {text : List Char} : Nested o [] text → Closing o [] text
  | close {opened : List Delimiter} {d : Delimiter} {inner rest : List Char} :
      Nested o (quotesOf (d :: opened)) inner → Closing o opened rest →
      Closing o (d :: opened) (inner ++ d.closer :: rest)

/-- A nested text between an opener and its closer, followed by a nested text, is nested. -/
theorem nested_group {inner rest : List Char} (hu : o.Uses d) (hn : d ≠ .paren → d ∉ opened)
    (hin : Nested o (quotesOf (d :: opened)) inner) (hrest : Nested o (quotesOf opened) rest) :
    Nested o (quotesOf opened) (d.opener :: inner ++ d.closer :: rest) := by
  by_cases hd : d = .paren
  · subst hd
    rw [quotesOf_paren] at hin
    exact .parens hin hrest
  · rw [quotesOf_quote hd] at hin
    exact .quoted hd hu (fun hm => hn hd (List.mem_filter.mp hm).1) hin hrest

/-- Nested text in front joins the nested text up to the next closer. -/
theorem closing_of_prepend (front : List Char)
    (hf : ∀ rest, Nested o (quotesOf opened) rest → Nested o (quotesOf opened) (front ++ rest))
    (h : Closing o opened text) : Closing o opened (front ++ text) := by
  cases h with
  | done h => exact .done (hf _ h)
  | @close opened d inner rest hin hrest =>
    rw [← List.append_assoc]
    exact .close (hf _ hin) hrest

theorem closing_of_passes (h : Passes o opened text left) (hl : left = []) :
    Closing o opened text := by
  induction h with
  | nil => subst hl; exact .done .nil
  | plain hc _ ih => exact closing_of_prepend [_] (fun _ => .plain hc) (ih hl)
  | @opens opened left d text hu hn _ ih =>
    -- the text up to the closer of `d` becomes a group in front of the rest
    cases ih hl with
    | @close _ _ inner rest hin hrest =>
      have hgroup : Closing o opened ((d.opener :: inner ++ [d.closer]) ++ rest) :=
        closing_of_prepend _ (fun rest h => by simpa using nested_group hu hn hin h) hrest
      simpa using hgroup
  | @closes opened left d text _ _ ih =>
    -- the closer of `d` comes at once, with the empty text before it
    have hclose : Closing o (d :: opened) ([] ++ d.closer :: text) := .close .nil (ih hl)
    exact hclose

/-- **The grammar describes the texts that pass.** -/
theorem passes_iff_nested : Passes o [] text [] ↔ Nested o [] text := by
  constructor
  · intro h
    cases closing_of_passes h rfl with
    | done h => exact h
  · intro h
    exact passes_of_nested h (by simp)

theorem chars_eq_self_iff_nested (o : Options) (text : List Char) :
    chars o text = text ↔ Nested o [] text :=
  (chars_eq_self_iff o text).trans passes_iff_nested

/-- Whether a text nests is decided by repairing it. -/
instance (o : Options) (text : List Char) : Decidable (Nested o [] text) :=
  decidable_of_iff (chars o text = text) (chars_eq_self_iff_nested o text)

end Repair

/-! ## At the top -/

/-- **The texts that a repair leaves alone are exactly those of the grammar.** -/
theorem repair_eq_self_iff (o : Options) (text : String) :
    repair o text = text ↔ Repair.Nested o [] text.toList := by
  rw [← Repair.chars_eq_self_iff_nested, ← String.toList_inj, toList_repair]

/-- Quotes of two kinds may stand in each other, but not reach over each other. -/
example : Repair.Nested ⟨true⟩ [] "\"'so'\"".toList
    ∧ ¬ Repair.Nested ⟨true⟩ [] "\"it's\"".toList := by decide

end SearchQuery
