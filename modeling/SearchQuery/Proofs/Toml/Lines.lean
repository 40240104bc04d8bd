import SearchQuery.Proofs.Toml.Comments

/-!
# Documents line by line

A document in plain style has one thing on a line: a comment or nothing, the header of a table, or
a setting with a bare key and a value that is a truth value or a simple string. `Line` is such a
line, and `Line.add` is what it does to the document that has been read so far. The reader does
just that (`run_line`), so it reads a whole document in plain style by adding line after line
(`read_lines`).

A lemma `run_x` says again where the reading `x` ends when it starts at a given place. The places
matter here since keys and values remember them.
-/

namespace SearchQuery.Toml

/-! ## Plain style -/

/-- A value in plain style. -/
inductive Literal where
  | boolean (value : Bool)
  | string (text : String)

namespace Literal

def text : Literal → List Char
  | boolean value => (if value then "true" else "false").toList
  | string text => '"' :: text.toList ++ ['"']

def value : Literal → Value
  | boolean value => .boolean value
  | string text => .string text

/-- Whether a character stands for itself between double quotes. -/
def isSimple (c : Char) : Bool := StringForm.isPlain c && c ≠ '"' && c ≠ '\\'

/-- The string needs no escapes. -/
def Plain : Literal → Prop
  | boolean _ => True
  | string text => text.toList.all isSimple = true

theorem isSimple_iff {c : Char} :
    isSimple c = true ↔ StringForm.isPlain c = true ∧ c ≠ '"' ∧ c ≠ '\\' := by
  simp [isSimple, and_assoc]

end Literal

/-- The name needs no quotes. -/
structure IsBareName (name : String) : Prop where
  nonempty : name.toList ≠ []
  bare : name.toList.all Reading.isBare = true

/-- A line in plain style. -/
inductive Line where
  | idle (text : List Char)
  | header (name : String)
  | setting (name : String) (literal : Literal)

namespace Line

/-- The line without the line break at its end. -/
def text : Line → List Char
  | idle text => text
  | header name => '[' :: name.toList ++ [']']
  | setting name literal => name.toList ++ " = ".toList ++ literal.text

def Plain : Line → Prop
  | idle text => IsIdleLine text
  | header name => IsBareName name
  | setting name literal => IsBareName name ∧ literal.Plain

/-- What the line does to a document if it starts at position `n`. -/
def add (n : Nat) (d : Reading.Draft) : Line → Option Reading.Draft
  | idle _ => some d
  | header name =>
    let key : Key := ⟨name, ⟨n + 1, n + 1 + name.toList.length⟩⟩
    let span : Span := ⟨n, n + 1 + name.toList.length + 1⟩
    (d.entries.addHeader [] key span).map fun entries => ⟨entries, [key]⟩
  | setting name literal =>
    let key : Key := ⟨name, ⟨n, n + name.toList.length⟩⟩
    let start := n + name.toList.length + 1 + 1 + 1
    let span : Span := ⟨start, start + literal.text.length⟩
    (d.entries.descend false (Entries.addSetting [] key span literal.value) d.header .header).map
      fun entries => ⟨entries, d.header⟩

end Line

/-- What lines one after the other do to a document, from position `n`. -/
def addLines (n : Nat) (d : Reading.Draft) : List Line → Option Reading.Draft
  | [] => some d
  | line :: lines => (line.add n d).bind fun d' => addLines (n + line.text.length + 1) d' lines

/-- The text of some lines. -/
def linesText (lines : List Line) : List Char := lines.flatMap fun line => line.text ++ ['\n']

theorem linesText_cons (line : Line) (lines : List Line) :
    linesText (line :: lines) = line.text ++ '\n' :: linesText lines := by
  simp [linesText]

theorem length_le_linesText (lines : List Line) : lines.length ≤ (linesText lines).length := by
  induction lines with
  | nil => exact Nat.le_refl _
  | cons line lines ih =>
    rw [linesText_cons, List.length_append, List.length_cons, List.length_cons]
    omega

namespace Reading

variable {n : Nat} {c : Char} {rest : List Char} {name : String} {literal : Literal} {line : Line}
  {lines : List Line} {d d' : Draft}

/-! ## Stretches of characters -/

theorem takeWhile_stretch {test : Char → Bool} {stretch : List Char}
    (hstretch : stretch.all test = true) (hrest : ∀ c ∈ rest.head?, test c = false) :
    (stretch ++ rest).takeWhile test = stretch := by
  rw [List.takeWhile_append_of_pos (List.all_eq_true.mp hstretch)]
  cases rest with
  | nil => exact List.append_nil _
  | cons c rest =>
    have hc : ¬ test c = true := by simp [hrest c rfl]
    rw [List.takeWhile_cons_of_neg hc, List.append_nil]

theorem run_get (c : Cursor) : (get : Reading Cursor).run c = .ok (c, c) := rfl

theorem run_next : peek?.run ⟨n, c :: rest⟩ = .ok (some c, ⟨n, c :: rest⟩) := rfl

theorem run_skip_one : (skip 1).run ⟨n, c :: rest⟩ = .ok ((), ⟨n + 1, rest⟩) := rfl

theorem run_takeWhile {test : Char → Bool} {stretch : List Char}
    (hstretch : stretch.all test = true) (hrest : ∀ c ∈ rest.head?, test c = false) :
    (takeWhile test).run ⟨n, stretch ++ rest⟩ = .ok (stretch, ⟨n + stretch.length, rest⟩) := by
  unfold takeWhile
  rw [run_bind_ok (run_get _)]
  dsimp only
  rw [takeWhile_stretch hstretch hrest, run_bind_ok (run_skip _ _), List.drop_left]
  rfl

/-- A single blank is skipped where none follows. -/
theorem run_skipBlanks_space (h : ∀ c ∈ rest.head?, c ≠ ' ' ∧ c ≠ '\t') :
    skipBlanks.run ⟨n, ' ' :: rest⟩ = .ok ((), ⟨n + 1, rest⟩) := by
  have hspace : [' '].all (fun c => c = ' ' || c = '\t') = true := by decide
  have hrest : ∀ c ∈ rest.head?, (decide (c = ' ') || decide (c = '\t')) = false := by
    intro c hc
    simp [h c hc]
  have hrun := run_takeWhile (n := n) hspace hrest
  unfold skipBlanks
  rw [← List.singleton_append, run_bind_ok hrun]
  rfl

theorem run_expect {otherwise : Problem} :
    (expect c otherwise).run ⟨n, c :: rest⟩ = .ok ((), ⟨n + 1, rest⟩) := by
  unfold expect
  rw [run_bind_ok run_next, if_pos rfl, run_skip_one]

/-! ## Keys -/

/-- A bare name starts with none of the signs. -/
theorem head?_bareName (h : IsBareName name) (hc : isBare c = false) :
    (name.toList ++ rest).head? ≠ some c := by
  obtain ⟨first, others, hname⟩ := List.exists_cons_of_ne_nil h.nonempty
  have hfirst : isBare first = true := List.all_eq_true.mp h.bare first (hname ▸ List.mem_cons_self)
  rw [hname]
  intro heq
  obtain rfl : first = c := Option.some.inj heq
  rw [hfirst] at hc
  cases hc

theorem run_skipBlanks_bareName (h : IsBareName name) :
    skipBlanks.run ⟨n, name.toList ++ rest⟩ = .ok ((), ⟨n, name.toList ++ rest⟩) := by
  refine run_skipBlanks fun c hc => ⟨?_, ?_⟩
  · rintro rfl
    exact head?_bareName h (by decide) hc
  · rintro rfl
    exact head?_bareName h (by decide) hc

theorem run_simpleKey (h : IsBareName name) (hrest : ∀ c ∈ rest.head?, isBare c = false) :
    simpleKey.run ⟨n, name.toList ++ rest⟩
      = .ok (⟨name, ⟨n, n + name.toList.length⟩⟩, ⟨n + name.toList.length, rest⟩) := by
  have hrun := run_takeWhile (n := n) h.bare hrest
  have hempty : ¬ name.toList.isEmpty = true := by simpa using h.nonempty
  unfold simpleKey
  rw [run_bind_ok (run_get _), run_bind_ok (run_get _)]
  dsimp only
  split
  · rename_i heq
    exact absurd (congrArg List.head? heq) (head?_bareName h (by decide))
  · rename_i heq
    exact absurd (congrArg List.head? heq) (head?_bareName h (by decide))
  · rw [run_bind_ok hrun, if_neg hempty, pure_bind, run_bind_ok (run_get _), String.ofList_toList]
    rfl

/-- A path of one key, with the blanks that stand after it. -/
theorem run_keyPath (h : IsBareName name) {m : Nat} {after : List Char}
    (hrest : ∀ c ∈ rest.head?, isBare c = false)
    (hblanks : skipBlanks.run ⟨n + name.toList.length, rest⟩ = .ok ((), ⟨m, after⟩))
    (hafter : after.head? ≠ some '.') :
    keyPath.run ⟨n, name.toList ++ rest⟩
      = .ok (([], ⟨name, ⟨n, n + name.toList.length⟩⟩), ⟨m, after⟩) := by
  -- no dot follows, so the path ends at its first key, however far it might have gone on
  have hwithin : ∀ fuel, (keyPathWithin (fuel + 1)).run ⟨n, name.toList ++ rest⟩
      = .ok (([], ⟨name, ⟨n, n + name.toList.length⟩⟩), ⟨m, after⟩) := by
    intro fuel
    rw [keyPathWithin, run_bind_ok (run_simpleKey h hrest), run_bind_ok hblanks,
      run_bind_ok (run_peek? _), if_neg hafter]
    rfl
  unfold keyPath
  rw [run_bind_ok (run_get _), run_bind_ok (hwithin _)]
  rfl

/-! ## Values -/

theorem run_scalar {word : List Char} {v : Value} (hword : word.all isRun = true)
    (hv : Scalar.ofRun? word = some v) (hne : word ≠ []) :
    scalar.run ⟨n, word ++ '\n' :: rest⟩ = .ok (v, ⟨n + word.length, '\n' :: rest⟩) := by
  have hline : ∀ c ∈ ('\n' :: rest).head?, isRun c = false := by
    intro c hc
    obtain rfl := Option.some.inj hc
    decide
  have hskip := run_skip word.length ⟨n, word ++ '\n' :: rest⟩
  rw [List.drop_left] at hskip
  have hempty : ¬ word.isEmpty = true := by simpa using hne
  unfold scalar
  rw [run_bind_ok (run_get _), run_bind_ok (run_get _)]
  -- a date would need a blank after it
  simp only [takeWhile_stretch hword hline, List.drop_left]
  split
  · rename_i heq
    cases heq
  · rw [List.append_nil, if_neg hempty, hv]
    dsimp only
    rw [run_bind_ok hskip]
    rfl

/-- A string without escapes ends at the first quote. -/
theorem body?_plain {text : List Char}
    (h : text.all Literal.isSimple = true) :
    StringForm.body? ⟨'"', true, false⟩ .text (text ++ '"' :: rest) = some (text, rest) := by
  induction text with
  | nil => rfl
  | cons c text ih =>
    rw [List.all_cons, Bool.and_eq_true, Literal.isSimple_iff] at h
    obtain ⟨⟨hplain, hquote, hslash⟩, htext⟩ := h
    have hstep : StringForm.step ⟨'"', true, false⟩ .text c (text ++ '"' :: rest)
        = .go [c] .text := by
      simp [StringForm.step, StringForm.textStep, hplain, hquote, hslash]
    rw [List.cons_append, StringForm.body?, hstep]
    dsimp only
    rw [ih htext]
    rfl

theorem string?_plain {text : List Char}
    (h : text.all Literal.isSimple = true) :
    string? ('"' :: (text ++ '"' :: '\n' :: rest)) = some (text, '\n' :: rest) := by
  -- two more quotes at the start would make it a string on several lines
  have hsingle : ∀ more, text ++ '"' :: '\n' :: rest = '"' :: '"' :: more → False := by
    intro more heq
    cases text with
    | nil => cases heq
    | cons c text =>
      have hc := Literal.isSimple_iff.mp (List.all_eq_true.mp h c List.mem_cons_self)
      exact hc.2.1 (List.cons.inj heq).1
  rw [string?]
  · exact body?_plain h
  · exact hsingle

theorem run_stringBody {content after : List Char} :
    (stringBody (some (content, after))).run ⟨n, rest⟩
      = .ok (String.ofList content, ⟨n + (rest.length - after.length), after⟩) := rfl

theorem run_value_string {text : String} (h : (Literal.string text).Plain) (fuel depth : Nat) :
    (valueWithin (fuel + 1) depth).run ⟨n, (Literal.string text).text ++ '\n' :: rest⟩
      = .ok ((⟨n, n + (Literal.string text).text.length⟩, .string text),
          ⟨n + (Literal.string text).text.length, '\n' :: rest⟩) := by
  have htext : (Literal.string text).text ++ '\n' :: rest
      = '"' :: (text.toList ++ '"' :: '\n' :: rest) := by
    simp [Literal.text]
  have hlength : ('"' :: (text.toList ++ '"' :: '\n' :: rest)).length - ('\n' :: rest).length
      = (Literal.string text).text.length := by
    simp [Literal.text]
    omega
  rw [htext, valueWithin, run_bind_ok (run_get _), run_bind_ok run_next]
  dsimp only
  rw [if_pos (by decide), run_bind_ok (run_get _)]
  dsimp only
  rw [string?_plain h, run_bind_ok run_stringBody, hlength, String.ofList_toList]
  rfl

/-- A value that starts with no quote, bracket or brace is one word. -/
theorem run_value_scalar {v : Value} {m : Nat} {after : List Char}
    (hc : c ∉ ['"', '\x27', '[', '\x7b'])
    (hscalar : scalar.run ⟨n, c :: rest⟩ = .ok (v, ⟨m, after⟩)) (fuel depth : Nat) :
    (valueWithin (fuel + 1) depth).run ⟨n, c :: rest⟩ = .ok ((⟨n, m⟩, v), ⟨m, after⟩) := by
  simp only [List.mem_cons, List.not_mem_nil, or_false, not_or] at hc
  obtain ⟨hquote, hapostrophe, hbracket, hbrace⟩ := hc
  have hstring : ¬ (decide (c = '"') || decide (c = '\x27')) = true := by
    simp [hquote, hapostrophe]
  rw [valueWithin, run_bind_ok (run_get _), run_bind_ok run_next]
  dsimp only
  rw [if_neg hstring, if_neg hbracket, if_neg hbrace, run_bind_ok hscalar]
  rfl

theorem run_value (h : literal.Plain) :
    value.run ⟨n, literal.text ++ '\n' :: rest⟩
      = .ok ((⟨n, n + literal.text.length⟩, literal.value),
          ⟨n + literal.text.length, '\n' :: rest⟩) := by
  unfold value
  rw [run_bind_ok (run_get _)]
  cases literal with
  | string text => exact run_value_string h _ _
  | boolean b =>
    have hscalar : scalar.run ⟨n, (Literal.boolean b).text ++ '\n' :: rest⟩
        = .ok (.boolean b, ⟨n + (Literal.boolean b).text.length, '\n' :: rest⟩) := by
      cases b <;> exact run_scalar (by decide) rfl (by decide)
    -- both words start with a letter, so neither a string nor a table is tried
    cases b <;> exact run_value_scalar (by decide) hscalar _ _

/-! ## Lines -/

theorem run_header (h : IsBareName name) (hadd : (Line.header name).add n d = some d') :
    (header d).run ⟨n, (Line.header name).text ++ rest⟩
      = .ok (d', ⟨n + (Line.header name).text.length, rest⟩) := by
  obtain ⟨entries, hentries, rfl⟩ := Option.map_eq_some_iff.mp hadd
  have htext : (Line.header name).text ++ rest = '[' :: (name.toList ++ ']' :: rest) := by
    simp [Line.text]
  have hlength : n + (Line.header name).text.length = n + 1 + name.toList.length + 1 := by
    simp [Line.text]
    omega
  have hsingle : (name.toList ++ ']' :: rest).head? ≠ some '[' := head?_bareName h (by decide)
  have hkey : keyPath.run ⟨n + 1, name.toList ++ ']' :: rest⟩
      = .ok (([], ⟨name, ⟨n + 1, n + 1 + name.toList.length⟩⟩),
          ⟨n + 1 + name.toList.length, ']' :: rest⟩) := by
    refine run_keyPath h ?_ (run_skipBlanks ?_) (by simp) <;> simp [isBare]
  unfold header
  rw [htext, hlength, run_bind_ok (run_get _), run_bind_ok run_skip_one, run_bind_ok (run_peek? _)]
  dsimp only
  rw [if_neg hsingle, run_bind_ok (run_skipBlanks_bareName h), run_bind_ok hkey,
    run_bind_ok run_expect, if_neg hsingle, run_bind_ok (run_get _)]
  dsimp only
  rw [if_neg hsingle, hentries]
  rfl

theorem run_setting (h : IsBareName name) (hliteral : literal.Plain)
    (hadd : (Line.setting name literal).add n d = some d') :
    (setting d).run ⟨n, (Line.setting name literal).text ++ '\n' :: rest⟩
      = .ok (d', ⟨n + (Line.setting name literal).text.length, '\n' :: rest⟩) := by
  obtain ⟨entries, hentries, rfl⟩ := Option.map_eq_some_iff.mp hadd
  have htext : (Line.setting name literal).text ++ '\n' :: rest
      = name.toList ++ ' ' :: '=' :: ' ' :: (literal.text ++ '\n' :: rest) := by
    simp [Line.text]
  have hlength : n + (Line.setting name literal).text.length
      = n + name.toList.length + 1 + 1 + 1 + literal.text.length := by
    simp [Line.text]
    omega
  have hkey : keyPath.run ⟨n, name.toList ++ ' ' :: '=' :: ' ' :: (literal.text ++ '\n' :: rest)⟩
      = .ok (([], ⟨name, ⟨n, n + name.toList.length⟩⟩),
          ⟨n + name.toList.length + 1, '=' :: ' ' :: (literal.text ++ '\n' :: rest)⟩) := by
    refine run_keyPath h ?_ (run_skipBlanks_space ?_) (by simp) <;> simp [isBare]
  -- no second blank stands before the value, which starts with a quote or a letter
  have hblanks : ∀ c ∈ (literal.text ++ '\n' :: rest).head?, c ≠ ' ' ∧ c ≠ '\t' := by
    intro c hc
    cases literal with
    | string text =>
      obtain rfl : '"' = c := Option.some.inj hc
      decide
    | boolean b =>
      cases b with
      | true =>
        obtain rfl : 't' = c := Option.some.inj hc
        decide
      | false =>
        obtain rfl : 'f' = c := Option.some.inj hc
        decide
  unfold setting
  rw [htext, hlength, run_bind_ok hkey, run_bind_ok run_expect,
    run_bind_ok (run_skipBlanks_space hblanks), run_bind_ok (run_value hliteral)]
  dsimp only
  rw [hentries]
  rfl

/-- **A line does what it says**, and the reading goes on after it. -/
theorem run_line (h : line.Plain) (hadd : line.add n d = some d') (fuel : Nat) :
    (linesWithin (fuel + 1) d).run ⟨n, line.text ++ '\n' :: rest⟩
      = (linesWithin fuel d').run ⟨n + line.text.length + 1, rest⟩ := by
  have hend : ∀ m, endLine.run ⟨m, '\n' :: rest⟩ = .ok ((), ⟨m + 1, rest⟩) :=
    fun m => run_endLine ⟨.inl rfl, by simp⟩
  rw [linesWithin]
  cases line with
  | idle text =>
    cases hadd
    obtain ⟨first, hfirst, heq⟩ := head?_idleLine h rest
    -- neither a comment sign nor a line break starts a setting or a header
    have hidle : (decide (first = '#') || decide (first = '\n') || decide (first = '\r')) := by
      rcases heq with rfl | rfl <;> decide
    rw [Line.text, run_bind_ok (run_skipBlanks_idleLine h), run_bind_ok (run_peek? _), hfirst]
    dsimp only
    rw [if_pos hidle, pure_bind, run_bind_ok (run_endLine h)]
  | header name =>
    have hblanks : skipBlanks.run ⟨n, (Line.header name).text ++ '\n' :: rest⟩
        = .ok ((), ⟨n, (Line.header name).text ++ '\n' :: rest⟩) := by
      refine run_skipBlanks fun c hc => ?_
      obtain rfl : '[' = c := Option.some.inj hc
      decide
    have hhead : peek?.run ⟨n, (Line.header name).text ++ '\n' :: rest⟩
        = .ok (some '[', ⟨n, (Line.header name).text ++ '\n' :: rest⟩) := rfl
    rw [run_bind_ok hblanks, run_bind_ok hhead]
    dsimp only
    rw [if_neg (by decide), if_pos rfl, run_bind_ok (run_header h hadd), run_bind_ok (hend _)]
  | setting name literal =>
    obtain ⟨hname, hliteral⟩ := h
    have htext : (Line.setting name literal).text ++ '\n' :: rest
        = name.toList ++ (" = ".toList ++ literal.text ++ '\n' :: rest) := by
      simp [Line.text]
    have hblanks : skipBlanks.run ⟨n, (Line.setting name literal).text ++ '\n' :: rest⟩
        = .ok ((), ⟨n, (Line.setting name literal).text ++ '\n' :: rest⟩) := by
      rw [htext]
      exact run_skipBlanks_bareName hname
    have hhead : ∀ c, isBare c = false →
        ((Line.setting name literal).text ++ '\n' :: rest).head? ≠ some c := by
      intro c hc
      rw [htext]
      exact head?_bareName hname hc
    cases hfirst : ((Line.setting name literal).text ++ '\n' :: rest).head? with
    | none => exact absurd (List.head?_eq_none_iff.mp hfirst) (by simp)
    | some first =>
      -- a bare name starts with none of the signs by which a line is told to be something else
      have hsign : ∀ c, isBare c = false → first ≠ c := by
        rintro c hc rfl
        exact hhead first hc hfirst
      have hidle : ¬ (decide (first = '#') || decide (first = '\n') || decide (first = '\r')) := by
        simp [hsign '#' (by decide), hsign '\n' (by decide), hsign '\r' (by decide)]
      rw [run_bind_ok hblanks, run_bind_ok (run_peek? _), hfirst]
      dsimp only
      rw [if_neg hidle, if_neg (hsign '[' (by decide)),
        run_bind_ok (run_setting hname hliteral hadd), run_bind_ok (hend _)]

/-- **Lines do what they say**, one after the other. -/
theorem run_lines (h : ∀ line ∈ lines, line.Plain) (hadd : addLines n d lines = some d')
    {fuel : Nat} (hfuel : lines.length ≤ fuel) :
    ∃ c, (linesWithin (fuel + 1) d).run ⟨n, linesText lines⟩ = .ok (d', c) := by
  induction lines generalizing n d fuel with
  | nil =>
    cases hadd
    exact ⟨_, rfl⟩
  | cons line lines ih =>
    obtain ⟨hline, hlines⟩ := List.forall_mem_cons.mp h
    obtain ⟨d₁, hd₁, hadd⟩ := Option.bind_eq_some_iff.mp hadd
    cases fuel with
    | zero => cases hfuel
    | succ fuel =>
      obtain ⟨c, hc⟩ := ih hlines hadd (Nat.le_of_succ_le_succ hfuel)
      refine ⟨c, ?_⟩
      rw [linesText_cons, run_line hline hd₁, hc]

end Reading

theorem head?_linesText {lines : List Line} (h : ∀ line ∈ lines, line.Plain) :
    (linesText lines).head? ≠ some '\ufeff' := by
  cases lines with
  | nil => simp [linesText]
  | cons line lines =>
    have hline := h line List.mem_cons_self
    rw [linesText_cons]
    cases line with
    | idle text =>
      obtain ⟨first, hfirst, heq⟩ := Reading.head?_idleLine hline (linesText lines)
      rw [Line.text, hfirst]
      rcases heq with rfl | rfl <;> decide
    | header name => exact fun heq => absurd (Option.some.inj heq) (by decide)
    | setting name literal =>
      rw [Line.text, List.append_assoc, List.append_assoc]
      exact Reading.head?_bareName hline.1 (by decide)

/-- **A document in plain style is read by adding its lines.** -/
theorem read_lines {lines : List Line} {d : Reading.Draft} (h : ∀ line ∈ lines, line.Plain)
    (hadd : addLines 0 ⟨[], []⟩ lines = some d) : read (linesText lines) = .ok d.entries := by
  obtain ⟨c, hc⟩ := Reading.run_lines h hadd (length_le_linesText lines)
  have hdocument : Reading.document.run ⟨0, linesText lines⟩ = .ok (d.entries, c) := by
    unfold Reading.document
    rw [Reading.run_bind_ok (Reading.run_peek? _), if_neg (head?_linesText h)]
    dsimp only
    rw [Reading.run_bind_ok (Reading.run_get _), Reading.run_bind_ok hc]
    rfl
  unfold read
  rw [StateT.run'_eq, hdocument]
  rfl

theorem addLines_idle (n : Nat) (d : Reading.Draft) (lines : List (List Char)) :
    addLines n d (lines.map Line.idle) = some d := by
  induction lines generalizing n with
  | nil => rfl
  | cons line lines ih => exact ih _

/-- **A document of idle lines has no entries.** -/
theorem read_idleLines {lines : List (List Char)} (h : ∀ line ∈ lines, IsIdleLine line) :
    read (lines.flatMap (· ++ ['\n'])) = .ok [] := by
  have hplain : ∀ line ∈ lines.map Line.idle, line.Plain := by
    intro line hline
    obtain ⟨text, htext, rfl⟩ := List.mem_map.mp hline
    exact h text htext
  have htext : linesText (lines.map Line.idle) = lines.flatMap (· ++ ['\n']) :=
    List.flatMap_map _ _ lines
  rw [← htext]
  exact read_lines hplain (addLines_idle 0 ⟨[], []⟩ lines)

end SearchQuery.Toml
