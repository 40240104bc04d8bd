import SearchQuery.Proofs.Terminal.Painting
import SearchQuery.Terminal.Highlight

/-!
# A document in colour is cut and not changed

A document is shown in colour line by line. A `LineCutter` cuts each line into stretches, with
what it remembers of the lines before, and every stretch is written after its colour. How the
lines are cut and coloured is a matter of taste; that nothing is lost, repeated or moved is not.
All that it takes is that the stretches of each line make up the line, which is
`LineCutter.Tiles`: then deleting the colours gives the document back, whatever the cutter
remembers and wherever it gives up (`LineCutter.shows_highlight`).

The cutters at work here tile. Of the one for JSON that is an induction along the line in the
steps in which it is cut, and nothing has to be known of the levels: each token takes the
characters that it takes, and the cutting goes on behind them (`JsonPieces.flatMap_text_cut`).
-/

namespace SearchQuery.Terminal

variable {text : List Char} {lines : List (List Char)}

/-! ## Lines -/

/-- Lines with their ends make up the text. -/
theorem flatten_linesWithEnds (text : List Char) : (linesWithEnds text).flatten = text := by
  induction text with
  | nil => rfl
  | cons c rest ih =>
    rw [linesWithEnds]
    by_cases hc : c = '\n'
    · rw [if_pos hc, List.flatten_cons, ih]
      rfl
    · rw [if_neg hc]
      cases hlines : linesWithEnds rest with
      | nil =>
        rw [hlines] at ih
        rw [← ih]
        rfl
      | cons line lines =>
        rw [hlines, List.flatten_cons] at ih
        dsimp only
        rw [List.flatten_cons, List.cons_append, ih]

theorem not_mem_line {c : Char} (h : c ∉ text) : ∀ line ∈ linesWithEnds text, c ∉ line := by
  intro line hline hmem
  rw [← flatten_linesWithEnds text] at h
  exact h (List.mem_flatten.mpr ⟨line, hline, hmem⟩)

/-! ## Stretches -/

/-- A colour by its red, green and blue parts. -/
structure Rgb where
  red : UInt8
  green : UInt8
  blue : UInt8
  deriving DecidableEq, Repr

/-- The parameters of the sequence for a colour. -/
def Rgb.parameters (c : Rgb) : String :=
  "38;2;" ++ toString c.red ++ ";" ++ toString c.green ++ ";" ++ toString c.blue

/-- A stretch of a line with its colour. -/
structure Stretch where
  color : Rgb
  text : List Char
  deriving DecidableEq, Repr

/-- A stretch after its colour. -/
def Stretch.render (s : Stretch) : String :=
  "\x1b[" ++ s.color.parameters ++ "m" ++ String.ofList s.text

theorem isParameter_of_isDigit {c : Char} (h : c.isDigit = true) : isParameter c = true := by
  simp only [Char.isDigit, Bool.and_eq_true, decide_eq_true_eq] at h
  simp only [isParameter, Sequence.between, Bool.and_eq_true, decide_eq_true_eq]
  have hlow : 48 ≤ c.toNat := h.1
  have hhigh : c.toNat ≤ 57 := h.2
  omega

theorem isParameter_of_mem_toString {n : UInt8} :
    ∀ c ∈ (toString n).toList, isParameter c = true := by
  intro c hc
  have hdigits : (toString n).toList = Nat.toDigits 10 n.toNat := String.toList_ofList
  rw [hdigits] at hc
  exact isParameter_of_isDigit (Nat.isDigit_of_mem_toDigits (by decide) (by decide) hc)

theorem Rgb.isParameter_of_mem (color : Rgb) :
    ∀ c ∈ color.parameters.toList, isParameter c = true := by
  have hstart : ∀ c ∈ "38;2;".toList, isParameter c = true := List.all_eq_true.mp (by decide)
  have hbetween : ∀ c ∈ ";".toList, isParameter c = true := List.all_eq_true.mp (by decide)
  intro c hc
  simp only [parameters, String.toList_append, List.mem_append] at hc
  rcases hc with ((((hc | hc) | hc) | hc) | hc) | hc
  · exact hstart c hc
  · exact isParameter_of_mem_toString c hc
  · exact hbetween c hc
  · exact isParameter_of_mem_toString c hc
  · exact hbetween c hc
  · exact isParameter_of_mem_toString c hc

/-- A stretch shows its text. -/
theorem Stretch.shows_render (s : Stretch) (h : '\x1b' ∉ s.text) :
    Shows s.render (String.ofList s.text) := by
  have hcolor : Shows ("\x1b[" ++ s.color.parameters ++ "m") "" :=
    shows_sequence s.color.isParameter_of_mem
  have htext : Shows (String.ofList s.text) (String.ofList s.text) :=
    shows_self (by rwa [String.toList_ofList])
  have hboth := hcolor.append htext
  rwa [String.empty_append] at hboth

/-- Stretches show the line that they make up. -/
theorem shows_stretches (stretches : List Stretch) (h : '\x1b' ∉ stretches.flatMap Stretch.text) :
    Shows (String.join (stretches.map Stretch.render))
      (String.ofList (stretches.flatMap Stretch.text)) := by
  induction stretches with
  | nil => exact shows_self (by decide)
  | cons s stretches ih =>
    rw [List.flatMap_cons, List.mem_append, not_or] at h
    rw [List.map_cons, String.join_cons, List.flatMap_cons, String.ofList_append]
    exact (s.shows_render h.1).append (ih h.2)

/-! ## Cutters -/

/--
What cuts the lines of a document, one after the other. It remembers something from line to line,
and it may give up on a line, which is then one stretch in the colour for that.
-/
structure LineCutter where
  State : Type
  start : State
  /-- The stretches of a line. -/
  cut? : State → List Char → Option (List Stretch)
  /-- What is remembered behind a line. -/
  next : State → List Char → State
  fallback : Rgb

namespace LineCutter

/-- The stretches that a line is shown in. -/
def stretches (c : LineCutter) (s : c.State) (line : List Char) : List Stretch :=
  (c.cut? s line).getD [⟨c.fallback, line⟩]

/-- The lines of a document in colour. -/
def paint (c : LineCutter) (s : c.State) : List (List Char) → String
  | [] => ""
  | line :: lines =>
    String.join ((c.stretches s line).map Stretch.render) ++ c.paint (c.next s line) lines

/-- A document in colour. -/
def highlight (c : LineCutter) (content : String) : String :=
  c.paint c.start (linesWithEnds content.toList) ++ Code.reset.sequence

/-- The stretches of a line make up the line. -/
def Tiles (c : LineCutter) : Prop :=
  ∀ s line stretches, c.cut? s line = some stretches → stretches.flatMap Stretch.text = line

variable {c : LineCutter}

theorem Tiles.flatMap_text (h : c.Tiles) (s : c.State) (line : List Char) :
    (c.stretches s line).flatMap Stretch.text = line := by
  unfold stretches
  cases hcut : c.cut? s line with
  -- a line on which the cutter gives up is shown whole
  | none => exact List.append_nil line
  | some stretches => exact h s line stretches hcut

theorem Tiles.shows_paint (h : c.Tiles) (s : c.State) (hlines : ∀ line ∈ lines, '\x1b' ∉ line) :
    Shows (c.paint s lines) (String.ofList lines.flatten) := by
  induction lines generalizing s with
  | nil =>
    have hnone : '\x1b' ∉ "".toList := by decide
    exact shows_self hnone
  | cons line lines ih =>
    -- what the cutter remembers is another state for the next line, which the induction allows
    obtain ⟨hline, hlines⟩ := List.forall_mem_cons.mp hlines
    have hfirst : Shows (String.join ((c.stretches s line).map Stretch.render))
        (String.ofList line) := by
      have htext := h.flatMap_text s line
      have hshows := shows_stretches (c.stretches s line) (by rwa [htext])
      rwa [htext] at hshows
    rw [paint, List.flatten_cons, String.ofList_append]
    exact hfirst.append (ih (c.next s line) hlines)

/-- **A document in colour shows the document**, if the lines are cut without loss and all escape
characters come from the colours. -/
theorem Tiles.shows_highlight (h : c.Tiles) {content : String} (hescape : '\x1b' ∉ content.toList) :
    Shows (c.highlight content) content := by
  have hpainted := h.shows_paint c.start (not_mem_line hescape)
  rw [flatten_linesWithEnds, String.ofList_toList] at hpainted
  have hall := hpainted.append (shows_code .reset)
  rwa [String.append_empty] at hall

end LineCutter

/-! ## The pieces of JSON make up their line -/

/-- Attaching a token adds its characters in front. -/
theorem JsonPieces.flatMap_text_attach (t : JsonPieces.Token) (word : List Char)
    (pieces : List (Piece × Bool)) :
    ((attach t word pieces).map Prod.fst).flatMap Piece.text
      = word ++ (pieces.map Prod.fst).flatMap Piece.text := by
  unfold attach
  split
  · rename_i p more
    by_cases hjoin : (t.isLoose && p.kind = t.kind) = true
    · -- joined to the piece in front of it or not, the word comes first
      rw [if_pos hjoin]
      simp only [List.map_cons, List.flatMap_cons, List.append_assoc]
    · rw [if_neg hjoin]
      simp only [List.map_cons, List.flatMap_cons]
  · simp only [List.map_cons, List.flatMap_cons]

/-- **Cutting a line of JSON loses nothing of it**, whatever is open and whatever stands there. -/
theorem JsonPieces.flatMap_text_cut (levels : List JsonPieces.Level) (previous : Option Char)
    (line : List Char) :
    ((cut levels previous line).1.map Prod.fst).flatMap Piece.text = line := by
  induction levels, previous, line using cut.induct with
  | case1 levels previous =>
    rw [cut]
    rfl
  | case2 levels previous c rest t word _ _ _ ih =>
    -- the token has taken some characters, one at least, and the cutting goes on behind them
    rw [cut]
    dsimp only
    rw [flatMap_text_attach, ih, List.cons_append, List.take_append_drop]

/-! ## The pieces of TOML make up their line -/

namespace TomlPieces

theorem flatMap_text_piece? (kind : PieceKind) (text : List Char) :
    (piece? kind text).flatMap Piece.text = text := by
  cases text with
  | nil => rfl
  | cons c text => exact List.append_nil (c :: text)

/-- A mark, what stands before the next one, and the next one with all behind it. -/
theorem flatMap_text_enclosed (kind : PieceKind) (mark : Char) (inside : Char → Bool)
    (rest : List Char) :
    (⟨kind, [mark]⟩ :: piece? kind (rest.takeWhile inside) ++
      match rest.dropWhile inside with
      | [] => []
      | next :: more => ⟨kind, [next]⟩ :: piece? .plain more).flatMap Piece.text
      = mark :: rest := by
  -- the cut is at the next mark, and both sides of it are kept
  have hrest : rest.takeWhile inside ++ rest.dropWhile inside = rest :=
    List.takeWhile_append_dropWhile
  rw [List.flatMap_append, List.flatMap_cons, flatMap_text_piece?]
  cases hafter : rest.dropWhile inside with
  | nil =>
    rw [hafter, List.append_nil] at hrest
    rw [hrest]
    exact List.append_nil _
  | cons next more =>
    rw [hafter] at hrest
    dsimp only
    rw [List.flatMap_cons, flatMap_text_piece?, List.append_assoc]
    exact congrArg (mark :: ·) hrest

theorem flatMap_text_value (text : List Char) : (value text).flatMap Piece.text = text := by
  unfold value
  split
  · exact flatMap_text_enclosed .stringText '"' _ _
  · exact flatMap_text_piece? .constant _

theorem flatMap_text_contents (line : List Char) :
    (contents line).flatMap Piece.text = line := by
  unfold contents
  split
  · rfl
  · rename_i rest
    rw [List.flatMap_cons, flatMap_text_piece?]
    rfl
  · exact flatMap_text_enclosed .plain '[' _ _
  · have hline : line.takeWhile (· ≠ ' ') ++ line.dropWhile (· ≠ ' ') = line :=
      List.takeWhile_append_dropWhile
    dsimp only
    rw [List.flatMap_append, flatMap_text_piece?]
    split
    · -- a setting: its name, three characters, its value
      rename_i rest hafter
      rw [hafter] at hline
      simp only [List.flatMap_cons, flatMap_text_value]
      exact hline
    · rw [flatMap_text_piece?]
      exact hline

end TomlPieces

theorem flatMap_text_tomlPieces (line : List Char) :
    (tomlPieces line).flatMap Piece.text = line := by
  rw [tomlPieces, List.flatMap_append, TomlPieces.flatMap_text_contents,
    TomlPieces.flatMap_text_piece?]
  exact List.takeWhile_append_dropWhile

/-! ## The cutters at work -/

/-- The parts of the colour of a kind. -/
def PieceKind.rgb : PieceKind → Rgb
  | plain => ⟨248, 248, 242⟩
  | jsonQuote => ⟨238, 238, 238⟩
  | stringText => ⟨241, 250, 140⟩
  | emphasis => ⟨255, 121, 198⟩
  | constant => ⟨189, 147, 249⟩
  | comment => ⟨98, 114, 164⟩
  | misplaced => ⟨248, 248, 240⟩

/-- A piece in the colour of its kind. -/
def Piece.stretch (p : Piece) : Stretch := ⟨p.kind.rgb, p.text⟩

theorem PieceKind.parameters_rgb (k : PieceKind) : k.rgb.parameters = "38;2;" ++ k.color := by
  cases k <;> decide

theorem Piece.render_stretch (p : Piece) : p.stretch.render = p.render := by
  have hcolor : "\x1b[" ++ p.kind.rgb.parameters = "\x1b[38;2;" ++ p.kind.color := by
    rw [PieceKind.parameters_rgb, ← String.append_assoc]
    rfl
  show "\x1b[" ++ p.kind.rgb.parameters ++ "m" ++ String.ofList p.text = p.render
  rw [hcolor]
  rfl

/-- The cutter that cuts each line on its own. -/
def LineCutter.ofPieces (pieces : List Char → List Piece) : LineCutter where
  State := Unit
  start := ()
  cut? _ line := some ((pieces line).map Piece.stretch)
  next _ _ := ()
  fallback := PieceKind.plain.rgb

/-- The cutter of each syntax. The one for JSON remembers what is open. -/
def Syntax.cutter : Syntax → LineCutter
  | .json =>
    { State := List JsonPieces.Level
      start := []
      cut? := fun levels line =>
        some (((JsonPieces.cut levels none line).1.map Prod.fst).map Piece.stretch)
      next := fun levels line => (JsonPieces.cut levels none line).2
      fallback := PieceKind.plain.rgb }
  | .toml => .ofPieces tomlPieces
  | .plainText => .ofPieces fun line => [⟨.plain, line⟩]

theorem Piece.flatMap_text_stretch (pieces : List Piece) :
    (pieces.map Piece.stretch).flatMap Stretch.text = pieces.flatMap Piece.text := by
  rw [List.flatMap_map]
  rfl

theorem LineCutter.tiles_ofPieces {pieces : List Char → List Piece}
    (h : ∀ line, (pieces line).flatMap Piece.text = line) : (ofPieces pieces).Tiles := by
  intro _ line stretches hcut
  obtain rfl := Option.some.inj hcut
  rw [Piece.flatMap_text_stretch]
  exact h line

/-- **The cutters at work lose nothing.** -/
theorem Syntax.tiles_cutter (s : Syntax) : s.cutter.Tiles := by
  cases s with
  | json =>
    intro levels line stretches hcut
    obtain rfl := Option.some.inj hcut
    rw [Piece.flatMap_text_stretch]
    exact JsonPieces.flatMap_text_cut levels none line
  | toml => exact LineCutter.tiles_ofPieces flatMap_text_tomlPieces
  | plainText => exact LineCutter.tiles_ofPieces List.append_nil

theorem join_render_stretch (pieces : List Piece) :
    String.join ((pieces.map Piece.stretch).map Stretch.render)
      = String.join (pieces.map Piece.render) := by
  rw [List.map_map]
  exact congrArg String.join (List.map_congr_left fun p _ => p.render_stretch)

/-- The levels behind a line are what the cutter for JSON remembers. -/
theorem JsonPieces.paint_cutter (levels : List JsonPieces.Level) (lines : List (List Char)) :
    Syntax.json.cutter.paint levels lines
      = String.join ((ofLines levels lines).map fun pieces =>
          String.join (pieces.map Piece.render)) := by
  induction lines generalizing levels with
  | nil => rfl
  | cons line lines ih =>
    rw [ofLines, List.map_cons, String.join_cons, ← ih, ← join_render_stretch]
    rfl

theorem LineCutter.paint_ofPieces (pieces : List Char → List Piece) (lines : List (List Char)) :
    (ofPieces pieces).paint () lines
      = String.join ((lines.map pieces).map fun pieces =>
          String.join (pieces.map Piece.render)) := by
  induction lines with
  | nil => rfl
  | cons line lines ih =>
    rw [List.map_cons, List.map_cons, String.join_cons, ← ih, ← join_render_stretch]
    rfl

/-- **What is shown in colour is what the cutter of the syntax makes of it.** -/
theorem highlight_eq_cutter (s : Syntax) (content : String) :
    Terminal.highlight s content = s.cutter.highlight content := by
  have hpaint : s.cutter.paint s.cutter.start (linesWithEnds content.toList)
      = String.join ((s.pieces (linesWithEnds content.toList)).map fun pieces =>
          String.join (pieces.map Piece.render)) := by
    cases s with
    | json => exact JsonPieces.paint_cutter [] _
    | toml => exact LineCutter.paint_ofPieces tomlPieces _
    | plainText => exact LineCutter.paint_ofPieces (fun line => [⟨.plain, line⟩]) _
  rw [LineCutter.highlight, hpaint]
  rfl

end SearchQuery.Terminal
