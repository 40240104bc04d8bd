import Mathlib.Data.Fin.VecNotation
import SearchQuery.Proofs.Settings.Acceptance
import SearchQuery.Proofs.Settings.NewFile

/-!
# Written settings stand in for their files

The text of settings mentions every setting, also those that no file has set. So it is read as a
layer with all fields set (`read_fileText`), and such a layer decides everything: what comes
further away is not asked (`over_layer`), and what comes nearer meets the same choices as before.

The text is a document in plain style, and its lines make its entries whatever the settings are.
Only where the entries stand depends on the settings, since the words differ in length; decoding
does not look at that.
-/

namespace SearchQuery

namespace Settings

/-- The layer that sets everything as the settings have it. -/
def layer (s : Settings) : Layer :=
  ⟨none, some ⟨some s.query.balanceSingleQuotes⟩, some ⟨some s.output.format, some s.output.color⟩⟩

/-! ## The text is read back -/

/-- The lines of the text. -/
def fileLines (s : Settings) : List Toml.Line :=
  [.header "query",
    .setting "balance_single_quotes" (.boolean s.query.balanceSingleQuotes),
    .idle [],
    .header "output",
    .setting "format" (.string s.output.format.name),
    .setting "color" (.boolean s.output.color)]

theorem toList_fileText (s : Settings) : s.fileText.toList = Toml.linesText s.fileLines := by
  unfold fileText
  simp [Toml.linesText, fileLines, Toml.Line.text, Toml.Literal.text, boolText]

theorem plain_fileLines (s : Settings) : ∀ line ∈ s.fileLines, line.Plain := by
  have hidle : Toml.IsIdleLine [] := ⟨.inl rfl, by simp⟩
  -- the name of a format needs no escape, so its literal is the name between quotes
  have hname : s.output.format.name.toList.all Toml.Literal.isSimple = true := by
    cases s.output.format <;> decide
  simp only [fileLines, List.forall_mem_cons]
  exact ⟨⟨by decide, by decide⟩, ⟨⟨by decide, by decide⟩, trivial⟩, hidle, ⟨by decide, by decide⟩,
    ⟨⟨by decide, by decide⟩, hname⟩, ⟨⟨by decide, by decide⟩, trivial⟩, by simp⟩

/-- The entries of the section on output, with the places of keys and values. -/
def outputEntries (s : Settings) (key place : Fin 5 → Toml.Span) : Toml.Entries :=
  [(⟨"format", key 3⟩, place 3, .string s.output.format.name),
    (⟨"color", key 4⟩, place 4, .boolean s.output.color)]

/-- The entries of the text, with the places of keys and values. -/
def fileEntries (s : Settings) (key place : Fin 5 → Toml.Span) : Toml.Entries :=
  [(⟨"query", key 0⟩, place 0, .table .header
      [(⟨"balance_single_quotes", key 1⟩, place 1, .boolean s.query.balanceSingleQuotes)]),
    (⟨"output", key 2⟩, place 2, .table .header (s.outputEntries key place))]

theorem addLines_fileLines (s : Settings) : ∃ key place header,
    Toml.addLines 0 ⟨[], []⟩ s.fileLines = some ⟨s.fileEntries key place, header⟩ :=
  ⟨![_, _, _, _, _], ![_, _, _, _, _], _, rfl⟩

theorem decode_outputEntries (s : Settings) (key place : Fin 5 → Toml.Span) (span : Toml.Span) :
    Layer.decodeOutput span (.table .header (s.outputEntries key place))
      = .ok ⟨some s.output.format, some s.output.color⟩ := by
  have horder : ¬ "format" < "color" := by decide
  simp only [Layer.decodeOutput, outputEntries, Toml.Entries.byName, List.foldr_cons,
    List.foldr_nil, Toml.Entries.insertByName, horder, if_false]
  cases s.output.format <;> rfl

theorem decode_fileEntries (s : Settings) (key place : Fin 5 → Toml.Span) :
    Layer.decode (s.fileEntries key place) = .ok s.layer := by
  have horder : ¬ "query" < "output" := by decide
  -- so the section on output is decoded first
  have houtput : Layer.decodeEntry .empty
      (⟨"output", key 2⟩, place 2, .table .header (s.outputEntries key place))
        = .ok ⟨none, none, some ⟨some s.output.format, some s.output.color⟩⟩ :=
    Layer.decodeEntry_eq_ok.mpr (.inr (.inr ⟨rfl, _, s.decode_outputEntries key place _, rfl⟩))
  simp only [Layer.decode, fileEntries, Toml.Entries.byName, List.foldr_cons, List.foldr_nil,
    Toml.Entries.insertByName, horder, if_false]
  rw [List.foldlM_cons, houtput]
  rfl

/-- **The text of settings is a layer that sets everything.** -/
theorem read_fileText (s : Settings) : Layer.read s.fileText = .ok s.layer := by
  obtain ⟨key, place, header, hadd⟩ := addLines_fileLines s
  unfold Layer.read
  rw [toList_fileText, Toml.read_lines (plain_fileLines s) hadd]
  dsimp only
  rw [decode_fileEntries]

/-! ## The layer hides what lies beyond it -/

theorem choices_ofLayers (files : List (Path × Layer)) :
    (ofLayers files).choices = files.foldr (fun file c => file.2.over c) default.choices := by
  have hfold : ∀ s : Settings, (files.foldr (fun file s => overlay file.2 s) s).choices
      = files.foldr (fun file c => file.2.over c) s.choices := by
    intro s
    induction files with
    | nil => rfl
    | cons file files ih =>
      rw [List.foldr_cons, List.foldr_cons, ← ih]
      rfl
  exact hfold default

/-- Nothing shows through a layer that sets everything. -/
theorem over_layer (s : Settings) (c : QuerySettings × OutputSettings) :
    s.layer.over c = s.choices := rfl

end Settings

/-- **Written settings stand in for the files that they came from**, whatever files are nearer and
whatever files lie beyond. -/
theorem written_stands_in (nearer files further : List (Path × Layer)) (p : Path) :
    ∃ l, Layer.readFrom p (Settings.ofLayers files).fileText = .ok l
      ∧ (Settings.ofLayers (nearer ++ (p, l) :: further)).query
        = (Settings.ofLayers (nearer ++ files)).query
      ∧ (Settings.ofLayers (nearer ++ (p, l) :: further)).output
        = (Settings.ofLayers (nearer ++ files)).output := by
  let l := (Settings.ofLayers files).layer
  have hread : Layer.readFrom p (Settings.ofLayers files).fileText = .ok l := by
    unfold Layer.readFrom
    rw [Settings.read_fileText]
  have hchoices : (Settings.ofLayers (nearer ++ (p, l) :: further)).choices
      = (Settings.ofLayers (nearer ++ files)).choices := by
    -- at the written layer the fold starts anew, with the choices that the files came to
    rw [Settings.choices_ofLayers, List.foldr_append, List.foldr_cons, Settings.over_layer,
      Settings.choices_ofLayers, Settings.choices_ofLayers, List.foldr_append]
  obtain ⟨hquery, houtput⟩ := Prod.mk.inj hchoices
  exact ⟨l, hread, hquery, houtput⟩

end SearchQuery
