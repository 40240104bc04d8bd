import SearchQuery.Program.Configuration
import SearchQuery.Program.Queries
import SearchQuery.Proofs.Document.Printing
import SearchQuery.Proofs.Settings.Template
import SearchQuery.Proofs.Terminal.Cutting

/-!
# Documents may be copied in colour

What the program prints for other programs, and the configuration files that it shows, are in
colour on a terminal, and there they are copied from. Taking the colours out gives back what is
printed without them, to the character.

A cutter that loses nothing is one half of that. The other half is that no text has a sequence for
colour of its own, which taking the colours out would delete as well. A document has none because
it has no escape character: those that were typed are written as letters and digits
(`Json.clear_pretty`). The words of settings and the lines of new files are known.
-/

namespace SearchQuery

theorem Json.not_mem_pretty_escape (j : Json) : '\x1b' ∉ j.pretty.toList := by
  intro hmem
  -- the escape character is a control character and no line break
  have hclear : isClear '\x1b' = true := j.clear_pretty '\x1b' hmem
  exact absurd hclear (by decide)

theorem Settings.not_mem_fileText_escape (s : Settings) : '\x1b' ∉ s.fileText.toList := by
  have hword : ∀ value, '\x1b' ∉ (boolText value).toList := by decide
  have hname : ∀ format : OutputFormat, '\x1b' ∉ format.name.toList := by
    intro format
    cases format <;> decide
  unfold fileText
  simp only [String.toList_append, List.mem_append, not_or]
  exact ⟨⟨⟨⟨⟨⟨by decide, hword _⟩, by decide⟩, hname _⟩, by decide⟩, hword _⟩, by decide⟩

theorem Template.not_mem_ofLines_escape {lines : List String}
    (h : ∀ line ∈ lines, ∀ c ∈ line.toList, Toml.StringForm.isPlain c = true) :
    '\x1b' ∉ (ofLines lines).toList := by
  intro hmem
  rcases isPlain_of_mem_ofLines h '\x1b' hmem with hbreak | hplain
  · exact absurd hbreak (by decide)
  · exact absurd hplain (by decide)

namespace Terminal

/-! ## The texts that are shown -/

/-- The documents and the configuration files that the program shows, with their syntax. -/
inductive Printed : Syntax → String → Prop where
  | tree (o : Options) (query : String) : Printed .json (parse o query).document.pretty
  | words (o : Options) (query : String) (excluded : Bool) :
    Printed .json (wordsDocument query (parse o query).words
      (if excluded then some (parse o query).excludedWords else none)).pretty
  | tokens (o : Options) (query : String) (balanced : Bool) :
    Printed .json (tokensDocument (if balanced then some (repair o query) else none)
      (tokenize o query)).pretty
  | settings (s : Settings) : Printed .toml s.fileText
  | project : Printed .toml Template.project
  | global : Printed .toml Template.global

variable {s : Syntax} {text painted : String}

theorem Printed.not_mem_escape (h : Printed s text) : '\x1b' ∉ text.toList := by
  cases h with
  | tree o query => exact Json.not_mem_pretty_escape _
  | words o query excluded => exact Json.not_mem_pretty_escape _
  | tokens o query balanced => exact Json.not_mem_pretty_escape _
  | settings s => exact s.not_mem_fileText_escape
  | project => exact Template.not_mem_ofLines_escape Template.plain_projectLines
  | global => exact Template.not_mem_ofLines_escape Template.plain_globalLines

/-! ## In colour -/

/-- The text in colour is the text as soon as every sequence for colour is deleted from it, and it
ends with the colours reset. -/
structure OnlyColoured (painted text : String) : Prop where
  unpainted_eq : unpainted painted = text
  reset : ∃ front, painted = front ++ Code.reset.sequence

/-- **Whatever cuts the lines without loss, colour is all that is added** to a text without escape
characters. -/
theorem LineCutter.Tiles.onlyColoured {c : LineCutter} (h : c.Tiles)
    (hescape : '\x1b' ∉ text.toList) : OnlyColoured (c.highlight text) text where
  unpainted_eq := (h.shows_highlight hescape).unpainted_eq
  reset := ⟨c.paint c.start (linesWithEnds text.toList), rfl⟩

theorem shows_highlight (s : Syntax) (h : '\x1b' ∉ text.toList) :
    Shows (highlight s text) text := by
  rw [highlight_eq_cutter]
  exact s.tiles_cutter.shows_highlight h

theorem onlyColoured_highlight (s : Syntax) (h : '\x1b' ∉ text.toList) :
    OnlyColoured (highlight s text) text := by
  rw [highlight_eq_cutter]
  exact s.tiles_cutter.onlyColoured h

end Terminal

/-! ## What the commands show -/

namespace Context

open Terminal

variable {query : String} {json singleQuotes : Bool}

/-- The output is a printed document, in colour where colours are wanted, and the end of a line. -/
def ShowsDocument (ctx : Context) (output : String) : Prop :=
  ∃ text, Printed .json text
    ∧ output = (if ctx.styler.enabled then highlight .json text else text) ++ "\n"
    ∧ unpainted output = text ++ "\n"

/-- The output ends with a printed configuration file, in colour where colours are wanted. -/
def ShowsFile (ctx : Context) (output : String) : Prop :=
  ∃ front text, Printed .toml text
    ∧ output = front ++ (if ctx.styler.enabled then highlight .toml text else text)

theorem showsDocument (ctx : Context) {j : Json} (h : Printed .json j.pretty) :
    ctx.ShowsDocument (ctx.documentText j) := by
  refine ⟨j.pretty, h, rfl, ?_⟩
  have hend : Shows "\n" "\n" := shows_self (by decide)
  have htext : Shows (if ctx.styler.enabled then highlight .json j.pretty else j.pretty)
      j.pretty := by
    split
    · exact shows_highlight .json h.not_mem_escape
    · exact shows_self h.not_mem_escape
  exact (htext.append hend).unpainted_eq

theorem showsDocument_parse (ctx : Context) (h : ctx.wantsDocument json = true) :
    ctx.ShowsDocument (ctx.parse query json singleQuotes).output := by
  have houtput : (ctx.parse query json singleQuotes).output
      = ctx.documentText (SearchQuery.parse (ctx.options singleQuotes) query).document := by
    simp only [parse, h, if_true, Outcome.after, prints]
  rw [houtput]
  exact ctx.showsDocument (.tree _ query)

theorem showsDocument_words (ctx : Context) (excluded : Bool) (h : ctx.wantsDocument json = true) :
    ctx.ShowsDocument (ctx.words query json excluded singleQuotes).output := by
  simp only [words, h, if_true, Outcome.after, prints]
  exact ctx.showsDocument (.words _ query excluded)

theorem showsDocument_tokens (ctx : Context) (balanced : Bool) :
    ctx.ShowsDocument (ctx.tokens query balanced true singleQuotes).output := by
  simp only [tokens, if_true, Outcome.after, prints]
  exact ctx.showsDocument (.tokens _ query balanced)

theorem showsFile_config (ctx : Context) : ctx.ShowsFile ctx.config.output :=
  ⟨_, _, .settings ctx.settings, rfl⟩

theorem showsFile_init (ctx : Context) {global force : Bool}
    (h : (ctx.init global force).status = .success) :
    ctx.ShowsFile (ctx.init global force).output := by
  have hprinted : Printed .toml (ctx.site.newFile global).2 := by
    unfold Site.newFile
    split
    · exact .global
    · exact .project
  -- a command that is refused or cannot write has not succeeded
  revert h
  unfold init
  dsimp only
  split
  · intro h
    cases h
  · split
    · intro h
      cases h
    · intro _
      exact ⟨_, _, hprinted, rfl⟩

end Context

/-! ## At the top -/

open Terminal

/--
**Colour is all that is added to a document.** Whatever the program shows in colour, the document
of a query or a configuration file, gives back the text when every escape sequence for colour is
deleted, and it ends with the colours reset. That is so with the cutters at work here, and with
any other, whatever it remembers and wherever it gives up, if the stretches of each line make up
the line. What the commands show as documents and as configuration files are these texts.
-/
theorem highlight_only_adds_colour :
    (∀ s text, Printed s text → OnlyColoured (highlight s text) text
        ∧ ∀ c : LineCutter, c.Tiles → OnlyColoured (c.highlight text) text)
      ∧ ∀ ctx : Context,
        (∀ query json singleQuotes, ctx.wantsDocument json = true →
          ctx.ShowsDocument (ctx.parse query json singleQuotes).output)
        ∧ (∀ query json excluded singleQuotes, ctx.wantsDocument json = true →
          ctx.ShowsDocument (ctx.words query json excluded singleQuotes).output)
        ∧ (∀ query balanced singleQuotes,
          ctx.ShowsDocument (ctx.tokens query balanced true singleQuotes).output)
        ∧ ctx.ShowsFile ctx.config.output
        ∧ ∀ global force, (ctx.init global force).status = .success →
          ctx.ShowsFile (ctx.init global force).output := by
  refine ⟨?_, fun ctx => ⟨?_, ?_, ?_, ctx.showsFile_config, ?_⟩⟩
  · intro s text hprinted
    have hescape := hprinted.not_mem_escape
    exact ⟨onlyColoured_highlight s hescape, fun c htiles => htiles.onlyColoured hescape⟩
  · intro query json singleQuotes hwants
    exact ctx.showsDocument_parse hwants
  · intro query json excluded singleQuotes hwants
    exact ctx.showsDocument_words excluded hwants
  · intro query balanced singleQuotes
    exact ctx.showsDocument_tokens balanced
  · intro global force hsuccess
    exact ctx.showsFile_init hsuccess

/-- What was typed is a sequence for colour. Its document has it in letters and digits, which taking
the colours out leaves alone. A new file is shown in colour as well. -/
theorem highlight_only_adds_colour_typed_sequence :
    let text := "\x7b\n  \"tokens\": [\n    \x7b\n      \"kind\": \"string\",\n" ++
      "      \"text\": \"\\u001b[m\"\n    \x7d\n  ]\n\x7d"
    let ctx : Context :=
      ⟨⟨⟨fun place => if place = ["work"] then some .directory else none⟩, ⟨["", "home"]⟩,
        ["work"]⟩, .default, ⟨true⟩⟩
    unpainted (highlight .json text) = text
      ∧ unpainted (Syntax.json.cutter.highlight text) = text
      ∧ ctx.ShowsDocument (ctx.parse "\x1b[m" true false).output
      ∧ ctx.ShowsFile (ctx.init false false).output := by
  intro text ctx
  have htext : (tokensDocument none (tokenize ⟨false⟩ "\x1b[m")).pretty = text := by decide
  have hprinted : Printed .json text := by
    rw [← htext]
    exact .tokens ⟨false⟩ "\x1b[m" false
  have hsuccess : (ctx.init false false).status = .success := by decide
  obtain ⟨hcolour, hcommands⟩ := highlight_only_adds_colour
  obtain ⟨hours, hany⟩ := hcolour .json text hprinted
  obtain ⟨hparse, _, _, _, hinit⟩ := hcommands ctx
  exact ⟨hours.unpainted_eq, (hany _ Syntax.json.tiles_cutter).unpainted_eq,
    hparse "\x1b[m" true false rfl, hinit false false hsuccess⟩

end SearchQuery
