import SearchQuery.Program.Queries
import SearchQuery.Proofs.Repair.Insertion
import SearchQuery.Proofs.Terminal.Painting
import SearchQuery.Proofs.Token.Lexical

/-!
# The repaired query as it is shown

The repaired query is shown in two ways. A document has the text that the repair yields, and on
the terminal it is put together from its tokens, each in the colour of its kind. Both are the same
text, since the tokens lose nothing of it (`join_text_tokenize`) and a colour can be taken out of
a token again (`Styler.shows_query`).

Taking colours out goes by escape characters, so they must all come from the colours. What a
repair adds are delimiters, so a repaired query has an escape character only if one was typed.
-/

namespace SearchQuery

theorem Repair.isDelimiter_escape (o : Options) : isDelimiter o '\x1b' = false := by
  simp [isDelimiter, Options.quote?]

/-- No repair adds an escape character. -/
theorem not_mem_repair_escape {o : Options} {query : String} (h : '\x1b' ∉ query.toList) :
    '\x1b' ∉ (repair o query).toList := by
  intro hmem
  rw [toList_repair] at hmem
  rcases Repair.mem_chars hmem with htyped | hadded
  · exact h htyped
  · rw [Repair.isDelimiter_escape] at hadded
    cases hadded

namespace Terminal

variable {tokens : List Token} {s : Styler}

/-- Without colours, tokens are shown as they are. -/
theorem Styler.query_off (tokens : List Token) :
    (⟨false⟩ : Styler).query tokens = String.join (tokens.map Token.text) := rfl

/-- With the colours taken out, tokens are shown as they are. -/
theorem Styler.shows_query (s : Styler) (h : ∀ t ∈ tokens, '\x1b' ∉ t.text.toList) :
    Shows (s.query tokens) (String.join (tokens.map Token.text)) := by
  apply shows_join
  rw [List.forall₂_map_left_iff, List.forall₂_map_right_iff, List.forall₂_same]
  exact fun t ht => s.shows_paint _ (h t ht)

/-- The tokens of a query show the repaired query. -/
theorem Styler.shows_query_tokenize (s : Styler) {o : Options} {query : String}
    (h : '\x1b' ∉ query.toList) : Shows (s.query (tokenize o query)) (repair o query) := by
  rw [← join_text_tokenize]
  -- a character of a token is one of the repaired query, which has no escape character
  refine s.shows_query fun t ht hescape => not_mem_repair_escape (o := o) h ?_
  rw [← join_text_tokenize, String.toList_join, List.flatMap_map]
  exact List.mem_flatMap.mpr ⟨t, ht, hescape⟩

end Terminal

/-! ## What the command for tokens shows -/

namespace Context

open Terminal

variable {ctx : Context} {query : String} {singleQuotes : Bool}

/-- A document has the text that the repair yields. -/
theorem output_tokens_document (ctx : Context) (query : String) (singleQuotes : Bool) :
    ∃ members, (ctx.tokens query true true singleQuotes).output = ctx.documentText
      (.record (("balanced", .text (repair (ctx.options singleQuotes) query)) :: members)) :=
  ⟨_, rfl⟩

/-- The line with the repaired query comes before all else. -/
theorem output_tokens_text (ctx : Context) (query : String) (singleQuotes : Bool) :
    ∃ rest, (ctx.tokens query true false singleQuotes).output
      = ctx.styler.dim "balanced:" ++ " "
        ++ ctx.styler.query (tokenize (ctx.options singleQuotes) query) ++ "\n" ++ rest := by
  simp only [tokens, repairText, Outcome.after, prints, if_true, Bool.false_eq_true, if_false,
    String.append_assoc]
  exact ⟨_, rfl⟩

/-- The line shows the repaired query. -/
theorem shows_line (ctx : Context) {o : Options} (h : '\x1b' ∉ query.toList) :
    Shows (ctx.styler.dim "balanced:" ++ " " ++ ctx.styler.query (tokenize o query) ++ "\n")
      ("balanced: " ++ repair o query ++ "\n") := by
  have hlabel : Shows (ctx.styler.dim "balanced:") "balanced:" :=
    ctx.styler.shows_paint [.dim] (by decide)
  have hblank : Shows " " " " := shows_self (by decide)
  have hend : Shows "\n" "\n" := shows_self (by decide)
  exact ((hlabel.append hblank).append (ctx.styler.shows_query_tokenize h)).append hend

end Context

/-! ## At the top -/

open Terminal

/--
**The repaired query is shown as it is.** Put together from its tokens it is the text that the
repair yields, and so it is in colour as soon as every escape sequence for colour is deleted,
unless the query has escape characters of its own. So the two forms in which the command for
tokens shows it have the same text: the document as a member, and the table in the line above it.
-/
theorem shown_query_eq_repair (o : Options) (query : String) :
    (⟨false⟩ : Styler).query (tokenize o query) = repair o query
      ∧ ('\x1b' ∉ query.toList →
        unpainted ((⟨true⟩ : Styler).query (tokenize o query)) = repair o query)
      ∧ ∀ (ctx : Context) (singleQuotes : Bool), ctx.options singleQuotes = o →
        (∃ members, (ctx.tokens query true true singleQuotes).output
          = ctx.documentText (.record (("balanced", .text (repair o query)) :: members)))
        ∧ (ctx.styler = ⟨false⟩ → ∃ rest, (ctx.tokens query true false singleQuotes).output
          = "balanced: " ++ repair o query ++ "\n" ++ rest)
        ∧ ('\x1b' ∉ query.toList → ∃ rest,
          unpainted (ctx.tokens query true false singleQuotes).output
            = "balanced: " ++ repair o query ++ "\n" ++ rest) := by
  have hplain : (⟨false⟩ : Styler).query (tokenize o query) = repair o query :=
    (Styler.query_off _).trans (join_text_tokenize o query)
  refine ⟨hplain, fun h => (Styler.shows_query_tokenize ⟨true⟩ h).unpainted_eq, ?_⟩
  rintro ctx singleQuotes rfl
  obtain ⟨rest, htext⟩ := ctx.output_tokens_text query singleQuotes
  refine ⟨ctx.output_tokens_document query singleQuotes, ?_, ?_⟩
  · intro hoff
    refine ⟨rest, ?_⟩
    rw [htext, hoff, hplain]
    rfl
  · intro h
    refine ⟨unpainted rest, ?_⟩
    -- the rest may have escape characters, but it comes behind a line that is whole
    rw [htext, (ctx.shows_line h).unpainted_append]

/-- A group with a quotation that is not closed, and an excluded word after it, in colour. -/
theorem shown_query_eq_repair_unclosed :
    '\x1b' ∉ "(a or \"b) -c".toList
      ∧ unpainted ((⟨true⟩ : Styler).query (tokenize ⟨false⟩ "(a or \"b) -c"))
        = "(a or \"b\") -c"
      ∧ ∃ rest, unpainted ((⟨⟨.empty, ⟨[]⟩, []⟩, .default, ⟨true⟩⟩ : Context).tokens
          "(a or \"b) -c" true false false).output
        = "balanced: (a or \"b\") -c\n" ++ rest := by
  have hescape : '\x1b' ∉ "(a or \"b) -c".toList := by decide
  have hrepair : repair ⟨false⟩ "(a or \"b) -c" = "(a or \"b\") -c" := by decide
  obtain ⟨_, hcolor, hshown⟩ := shown_query_eq_repair ⟨false⟩ "(a or \"b) -c"
  rw [hrepair] at hcolor hshown
  obtain ⟨_, _, hline⟩ := hshown ⟨⟨.empty, ⟨[]⟩, []⟩, .default, ⟨true⟩⟩ false rfl
  exact ⟨hescape, hcolor hescape, hline hescape⟩

end SearchQuery
