import SearchQuery.Program.Run
import SearchQuery.Proofs.Outline.Recovery

/-!
# Each query is checked on its own

The command that checks queries takes any number of them and has one exit status for all. Scripts
rely on two things: that the status tells of a query without words and of nothing else, and that
the lines can be told apart, one for each query and in the same order.

That a query has something to search for is asked of the tree, and here it is told by the words
that a search would be given (`isValid_parse_iff`). A line shows the query between quotes, so no
character of it can end the line, and colours put none there (`not_mem_verdict`).
-/

namespace SearchQuery

/-! ## What is judged -/

/-- There is something to search for in a query exactly when words are collected from it. -/
theorem isValid_parse_iff (o : Options) (query : String) :
    (parse o query).isValid = true ↔ (parse o query).words ≠ [] :=
  Expression.isValid_iff_words_ne_nil fun _ hp => (sound_of_mem_rootExpression hp).words_ne_nil

/-! ## What is printed -/

namespace Terminal

theorem Code.not_mem_sequence (c : Code) : '\n' ∉ c.sequence.toList := by
  cases c <;> decide

/-- Colours do not break a line. -/
theorem Styler.not_mem_paint (st : Styler) (codes : List Code) (text : String)
    (h : '\n' ∉ text.toList) : '\n' ∉ (st.paint codes text).toList := by
  have hcodes : '\n' ∉ (String.join (codes.map Code.sequence)).toList := by
    rw [String.toList_join, List.mem_flatMap]
    rintro ⟨_, hsequence, hmem⟩
    obtain ⟨c, _, rfl⟩ := List.mem_map.mp hsequence
    exact c.not_mem_sequence hmem
  unfold Styler.paint
  split
  · rw [String.toList_append, String.toList_append, List.mem_append, List.mem_append]
    rintro ((hmem | hmem) | hmem)
    · exact hcodes hmem
    · exact h hmem
    · exact Code.reset.not_mem_sequence hmem
  · exact h

end Terminal

namespace Context

variable {o : Options} {query : String}

/-- **What is told of a query fits on a line**, whatever characters the query has. -/
theorem not_mem_verdict (ctx : Context) : '\n' ∉ (ctx.verdict o query).toList := by
  have hquery : '\n' ∉ (Text.quoted query).toList :=
    Text.not_mem_of_isPrintable (fun _ => Text.isPrintable_of_mem_quoted) (by decide)
  have hblank : '\n' ∉ " ".toList := by decide
  unfold verdict
  split
  · have hlabel := ctx.styler.not_mem_paint [.green] "ok     " (by decide)
    simp only [String.toList_append, List.mem_append, not_or]
    exact ⟨⟨hlabel, hblank⟩, hquery⟩
  · have hlabel := ctx.styler.not_mem_paint [.red] "invalid" (by decide)
    have hreason := ctx.styler.not_mem_paint [.dim] "(no search to perform)" (by decide)
    simp only [String.toList_append, List.mem_append, not_or]
    exact ⟨⟨⟨⟨hlabel, hblank⟩, hquery⟩, hblank⟩, hreason⟩

/-! ## What comes of the command -/

/-- The command succeeds when each query has words, and it fails otherwise. -/
theorem status_check (ctx : Context) (queries : List String) (quiet singleQuotes : Bool) :
    (ctx.check queries quiet singleQuotes).status
      = if ∀ q ∈ queries, (SearchQuery.parse (ctx.options singleQuotes) q).words ≠ []
        then .success else .failure := by
  show (if queries.all fun q => (SearchQuery.parse (ctx.options singleQuotes) q).isValid
    then Status.success else Status.failure) = _
  simp only [List.all_eq_true, isValid_parse_iff]

theorem status_check_eq_success (ctx : Context) (queries : List String)
    (quiet singleQuotes : Bool) :
    (ctx.check queries quiet singleQuotes).status = .success
      ↔ ∀ q ∈ queries, (SearchQuery.parse (ctx.options singleQuotes) q).words ≠ [] := by
  rw [status_check]
  split
  · exact iff_of_true rfl ‹_›
  · exact iff_of_false (by decide) ‹_›

theorem status_check_eq_failure (ctx : Context) (queries : List String)
    (quiet singleQuotes : Bool) :
    (ctx.check queries quiet singleQuotes).status = .failure
      ↔ ∃ q ∈ queries, (SearchQuery.parse (ctx.options singleQuotes) q).words = [] := by
  rw [status_check]
  split
  · rename_i hall
    exact iff_of_false (by decide) fun ⟨q, hq, hnone⟩ => hall q hq hnone
  · rename_i hsome
    push Not at hsome
    exact iff_of_true rfl hsome

/-- The status is the same for the same queries, in any order and any number. -/
theorem status_check_congr (ctx : Context) {queries queries' : List String}
    (h : ∀ q, q ∈ queries' ↔ q ∈ queries) (quiet quiet' singleQuotes : Bool) :
    (ctx.check queries' quiet' singleQuotes).status
      = (ctx.check queries quiet singleQuotes).status := by
  rw [status_check, status_check]
  -- the status asks of every query in the list, and the two lists have the same ones
  simp only [h]

/-- A single query has its own line. -/
theorem output_check_singleton (ctx : Context) (query : String) (singleQuotes : Bool) :
    (ctx.check [query] false singleQuotes).output
      = ctx.verdict (ctx.options singleQuotes) query ++ "\n" := by
  show String.join [ctx.verdict (ctx.options singleQuotes) query ++ "\n"] = _
  rw [String.join_cons, String.join_nil, String.append_empty]

end Context

/-- With settings that can be loaded, the command runs on them, and the log tells of the loading
first. -/
theorem Program.runInvocation_check (env : Environment) {site : Site} {i : CommandLine.Invocation}
    {queries : List String} {quiet singleQuotes : Bool} {s : Settings}
    (hcheck : i.command = .check queries quiet singleQuotes)
    (hload : site.load site.here = .ok s) :
    runInvocation env site i
      = ((⟨site, s, env.styler i.noColor s⟩ : Context).check queries quiet singleQuotes).after
        ((site.loadNotices site.here).map .settings) := by
  unfold runInvocation
  simp only [hcheck, hload]
  rfl

/-! ## At the top -/

/--
**Each query is judged on its own.** The command succeeds when words are collected from every
query, and it fails when there is a query without any. So neither the order of the queries nor
how often they are given changes the status, and neither does the wish for no lines. Otherwise
there is a line for each query, in their order, in colour or not, and it is the line that is
printed when the query is checked alone.
-/
theorem check_judges_each (env : Environment) (site : Site) (arguments : List String)
    (i : CommandLine.Invocation) (queries : List String) (quiet singleQuotes : Bool) (s : Settings)
    (hread : CommandLine.read arguments = .ok i)
    (hcheck : i.command = .check queries quiet singleQuotes)
    (hload : site.load site.here = .ok s) :
    let o : Options := ⟨singleQuotes || s.query.balanceSingleQuotes⟩
    let checked (queries : List String) (quiet : Bool) : Outcome :=
      Program.runInvocation env site { i with command := .check queries quiet singleQuotes }
    let outcome := Program.run env site arguments
    (outcome.status = .success ↔ ∀ q ∈ queries, (parse o q).words ≠ [])
      ∧ (outcome.status = .failure ↔ ∃ q ∈ queries, (parse o q).words = [])
      ∧ (∀ queries' quiet', (∀ q, q ∈ queries' ↔ q ∈ queries) →
        (checked queries' quiet').status = outcome.status)
      ∧ (quiet = true → outcome.output = "")
      ∧ ∃ line : String → String, (∀ q, '\n' ∉ (line q).toList)
        ∧ (∀ q, (checked [q] false).output = line q ++ "\n")
        ∧ (quiet = false → outcome.output = String.join (queries.map fun q => line q ++ "\n")) := by
  intro o checked outcome
  let ctx : Context := ⟨site, s, env.styler i.noColor s⟩
  -- whatever the queries, the settings are loaded once and are the same
  have hchecked : ∀ queries quiet, checked queries quiet
      = (ctx.check queries quiet singleQuotes).after
        ((site.loadNotices site.here).map .settings) := fun _ _ =>
    Program.runInvocation_check env rfl hload
  have houtcome : outcome = (ctx.check queries quiet singleQuotes).after
      ((site.loadNotices site.here).map .settings) := by
    show Program.run env site arguments = _
    rw [Program.run, hread]
    exact Program.runInvocation_check env hcheck hload
  have hstatus : outcome.status = (ctx.check queries quiet singleQuotes).status := by
    rw [houtcome]
    rfl
  refine ⟨?_, ?_, ?_, ?_, ctx.verdict o, fun _ => ctx.not_mem_verdict, ?_, ?_⟩
  · rw [hstatus]
    exact ctx.status_check_eq_success queries quiet singleQuotes
  · rw [hstatus]
    exact ctx.status_check_eq_failure queries quiet singleQuotes
  · intro queries' quiet' hsame
    rw [hstatus, hchecked]
    exact ctx.status_check_congr hsame quiet quiet' singleQuotes
  · intro hquiet
    rw [houtcome, hquiet]
    rfl
  · intro q
    rw [hchecked]
    exact ctx.output_check_singleton q singleQuotes
  · intro hlines
    rw [houtcome, hlines]
    rfl

/-- A directory with a configuration file that turns single quotes on. -/
def quotingSite : Site where
  files := ⟨fun place =>
    if place = ["work"] then some .directory
    else if place = ["work", ".sift.toml"] then
      some (.file "[query]\nbalance_single_quotes = true\n".toUTF8)
    else none⟩
  home := ⟨["", "home"]⟩
  directory := ["work"]

/-- An excluded word among three queries, one of which has a line break: the command fails, also
when the queries come in another order and no lines are wanted, and it prints three lines. -/
theorem check_judges_each_excluded :
    CommandLine.read ["check", "--", "a", "-b", "'\n'"]
        = .ok ⟨.check ["a", "-b", "'\n'"] false false, 0, false⟩
      ∧ (Program.run ⟨none, none, true⟩ quotingSite ["check", "--", "a", "-b", "'\n'"]).status
        = .failure
      ∧ (Program.runInvocation ⟨none, none, true⟩ quotingSite
          ⟨.check ["'\n'", "a", "a", "-b"] true false, 0, false⟩).status = .failure
      ∧ (Program.run ⟨none, none, true⟩ quotingSite
          ["check", "--", "a", "-b", "'\n'"]).output.toList.count '\n' = 3 := by
  have hread : CommandLine.read ["check", "--", "a", "-b", "'\n'"]
      = .ok ⟨.check ["a", "-b", "'\n'"] false false, 0, false⟩ := by decide +kernel
  have hset : ∀ q, q ∈ ["'\n'", "a", "a", "-b"] ↔ q ∈ ["a", "-b", "'\n'"] := by
    intro q
    simp only [List.mem_cons, List.not_mem_nil, or_false]
    tauto
  have hload : quotingSite.load quotingSite.here
      = .ok ⟨⟨true⟩, Settings.default.output, some ⟨["", "work"]⟩⟩ := by decide +kernel
  obtain ⟨_, hfails, hsame, _, line, hline, _, houtput⟩ :=
    check_judges_each ⟨none, none, true⟩ quotingSite _ _ _ false false _ hread rfl hload
  have hnone : (parse ⟨true⟩ "-b").words = [] := by decide
  have hfailure := hfails.mpr ⟨"-b", List.mem_cons_of_mem _ List.mem_cons_self, hnone⟩
  refine ⟨hread, hfailure, (hsame _ true hset).trans hfailure, ?_⟩
  have hlines : ∀ l ∈ ["a", "-b", "'\n'"].map line, '\n' ∉ l.toList := by
    intro l hl
    obtain ⟨q, _, rfl⟩ := List.mem_map.mp hl
    exact hline q
  have hcount := count_join_ended hlines
  rw [List.map_map] at hcount
  rw [houtput rfl]
  exact hcount

end SearchQuery
