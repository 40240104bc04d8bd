import SearchQuery.Log.Filter
import SearchQuery.Proofs.Reading.Place
import SearchQuery.Proofs.Reading.Terms
import SearchQuery.Proofs.Repair.Insertion

/-!
# The log accounts for every step

Reading a query is a run of small steps, and the log is what one has of it when a query is read in
an unexpected way. It can be relied on because nothing is missing from it and nothing else is in
it: an event for each character that the repair adds, then one for each token, then one at the end.

Each event is emitted where its step is taken, and two kinds of event stand where no step is
taken, at a `)` that closes nothing and at an end between quotes. That the repair leaves no such
place is `Follows.reports_eq`; that no added character goes unreported is
`Repair.append_notices_perm`.
-/

namespace SearchQuery

/-- What the notices of a repair tell of is what the repaired query has and the query lacks. -/
theorem Repair.append_notices_perm (o : Options) (query : String) :
    (query.toList ++ (notices o query).map Notice.char).Perm (repair o query).toList := by
  rw [toList_repair]
  exact ((notices_perm_added o query).append_left _).trans (append_added_perm_chars o query.toList)

/-- There are as many notices of a repair as the repaired query has more characters. -/
theorem Repair.length_notices (o : Options) (query : String) :
    (notices o query).length + query.length = (repair o query).length := by
  have hperm := (append_notices_perm o query).length_eq
  rw [List.length_append, List.length_map] at hperm
  rw [← String.length_toList, ← String.length_toList, ← hperm, Nat.add_comm]

/-- The log hears of each token of a query, and whether it is between quotes. -/
theorem reports_tokenize (o : Options) (query : String) :
    (Reader.start query).reports (tokenize o query)
      = (tokenize o query).mapIdx fun n t => .token t
        (decide ((((tokenize o query).take n).map Token.kind).count .quote % 2 = 1)) := by
  have hstart : (Reader.start query).quoting.isInside = decide (0 % 2 = 1) := rfl
  have hquoted : ∀ n, ((Reader.start query).run ((tokenize o query).take n)).quoting.isInside
      = decide ((((tokenize o query).take n).map Token.kind).count .quote % 2 = 1) := by
    intro n
    have hrun := (Reader.start query).isInside_run ((tokenize o query).take n) hstart
    rwa [Nat.zero_add] at hrun
  -- the levels of a repaired query leave no place for the two other kinds of event
  rw [(follows_start query).reports_eq (Draft.level?_start o query)]
  simp only [hquoted]

namespace Log

/-- Asked for twice or more, the log shows every event. -/
theorem shows_of_count (count : Nat) (e : Event) :
    (Filter.choose none (count + 2)).shows e = true := by
  -- from two on the count asks for `trace`, the lowest level that there is
  have hfilter : Filter.choose none (count + 2) = [⟨none, none, false, some .trace⟩] := by
    show (Filter.ofText? "trace").getD [] = _
    decide
  have hall : Filter.applicable [⟨none, none, false, some .trace⟩] e
      = [⟨none, none, false, some .trace⟩] := by
    simp [Filter.applicable, Directive.concerns]
  have hrank : e.level.rank ≤ Level.trace.rank := by
    cases e.level <;> decide
  rw [hfilter]
  unfold Filter.shows Filter.decisive?
  rw [hall]
  exact decide_eq_true hrank

end Log

/-! ## At the top -/

/--
**The log of reading a query accounts for every step**, in this order and with nothing else in it:
an event for each character that the repair adds, which are those that the repaired query has and
the query lacks; an event for each token, with the token and whether an odd number of quotes
stands before it; and an event at the end, with the bytes of the query and the numbers of tokens
and groups. When the most is asked of the log, it shows them all.
-/
theorem parseEvents_eq_steps (o : Options) (query : String) :
    Log.parseEvents o query
        = (Repair.notices o query).map .repair
          ++ ((tokenize o query).mapIdx fun n t => .reading (.token t
            (decide ((((tokenize o query).take n).map Token.kind).count .quote % 2 = 1))))
          ++ [.reading (.finished query.utf8ByteSize (tokenize o query).length
            (parse o query).size)]
      ∧ (Repair.notices o query).length + query.length = (repair o query).length
      ∧ (query.toList ++ (Repair.notices o query).map Repair.Notice.char).Perm
        (repair o query).toList
      ∧ ∀ count event, (Log.Filter.choose none (count + 2)).shows event = true := by
  refine ⟨?_, Repair.length_notices o query, Repair.append_notices_perm o query,
    Log.shows_of_count⟩
  have htokens : ((Reader.start query).reports (tokenize o query)).map Log.Event.reading
      = (tokenize o query).mapIdx fun n t => .reading (.token t
        (decide ((((tokenize o query).take n).map Token.kind).count .quote % 2 = 1))) := by
    rw [reports_tokenize]
    apply List.ext_getElem <;> simp
  unfold Log.parseEvents Log.repairEvents parseNotices
  dsimp only
  rw [List.map_append, htokens, List.append_assoc]
  rfl

end SearchQuery
