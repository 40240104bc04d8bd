import Mathlib.Data.List.Perm.Basic
import SearchQuery.Proofs.Repair.Stretch

/-!
# What a repair adds

A repair writes every character of the query and some of its own. `ledger` is the
repaired query with each character entered as typed or added, and it can be read in
three ways. All its characters are the repaired query, the typed ones are the query
(`typed_ledger`), and the added ones are those that the log tells of, in another order
(`notices_perm_added`).

Several closers may be added at one character and an opener far from the `)` that it is
for, so no character pays for what is added where it stands. But what is added closes a
delimiter that some character opened, or opens one for a `)`, and each delimiter is
closed once: `length_body_add_unmatched_le` keeps the account, with one closer owed for
each delimiter that is open.
-/

namespace SearchQuery

namespace Repair

/-- A character of a repaired query, and whether it was typed or added. -/
inductive Entry where
  | typed (c : Char)
  | added (c : Char)
  deriving DecidableEq, Repr

namespace Entry

/-- The character itself. -/
def char : Entry → Char
  | typed c => c
  | added c => c

/-- The character, if it was typed. -/
def typed? : Entry → Option Char
  | typed c => some c
  | added _ => none

/-- The character, if it was added. -/
def added? : Entry → Option Char
  | typed _ => none
  | added c => some c

end Entry

/-- The character that a notice reports as added. -/
def Notice.char : Notice → Char
  | openerAdded => '('
  | closedEarly d => d.closer
  | closedAtEnd d => d.closer

/-- The closers of some delimiters, entered as added. -/
def addedClosers (ds : List Delimiter) : List Entry :=
  ds.map fun d => .added d.closer

/-- The rest of a query with its closers inserted, character by character. -/
def entries (o : Options) (opened : List Delimiter) : List Char → List Entry
  | [] => addedClosers opened
  | c :: rest => addedClosers (forced o opened c) ++ .typed c :: entries o (next o opened c) rest

/-- The repaired query, character by character. -/
def ledger (o : Options) (query : List Char) : List Entry :=
  List.replicate (unmatched o [] query) (.added '(') ++ entries o [] query

/-- Whether a character is a parenthesis or a quote in use. -/
def isDelimiter (o : Options) (c : Char) : Bool :=
  c = '(' || c = ')' || (o.quote? c).isSome

variable {o : Options} {opened : List Delimiter} {c : Char} {d : Delimiter}

/-! ## Three readings of the ledger -/

theorem map_char_addedClosers (ds : List Delimiter) :
    (addedClosers ds).map Entry.char = ds.map Delimiter.closer := by
  rw [addedClosers, List.map_map]
  rfl

theorem typed_addedClosers (ds : List Delimiter) : (addedClosers ds).filterMap Entry.typed? = [] := by
  rw [addedClosers, List.filterMap_map]
  exact List.filterMap_eq_nil_iff.mpr fun _ _ => rfl

theorem added_addedClosers (ds : List Delimiter) :
    (addedClosers ds).filterMap Entry.added? = ds.map Delimiter.closer := by
  rw [addedClosers, List.filterMap_map, ← List.filterMap_eq_map]
  rfl

theorem map_char_entries (o : Options) (opened : List Delimiter) (text : List Char) :
    (entries o opened text).map Entry.char = body o opened text := by
  induction text generalizing opened with
  | nil => exact map_char_addedClosers opened
  | cons c text ih =>
    rw [entries, List.map_append, List.map_cons, map_char_addedClosers, ih]
    rfl

theorem typed_entries (o : Options) (opened : List Delimiter) (text : List Char) :
    (entries o opened text).filterMap Entry.typed? = text := by
  induction text generalizing opened with
  | nil => exact typed_addedClosers opened
  | cons c text ih =>
    rw [entries, List.filterMap_append, typed_addedClosers, List.filterMap_cons, ih]
    rfl

theorem added_entries_cons (o : Options) (opened : List Delimiter) (c : Char) (text : List Char) :
    (entries o opened (c :: text)).filterMap Entry.added?
      = (forced o opened c).map Delimiter.closer
        ++ (entries o (next o opened c) text).filterMap Entry.added? := by
  rw [entries, List.filterMap_append, added_addedClosers, List.filterMap_cons_none rfl]

theorem map_char_ledger (o : Options) (text : List Char) :
    (ledger o text).map Entry.char = chars o text := by
  rw [ledger, List.map_append, List.map_replicate, map_char_entries]
  rfl

/-- **Without what was added, the query is back.** -/
theorem typed_ledger (o : Options) (text : List Char) :
    (ledger o text).filterMap Entry.typed? = text := by
  rw [ledger, List.filterMap_append, List.filterMap_replicate_of_none rfl, typed_entries]
  rfl

theorem added_ledger (o : Options) (text : List Char) :
    (ledger o text).filterMap Entry.added?
      = List.replicate (unmatched o [] text) '(' ++ (entries o [] text).filterMap Entry.added? := by
  have hopeners : (List.replicate (unmatched o [] text) (Entry.added '(')).filterMap Entry.added?
      = List.replicate (unmatched o [] text) '(' :=
    List.filterMap_replicate_of_some (f := Entry.added?) (b := '(') rfl
  rw [ledger, List.filterMap_append, hopeners]

/-- Every character of the ledger is of one sort or the other. -/
theorem typed_append_added_perm (list : List Entry) :
    (list.filterMap Entry.typed? ++ list.filterMap Entry.added?).Perm (list.map Entry.char) := by
  induction list with
  | nil => rfl
  | cons e list ih =>
    cases e with
    | typed c => exact ih.cons c
    -- an added character is entered behind all that were typed, and moves to its place
    | added c => exact List.perm_middle.trans (ih.cons c)

/-- The characters of a repaired query are those of the query and those added. -/
theorem append_added_perm_chars (o : Options) (text : List Char) :
    (text ++ (ledger o text).filterMap Entry.added?).Perm (chars o text) := by
  have hsorts := typed_append_added_perm (ledger o text)
  rwa [typed_ledger, map_char_ledger] at hsorts

/-- A repaired query is longer by what was added. -/
theorem length_chars (o : Options) (text : List Char) :
    (chars o text).length = text.length + ((ledger o text).filterMap Entry.added?).length := by
  rw [← (append_added_perm_chars o text).length_eq, List.length_append]

/-! ## What the log tells -/

/-- The notices of one character tell of the closers it forces, or of the opener it lacks. -/
theorem map_char_report (o : Options) (opened : List Delimiter) (c : Char) :
    (report o opened c).map Notice.char
      = List.replicate (if effect o opened c = .unmatched then 1 else 0) '('
        ++ (forced o opened c).map Delimiter.closer := by
  unfold report forced
  cases effect o opened c with
  | closes d => simp [Function.comp_def, Notice.char]
  | _ => rfl

theorem notices_perm_entries (o : Options) (opened : List Delimiter) (text : List Char) :
    ((noticesFrom o opened text).map Notice.char).Perm
      (List.replicate (unmatched o opened text) '('
        ++ (entries o opened text).filterMap Entry.added?) := by
  induction text generalizing opened with
  | nil =>
    rw [noticesFrom, List.map_map, entries, added_addedClosers]
    rfl
  | cons c text ih =>
    rw [noticesFrom, List.map_append, map_char_report, unmatched, added_entries_cons,
      List.replicate_add, List.append_assoc, List.append_assoc]
    -- the closers of this character come before the openers of the later ones
    refine List.Perm.append_left _ ((List.Perm.append_left _ (ih _)).trans ?_)
    exact List.perm_append_comm_assoc _ _ _

/-- **The log tells of each added character once.** -/
theorem notices_perm_added (o : Options) (query : String) :
    ((notices o query).map Notice.char).Perm
      ((ledger o query.toList).filterMap Entry.added?) := by
  rw [added_ledger]
  exact notices_perm_entries o [] query.toList

/-! ## Which characters are added -/

theorem isDelimiter_eq_false (h : Ordinary o c) : isDelimiter o c = false := by
  rw [isDelimiter, h.1]
  simp [h.2.1, h.2.2]

theorem isDelimiter_closer (hu : o.Uses d) : isDelimiter o d.closer = true := by
  by_cases hd : d = .paren
  · subst hd
    rfl
  · rw [isDelimiter, Options.quote?_eq_some.mpr ⟨hd, hu, rfl⟩]
    simp

theorem isDelimiter_opener (hu : o.Uses d) : isDelimiter o d.opener = true := by
  by_cases hd : d = .paren
  · subst hd
    rfl
  · rw [Delimiter.opener_eq_closer hd]
    exact isDelimiter_closer hu

/-- What is added to the body are closers of delimiters in use. -/
theorem mem_added_entries {text : List Char} (hu : ∀ d ∈ opened, o.Uses d)
    (h : .added c ∈ entries o opened text) : ∃ d, o.Uses d ∧ c = d.closer := by
  have hclosers : ∀ ds : List Delimiter, (∀ d ∈ ds, o.Uses d) → .added c ∈ addedClosers ds →
      ∃ d, o.Uses d ∧ c = d.closer := by
    intro ds hds hmem
    obtain ⟨d, hd, he⟩ := List.mem_map.mp hmem
    exact ⟨d, hds d hd, (Entry.added.inj he).symm⟩
  -- what is open changes along the text, but it stays in use
  induction text generalizing opened with
  | nil => exact hclosers opened hu h
  | cons b text ih =>
    rcases List.mem_append.mp h with hmem | hmem
    · exact hclosers _ (fun d hd => hu d (mem_of_mem_forced hd)) hmem
    · have hmem := (List.mem_cons.mp hmem).resolve_left (by exact Entry.noConfusion)
      exact ih (uses_next hu) hmem

/-- **Only delimiters are added.** -/
theorem isDelimiter_added {text : List Char} (h : .added c ∈ ledger o text) :
    isDelimiter o c = true := by
  rcases List.mem_append.mp h with hfront | hbody
  · obtain rfl : c = '(' := Entry.added.inj (List.eq_of_mem_replicate hfront)
    rfl
  · obtain ⟨d, hu, rfl⟩ := mem_added_entries (by simp) hbody
    exact isDelimiter_closer hu

/-- A repaired query has no characters but those of the query and delimiters. -/
theorem mem_chars {text : List Char} (h : c ∈ chars o text) :
    c ∈ text ∨ isDelimiter o c = true := by
  rw [← map_char_ledger] at h
  obtain ⟨e, he, rfl⟩ := List.mem_map.mp h
  cases e with
  | typed c =>
    left
    rw [← typed_ledger o text]
    exact List.mem_filterMap.mpr ⟨_, he, rfl⟩
  | added c => exact .inr (isDelimiter_added he)

theorem not_mem_added_entries (o : Options) (text : List Char) :
    .added '(' ∉ entries o [] text := by
  intro h
  obtain ⟨d, _, hd⟩ := mem_added_entries (by simp) h
  exact Delimiter.closer_ne_paren_opener d hd.symm

/-! ## How many characters are added -/

/--
**The account.** Each delimiter of the query pays for one added character. One that
opens pays for its closer, which is owed while it is open; one that closes is the
closer owed; and a `)` without an opener pays for that opener.
-/
theorem length_body_add_unmatched_le (o : Options) (opened : List Delimiter) (text : List Char) :
    (body o opened text).length + unmatched o opened text
      ≤ text.length + text.countP (isDelimiter o) + opened.length := by
  induction text generalizing opened with
  | nil => simp [body, unmatched]
  | cons c rest ih =>
    rcases body_cons_cases o opened c rest with
      ⟨hc, hb, hn, _⟩ | ⟨d, hu, rfl, _, hb, hn, _⟩ | ⟨d, top, bottom, hu, rfl, rfl, _, hb, hn, _⟩ |
      ⟨rfl, _, hb, hn, _⟩
    · -- an ordinary character is written once and pays for nothing
      have hi := ih opened
      rw [hb, hn, List.countP_cons_of_neg (by simp [isDelimiter_eq_false hc])]
      simp only [List.length_cons]
      omega
    · -- one that opens pays for its closer, which is owed from here on
      have hi := ih (d :: opened)
      rw [hb, hn, List.countP_cons_of_pos (isDelimiter_opener hu)]
      simp only [List.length_cons] at hi ⊢
      omega
    · -- one that closes settles what is owed for itself and for all that lies above it
      have hi := ih bottom
      rw [hb, hn, List.countP_cons_of_pos (isDelimiter_closer hu)]
      simp only [List.length_append, List.length_map, List.length_cons, List.length_nil]
      omega
    · -- a `)` with nothing to close pays for the opener in front
      have hi := ih opened
      rw [hb, hn, List.countP_cons_of_pos rfl]
      simp only [List.length_cons]
      omega

/-- At most one character is added for each parenthesis and each quote in use. -/
theorem length_added_le (o : Options) (text : List Char) :
    ((ledger o text).filterMap Entry.added?).length ≤ text.countP (isDelimiter o) := by
  have haccount := length_body_add_unmatched_le o [] text
  have hlength := length_chars o text
  rw [chars, List.length_append, List.length_replicate] at hlength
  rw [List.length_nil] at haccount
  omega

end Repair

/-! ## At the top -/

/--
**A repair only inserts.**

Its characters, each entered as typed or added, are the repaired query; without those
added they are the query, and the log tells of each of those added once. Only
parentheses and quotes in use are added, openers in one block in front of all the rest
and nowhere else, and no more characters than the query has delimiters. So a repair at
most doubles the length of a query.
-/
theorem repair_only_inserts (o : Options) (query : String) :
    String.ofList ((Repair.ledger o query.toList).map Repair.Entry.char) = repair o query
      ∧ (Repair.ledger o query.toList).filterMap Repair.Entry.typed? = query.toList
      ∧ ((Repair.notices o query).map Repair.Notice.char).Perm
        ((Repair.ledger o query.toList).filterMap Repair.Entry.added?)
      ∧ (∀ c, .added c ∈ Repair.ledger o query.toList → Repair.isDelimiter o c = true)
      ∧ (∃ n rest, Repair.ledger o query.toList = List.replicate n (.added '(') ++ rest
        ∧ .added '(' ∉ rest)
      ∧ ((Repair.ledger o query.toList).filterMap Repair.Entry.added?).length
        ≤ query.toList.countP (Repair.isDelimiter o)
      ∧ (repair o query).length ≤ 2 * query.length := by
  refine ⟨congrArg String.ofList (Repair.map_char_ledger o query.toList),
    Repair.typed_ledger o query.toList, Repair.notices_perm_added o query,
    fun _ => Repair.isDelimiter_added, ⟨_, _, rfl, Repair.not_mem_added_entries o query.toList⟩,
    Repair.length_added_le o query.toList, ?_⟩
  have hadded := Repair.length_added_le o query.toList
  have hdelimiters : query.toList.countP (Repair.isDelimiter o) ≤ query.length :=
    String.length_toList (s := query) ▸ List.countP_le_length
  calc (repair o query).length
    _ = (Repair.chars o query.toList).length := String.length_ofList
    _ = query.length + ((Repair.ledger o query.toList).filterMap Repair.Entry.added?).length := by
      rw [Repair.length_chars, String.length_toList]
    _ ≤ 2 * query.length := by omega

end SearchQuery
