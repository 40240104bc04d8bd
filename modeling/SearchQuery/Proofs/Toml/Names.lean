import Mathlib.Data.List.Nodup
import SearchQuery.Toml.Document

/-!
# Documents name nothing twice

A table is a list of entries, and nothing in the type keeps two of them from having one name. The
reading of a document does: `namesOnce_read` says that in a document that has been read, and in
every table inside it, each name stands once. So an entry can be told by its name alone.

There are two things to see. A change of one table either replaces the entry of a name or comes
after a search that has found none, and a change further inside replaces the entries on the way
(`KeepsNames.descend`). And the reading makes tables by such changes only. The second is said with
`Yields`, which speaks of the result of a reading where there is one, and not of where it stops:
the parts of a reading that make no values drop out of the argument one by one (`yields_bind`).
-/

namespace SearchQuery.Toml

variable {entries entries' : Entries} {entry : Key × Span × Value} {name : String}

/-! ## Tables without a name twice -/

/-- The names of the entries, in order. -/
def Entries.names (entries : Entries) : List String := entries.map fun e => e.1.name

mutual

/-- No table in the value has two entries of one name. -/
def Value.NamesOnce : Value → Prop
  | .array _ items => itemsNameOnce items
  | .table _ entries => entriesNameOnce entries
  | _ => True

/-- The same for the items of an array. -/
def itemsNameOnce : List (Span × Value) → Prop
  | [] => True
  | (_, v) :: rest => v.NamesOnce ∧ itemsNameOnce rest

/-- The same for a table with these entries. -/
def entriesNameOnce : List (Key × Span × Value) → Prop
  | [] => True
  | (k, _, v) :: rest => k.name ∉ Entries.names rest ∧ v.NamesOnce ∧ entriesNameOnce rest

end

theorem itemsNameOnce_iff {items : List (Span × Value)} :
    itemsNameOnce items ↔ ∀ item ∈ items, item.2.NamesOnce := by
  induction items with
  | nil => simp [itemsNameOnce]
  | cons item items ih => rw [itemsNameOnce, ih, List.forall_mem_cons]

theorem entriesNameOnce_iff :
    entriesNameOnce entries ↔ entries.names.Nodup ∧ ∀ e ∈ entries, e.2.2.NamesOnce := by
  induction entries with
  | nil => simp [entriesNameOnce, Entries.names]
  | cons entry entries ih =>
    have hnames : Entries.names (entry :: entries) = entry.1.name :: Entries.names entries := rfl
    rw [entriesNameOnce, ih, List.forall_mem_cons, hnames, List.nodup_cons]
    tauto

theorem entriesNameOnce.value (h : entriesNameOnce entries)
    (he : entries.find? name = some entry) : entry.2.2.NamesOnce :=
  (entriesNameOnce_iff.mp h).2 entry (List.mem_of_find?_eq_some he)

/-! ## Changes of one table -/

namespace Entries

theorem mem_names_set : name ∈ (entries.set entry).names ↔
    name = entry.1.name ∨ name ∈ entries.names := by
  induction entries with
  | nil => simp [set, names]
  | cons old rest ih =>
    have hnames : names (old :: rest) = old.1.name :: names rest := rfl
    rw [set, hnames]
    split
    · rename_i hsame
      simp [names, hsame]
    · have hset : names (old :: set rest entry) = old.1.name :: names (set rest entry) := rfl
      rw [hset, List.mem_cons, ih, List.mem_cons]
      tauto

theorem set_of_find?_eq_none (h : entries.find? entry.1.name = none) :
    entries.set entry = entries ++ [entry] := by
  induction entries with
  | nil => rfl
  | cons old rest ih =>
    unfold find? at h ih
    obtain ⟨hold, hrest⟩ := List.forall_mem_cons.mp (List.find?_eq_none.mp h)
    rw [set, if_neg (by simpa using hold), ih (List.find?_eq_none.mpr hrest)]
    rfl

theorem perm_insertByName (entry : Key × Span × Value) (entries : Entries) :
    (insertByName entry entries).Perm (entry :: entries) := by
  induction entries with
  | nil => exact .refl _
  | cons old rest ih =>
    rw [insertByName]
    split
    · exact .refl _
    · exact (ih.cons old).trans (.swap entry old rest)

/-- Putting entries in the order of their names loses none and makes none. -/
theorem perm_byName (entries : Entries) : entries.byName.Perm entries := by
  induction entries with
  | nil => exact .refl _
  | cons entry entries ih => exact (perm_insertByName entry _).trans (ih.cons entry)

end Entries

theorem entriesNameOnce.set (h : entriesNameOnce entries) (hv : entry.2.2.NamesOnce) :
    entriesNameOnce (entries.set entry) := by
  induction entries with
  | nil => exact ⟨List.not_mem_nil, hv, trivial⟩
  | cons old rest ih =>
    obtain ⟨hold, hvalue, hrest⟩ := h
    rw [Entries.set]
    split
    · rename_i hsame
      exact ⟨hsame ▸ hold, hv, hrest⟩
    · rename_i hother
      refine ⟨fun hmem => ?_, hvalue, ih hrest⟩
      -- replacing an entry further back brings in no name but its own
      rcases Entries.mem_names_set.mp hmem with hname | hmem
      · exact hother hname
      · exact hold hmem

theorem entriesNameOnce.concat (h : entriesNameOnce entries)
    (hnew : entries.find? entry.1.name = none) (hv : entry.2.2.NamesOnce) :
    entriesNameOnce (entries ++ [entry]) := by
  rw [← Entries.set_of_find?_eq_none hnew]
  exact h.set hv

/-- A change of a table that keeps names from occurring twice. -/
def KeepsNames (change : Origin → Entries → Option Entries) : Prop :=
  ∀ origin entries entries', entriesNameOnce entries → change origin entries = some entries' →
    entriesNameOnce entries'

/-- **Where the change of a table keeps names apart, so does the way to that table.** -/
theorem KeepsNames.descend {change : Origin → Entries → Option Entries} (hc : KeepsNames change)
    (dotted : Bool) (path : List Key) : KeepsNames (Entries.descend dotted change path) := by
  induction path with
  | nil => exact hc
  | cons k path ih =>
    intro origin entries entries' h hchange
    rw [Entries.descend] at hchange
    split at hchange
    · -- no entry of that name: the way goes on into a new table, which has no names yet
      obtain ⟨inner, hinner, rfl⟩ := Option.map_eq_some_iff.mp hchange
      exact h.set (ih _ [] inner trivial hinner)
    · rename_i hfind
      split at hchange
      · cases hchange
      · obtain ⟨inner, hinner, rfl⟩ := Option.map_eq_some_iff.mp hchange
        exact h.set (ih _ _ inner (h.value hfind) hinner)
    · rename_i key span items hfind
      split at hchange
      · rename_i place origin' last hlast
        obtain ⟨inner, hinner, rfl⟩ := Option.map_eq_some_iff.mp hchange
        -- an array of tables is entered at its last one, and the others stay
        have hitems : ∀ item ∈ items, item.2.NamesOnce := itemsNameOnce_iff.mp (h.value hfind)
        have hnew := ih _ _ inner (hitems _ (List.mem_of_getLast? hlast)) hinner
        refine h.set (itemsNameOnce_iff.mpr fun item hitem => ?_)
        rcases List.mem_append.mp hitem with hitem | hitem
        · exact hitems item (List.dropLast_subset items hitem)
        · obtain rfl := List.mem_singleton.mp hitem
          exact hnew
      · cases hchange
    · cases hchange

theorem keepsNames_addValue {value : Value} (hv : value.NamesOnce) (isDotted : Bool) (key : Key)
    (span : Span) : KeepsNames (Entries.addValue isDotted key span value) := by
  intro origin entries entries' h hadd
  unfold Entries.addValue at hadd
  split at hadd
  · cases hadd
  · split at hadd
    · cases hadd
    · rename_i hnew
      obtain rfl := Option.some.inj hadd
      exact h.concat (by simpa using hnew) hv

theorem keepsNames_addSetting {value : Value} (hv : value.NamesOnce) (path : List Key) (key : Key)
    (span : Span) : KeepsNames (Entries.addSetting path key span value) :=
  (keepsNames_addValue hv _ key span).descend true path

theorem entriesNameOnce.addHeader {path : List Key} {key : Key} {span : Span}
    (h : entriesNameOnce entries) (hadd : entries.addHeader path key span = some entries') :
    entriesNameOnce entries' := by
  refine KeepsNames.descend ?_ false path .header entries entries' h hadd
  intro _ outer outer' houter hdefine
  dsimp only at hdefine
  split at hdefine
  · rename_i hnew
    obtain rfl := Option.some.inj hdefine
    exact houter.concat hnew trivial
  · rename_i hfind
    obtain rfl := Option.some.inj hdefine
    have hinner := houter.value hfind
    exact houter.set hinner
  · cases hdefine

theorem entriesNameOnce.addArrayHeader {path : List Key} {key : Key} {span : Span}
    (h : entriesNameOnce entries) (hadd : entries.addArrayHeader path key span = some entries') :
    entriesNameOnce entries' := by
  refine KeepsNames.descend ?_ false path .header entries entries' h hadd
  intro _ outer outer' houter happend
  dsimp only at happend
  split at happend
  · rename_i hnew
    obtain rfl := Option.some.inj happend
    exact houter.concat hnew ⟨trivial, trivial⟩
  · rename_i hfind
    obtain rfl := Option.some.inj happend
    have hitems := itemsNameOnce_iff.mp (houter.value hfind)
    refine houter.set (itemsNameOnce_iff.mpr fun item hitem => ?_)
    rcases List.mem_append.mp hitem with hitem | hitem
    · exact hitems item hitem
    · obtain rfl := List.mem_singleton.mp hitem
      trivial
  · cases happend

/-! ## What a reading yields -/

namespace Reading

variable {α β : Type} {P : α → Prop} {Q : β → Prop}

/-- Where the reading comes to an end, its result has the property. -/
def Yields (P : α → Prop) (x : Reading α) : Prop :=
  ∀ c a c', x.run c = .ok (a, c') → P a

theorem yields_any (x : Reading α) : Yields (fun _ => True) x := fun _ _ _ _ => trivial

theorem yields_pure {a : α} (h : P a) : Yields P (pure a) := by
  intro c b c' hrun
  obtain ⟨rfl, _⟩ := Prod.mk.inj (Except.ok.inj hrun)
  exact h

theorem yields_fail (p : Problem) : Yields P (fail p) := by
  intro c a c' hrun
  cases hrun

theorem Yields.bind {x : Reading α} {f : α → Reading β} (hx : Yields P x)
    (hf : ∀ a, P a → Yields Q (f a)) : Yields Q (x >>= f) := by
  intro c b c' hrun
  rw [StateT.run_bind] at hrun
  cases hfirst : x.run c with
  | error e =>
    rw [hfirst] at hrun
    cases hrun
  | ok result =>
    rw [hfirst] at hrun
    exact hf result.1 (hx c result.1 result.2 hfirst) result.2 b c' hrun

/-- What comes before does not matter. -/
theorem yields_bind {x : Reading α} {f : α → Reading β} (hf : ∀ a, Yields Q (f a)) :
    Yields Q (x >>= f) :=
  (yields_any x).bind fun a _ => hf a

/-- A part that may be left out does not matter either. -/
theorem yields_optional {c : Prop} [Decidable c] {x : Reading Unit} {f : Unit → Reading β}
    (hf : Yields Q (f ())) : Yields Q (if c then x >>= f else f ()) := by
  split
  · exact yields_bind fun _ => hf
  · exact hf

/-- A value that is one word is no table. -/
theorem namesOnce_of_ofRun? {run : List Char} {v : Value} (h : Scalar.ofRun? run = some v) :
    v.NamesOnce := by
  unfold Scalar.ofRun? at h
  split at h
  · obtain rfl := Option.some.inj h
    trivial
  · split at h
    · obtain rfl := Option.some.inj h
      trivial
    · split at h
      · obtain rfl := Option.some.inj h
        trivial
      · split at h
        · obtain rfl := Option.some.inj h
          trivial
        · obtain ⟨x, _, rfl⟩ := Option.map_eq_some_iff.mp h
          trivial

theorem yields_scalar : Yields Value.NamesOnce scalar := by
  unfold scalar
  refine yields_bind fun c => yields_bind fun c' => yields_optional ?_
  dsimp only
  split
  · rename_i v hv
    exact yields_bind fun _ => yields_pure (namesOnce_of_ofRun? hv)
  · exact yields_fail _

section

variable {fuel : Nat} (hvalue : ∀ depth, Yields (fun v => v.2.NamesOnce) (valueWithin fuel depth))
  (harray : ∀ depth, Yields itemsNameOnce (arrayWithin fuel depth))
  (htable : ∀ depth entries, entriesNameOnce entries →
    Yields entriesNameOnce (inlineTableWithin fuel depth entries))

include harray htable in
theorem yields_valueWithin_succ (depth : Nat) :
    Yields (fun v => v.2.NamesOnce) (valueWithin (fuel + 1) depth) := by
  rw [valueWithin]
  refine yields_bind fun start => yields_bind fun next? => ?_
  -- whatever the value is, its place is put to it in the end
  have hend : ∀ v : Value, v.NamesOnce → Yields (fun v : Span × Value => v.2.NamesOnce)
      (do return (⟨start.position, (← get).position⟩, v)) :=
    fun v hv => yields_bind fun _ => yields_pure hv
  cases next? with
  | none => exact (yields_fail _).bind hend
  | some c =>
    dsimp only
    split
    · exact yields_bind fun _ => yields_bind fun text => (yields_pure trivial).bind hend
    · split
      · refine yields_optional (yields_bind fun _ => (harray _).bind fun items hitems => ?_)
        exact (yields_pure (a := Value.array false items) hitems).bind hend
      · split
        · refine yields_optional (yields_bind fun _ => ?_)
          refine (htable _ [] trivial).bind fun inner hinner => ?_
          exact (yields_pure (a := Value.table .inline inner) hinner).bind hend
        · exact yields_scalar.bind hend

include hvalue harray in
theorem yields_arrayWithin_succ (depth : Nat) :
    Yields itemsNameOnce (arrayWithin (fuel + 1) depth) := by
  rw [arrayWithin]
  refine yields_bind fun _ => yields_bind fun next? => ?_
  split
  · exact yields_bind fun _ => yields_pure trivial
  · refine yields_bind fun next? => ?_
    split
    · exact yields_fail _
    · refine (hvalue depth).bind fun item hitem => yields_bind fun _ => yields_bind fun next? => ?_
      split
      · refine yields_bind fun _ => (harray depth).bind fun items hitems => ?_
        exact yields_pure ⟨hitem, hitems⟩
      · exact yields_bind fun _ => yields_pure ⟨hitem, trivial⟩

include hvalue htable in
theorem yields_inlineTableWithin_succ (depth : Nat) (h : entriesNameOnce entries) :
    Yields entriesNameOnce (inlineTableWithin (fuel + 1) depth entries) := by
  rw [inlineTableWithin]
  refine yields_bind fun _ => yields_bind fun next? => ?_
  split
  · exact yields_bind fun _ => yields_pure h
  · refine yields_bind fun next? => ?_
    split
    · exact yields_fail _
    · refine yields_bind fun ⟨path, key⟩ => yields_bind fun _ => yields_bind fun _ => ?_
      refine yields_bind fun _ => (hvalue depth).bind fun ⟨span, v⟩ hv => ?_
      dsimp only
      split
      · exact yields_fail _
      · rename_i entries' hadd
        -- the entries so far are carried along, so the table is sound wherever it ends
        have h' := keepsNames_addSetting hv path key span .inline entries entries' h hadd
        refine yields_bind fun _ => yields_bind fun next? => ?_
        split
        · exact yields_bind fun _ => htable depth entries' h'
        · exact yields_bind fun _ => yields_pure h'

end

theorem yields_within (fuel : Nat) :
    (∀ depth, Yields (fun v => v.2.NamesOnce) (valueWithin fuel depth))
      ∧ (∀ depth, Yields itemsNameOnce (arrayWithin fuel depth))
      ∧ ∀ depth entries, entriesNameOnce entries →
        Yields entriesNameOnce (inlineTableWithin fuel depth entries) := by
  induction fuel with
  | zero =>
    refine ⟨fun _ => ?_, fun _ => ?_, fun _ _ _ => ?_⟩
    · rw [valueWithin]
      exact yields_fail _
    · rw [arrayWithin]
      exact yields_fail _
    · rw [inlineTableWithin]
      exact yields_fail _
  | succ fuel ih =>
    obtain ⟨hvalue, harray, htable⟩ := ih
    refine ⟨yields_valueWithin_succ harray htable, yields_arrayWithin_succ hvalue harray, ?_⟩
    intro depth entries h
    exact yields_inlineTableWithin_succ hvalue htable depth h

/-! ## The whole document -/

theorem yields_value : Yields (fun v => v.2.NamesOnce) value := by
  unfold value
  exact yields_bind fun c => (yields_within _).1 0

theorem yields_setting {d : Draft} (h : entriesNameOnce d.entries) :
    Yields (fun d => entriesNameOnce d.entries) (setting d) := by
  unfold setting
  refine yields_bind fun ⟨path, key⟩ => yields_bind fun _ => yields_bind fun _ => ?_
  refine yields_value.bind fun ⟨span, v⟩ hv => ?_
  dsimp only
  split
  · exact yields_fail _
  · rename_i entries hadd
    -- the setting goes into the table of the last header, two ways down from the document
    have hkeeps := (keepsNames_addSetting hv path key span).descend false d.header
    exact yields_pure (hkeeps .header d.entries entries h hadd)

theorem yields_header {d : Draft} (h : entriesNameOnce d.entries) :
    Yields (fun d => entriesNameOnce d.entries) (header d) := by
  unfold header
  refine yields_bind fun start => yields_bind fun _ => yields_bind fun next? => ?_
  refine yields_optional (yields_bind fun _ => yields_bind fun ⟨path, key⟩ => ?_)
  refine yields_bind fun _ => yields_optional (yields_bind fun stop => ?_)
  dsimp only
  split
  · exact yields_fail _
  · rename_i entries hadd
    refine yields_pure ?_
    split at hadd
    · exact h.addArrayHeader hadd
    · exact h.addHeader hadd

theorem yields_linesWithin (fuel : Nat) {d : Draft} (h : entriesNameOnce d.entries) :
    Yields (fun d => entriesNameOnce d.entries) (linesWithin fuel d) := by
  induction fuel generalizing d with
  | zero => exact yields_pure h
  | succ fuel ih =>
    rw [linesWithin]
    refine yields_bind fun _ => yields_bind fun next? => ?_
    cases next? with
    | none => exact yields_pure h
    | some c =>
      have hend : ∀ d : Draft, entriesNameOnce d.entries →
          Yields (fun d => entriesNameOnce d.entries) (do endLine; linesWithin fuel d) :=
        fun d hd => yields_bind fun _ => ih hd
      dsimp only
      split
      · exact (yields_pure (a := d) h).bind hend
      · split
        · exact (yields_header h).bind hend
        · exact (yields_setting h).bind hend

theorem yields_document : Yields entriesNameOnce document := by
  unfold document
  refine yields_bind fun first? => yields_optional (yields_bind fun c => ?_)
  exact (yields_linesWithin (d := ⟨[], []⟩) _ trivial).bind fun d hd => yields_pure hd

end Reading

/-- **A document that has been read names nothing twice**, in any of its tables. -/
theorem namesOnce_read {source : List Char} {entries : Entries} (h : read source = .ok entries) :
    entriesNameOnce entries := by
  unfold read at h
  rw [StateT.run'_eq] at h
  cases hrun : Reading.document.run ⟨0, source⟩ with
  | error e =>
    rw [hrun] at h
    cases h
  | ok result =>
    rw [hrun] at h
    obtain rfl := Except.ok.inj h
    exact Reading.yields_document _ _ _ hrun

end SearchQuery.Toml
