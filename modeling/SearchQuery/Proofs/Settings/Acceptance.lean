import SearchQuery.Proofs.Toml.Lines
import SearchQuery.Proofs.Toml.Names
import SearchQuery.Settings.Discovery

/-!
# Which documents are configuration files

A configuration file may leave out whatever it likes, and it may not say anything that means
nothing. `IsSettings` is that rule, said of a document as a set of keys with values, and `Reflects`
is what the layer of such a document is: a field is set if its key is there, and has its value.

The three tables of a configuration file are decoded in the same way, entry by entry. What one
entry may do is said once for each table (`decodeEntry_eq_ok` and its like): it is accepted or not
whatever came before it, and it sets the field of its name and no other. Two facts about going
through a list carry this to whole tables (`foldlM_accepts`, `foldlM_sets`). The second needs that
no name stands twice, which the reading of documents sees to. Neither depends on the order of the
entries, so decoding in the order of names is as good as any.
-/

namespace SearchQuery

open Toml (Key Span Value Entries)

variable {entries inner : Entries} {name : String} {α ε L : Type} {span : Span}

/-! ## Going through the entries of a table -/

theorem bind_eq_ok {β : Type} {x : Except ε α} {f : α → Except ε β} {b : β} :
    x >>= f = .ok b ↔ ∃ a, x = .ok a ∧ f a = .ok b := by
  cases x <;> simp [bind, Except.bind]

theorem map_eq_ok {β : Type} {x : Except ε α} {f : α → β} {b : β} :
    x.map f = .ok b ↔ ∃ a, x = .ok a ∧ f a = b := by
  cases x <;> simp [Except.map]

/-- Reading a table entry by entry succeeds if each entry is accepted. -/
theorem foldlM_accepts {f : L → Key × Span × Value → Except ε L}
    {accepts : Key × Span × Value → Prop}
    (hf : ∀ e ∈ entries, ∀ l, (∃ l', f l e = .ok l') ↔ accepts e) (l : L) :
    (∃ l', List.foldlM f l entries = .ok l') ↔ ∀ e ∈ entries, accepts e := by
  induction entries generalizing l with
  | nil => exact iff_of_true ⟨l, rfl⟩ (by simp)
  | cons e rest ih =>
    -- an entry is accepted over any layer, so those before it do not matter
    obtain ⟨he, hrest⟩ := List.forall_mem_cons.mp hf
    rw [List.forall_mem_cons, ← he l]
    simp only [List.foldlM_cons, bind_eq_ok]
    constructor
    · intro ⟨l', l₁, hstep, h⟩
      exact ⟨⟨l₁, hstep⟩, (ih hrest l₁).mp ⟨l', h⟩⟩
    · intro ⟨⟨l₁, hstep⟩, h⟩
      obtain ⟨l', hl'⟩ := (ih hrest l₁).mpr h
      exact ⟨l', l₁, hstep, hl'⟩

/-- The order in which the entries are taken does not matter. -/
theorem foldlM_byName_accepts {f : L → Key × Span × Value → Except ε L}
    {accepts : Key × Span × Value → Prop}
    (hf : ∀ e ∈ entries, ∀ l, (∃ l', f l e = .ok l') ↔ accepts e) (l : L) :
    (∃ l', List.foldlM f l entries.byName = .ok l') ↔ ∀ e ∈ entries, accepts e := by
  have hmem : ∀ e, e ∈ entries.byName ↔ e ∈ entries :=
    fun e => (Entries.perm_byName entries).mem_iff
  rw [foldlM_accepts fun e he => hf e ((hmem e).mp he)]
  simp only [hmem]

/-- A field has the meaning of the value under the name, and is not set where the name is absent. -/
inductive Sets (entries : Entries) (name : String) (means : Value → α → Prop) :
    Option α → Prop where
  | absent : name ∉ entries.names → Sets entries name means none
  | present {e : Key × Span × Value} {a : α} : e ∈ entries → e.1.name = name → means e.2.2 a →
      Sets entries name means (some a)

theorem Sets.perm {entries' : Entries} {means : Value → α → Prop} {field : Option α}
    (h : Sets entries name means field) (hp : entries.Perm entries') :
    Sets entries' name means field := by
  cases h with
  | absent hname => exact .absent fun hmem => hname ((hp.map _).mem_iff.mpr hmem)
  | present he hname ha => exact .present (hp.mem_iff.mp he) hname ha

section

variable {f : L → Key × Span × Value → Except ε L} (get : L → Option α)
  (hkeep : ∀ l e l', f l e = .ok l' → e.1.name ≠ name → get l' = get l)

include hkeep

theorem foldlM_keeps {l l' : L} (h : List.foldlM f l entries = .ok l')
    (hname : name ∉ entries.names) : get l' = get l := by
  induction entries generalizing l with
  | nil =>
    cases h
    rfl
  | cons e rest ih =>
    obtain ⟨hne, hrest⟩ := List.ne_and_not_mem_of_not_mem_cons hname
    rw [List.foldlM_cons, bind_eq_ok] at h
    obtain ⟨l₁, hstep, h⟩ := h
    rw [ih h hrest, hkeep l e l₁ hstep (Ne.symm hne)]

/-- **The one entry of a name decides the field of that name.** -/
theorem foldlM_sets {means : Value → α → Prop}
    (hset : ∀ e ∈ entries, ∀ l l', f l e = .ok l' → e.1.name = name →
      ∃ a, get l' = some a ∧ means e.2.2 a)
    (honce : entries.names.Nodup) {l l' : L} (hl : get l = none)
    (h : List.foldlM f l entries = .ok l') : Sets entries name means (get l') := by
  induction entries generalizing l with
  | nil =>
    cases h
    rw [hl]
    exact .absent List.not_mem_nil
  | cons e rest ih =>
    obtain ⟨hnew, honce⟩ := List.nodup_cons.mp honce
    obtain ⟨he, hset⟩ := List.forall_mem_cons.mp hset
    rw [List.foldlM_cons, bind_eq_ok] at h
    obtain ⟨l₁, hstep, h⟩ := h
    by_cases hname : e.1.name = name
    · -- no later entry has the name, so the field stays
      obtain ⟨a, ha, hmeans⟩ := he l l₁ hstep hname
      rw [foldlM_keeps get hkeep h (hname ▸ hnew), ha]
      exact .present List.mem_cons_self hname hmeans
    · have hrest := ih hset honce ((hkeep l e l₁ hstep hname).trans hl) h
      generalize get l' = field at hrest
      cases hrest with
      | absent habsent =>
        exact .absent (List.not_mem_cons_of_ne_of_not_mem (Ne.symm hname) habsent)
      | present he hn ha => exact .present (List.mem_cons_of_mem e he) hn ha

theorem foldlM_byName_sets {means : Value → α → Prop}
    (hset : ∀ e ∈ entries, ∀ l l', f l e = .ok l' → e.1.name = name →
      ∃ a, get l' = some a ∧ means e.2.2 a)
    (honce : entries.names.Nodup) {l l' : L} (hl : get l = none)
    (h : List.foldlM f l entries.byName = .ok l') : Sets entries name means (get l') := by
  -- the entries are taken in another order, which neither side can see
  have hperm := Entries.perm_byName entries
  have hset' : ∀ e ∈ entries.byName, ∀ l l', f l e = .ok l' → e.1.name = name →
      ∃ a, get l' = some a ∧ means e.2.2 a := fun e he => hset e (hperm.mem_iff.mp he)
  have honce' : entries.byName.names.Nodup := (hperm.map _).nodup_iff.mpr honce
  exact (foldlM_sets get hkeep hset' honce' hl h).perm hperm

end

/-! ## What a configuration file may say -/

/-- The section on queries holds one setting at most, a boolean. -/
structure IsQuerySection (entries : Entries) : Prop where
  names : ∀ e ∈ entries, e.1.name = "balance_single_quotes"
  balanceSingleQuotes : ∀ e ∈ entries, e.1.name = "balance_single_quotes" →
    ∃ b, e.2.2 = .boolean b

structure IsOutputSection (entries : Entries) : Prop where
  names : ∀ e ∈ entries, e.1.name = "format" ∨ e.1.name = "color"
  format : ∀ e ∈ entries, e.1.name = "format" → e.2.2 = .string "tree" ∨ e.2.2 = .string "json"
  color : ∀ e ∈ entries, e.1.name = "color" → ∃ b, e.2.2 = .boolean b

/-- The document has known keys only, and a value of the right kind under each. -/
structure IsSettings (entries : Entries) : Prop where
  names : ∀ e ∈ entries, e.1.name = "root" ∨ e.1.name = "query" ∨ e.1.name = "output"
  root : ∀ e ∈ entries, e.1.name = "root" → ∃ b, e.2.2 = .boolean b
  query : ∀ e ∈ entries, e.1.name = "query" →
    ∃ origin inner, e.2.2 = .table origin inner ∧ IsQuerySection inner
  output : ∀ e ∈ entries, e.1.name = "output" →
    ∃ origin inner, e.2.2 = .table origin inner ∧ IsOutputSection inner

/-- The layer says what the section on queries says. -/
def QueryLayer.Reflects (l : QueryLayer) (entries : Entries) : Prop :=
  Sets entries "balance_single_quotes" (fun v b => v = .boolean b) l.balanceSingleQuotes

structure OutputLayer.Reflects (l : OutputLayer) (entries : Entries) : Prop where
  format : Sets entries "format" (fun v f => v = .string f.name) l.format
  color : Sets entries "color" (fun v b => v = .boolean b) l.color

structure Layer.Reflects (l : Layer) (entries : Entries) : Prop where
  root : Sets entries "root" (fun v b => v = .boolean b) l.root
  query : Sets entries "query"
    (fun v q => ∃ origin inner, v = .table origin inner ∧ q.Reflects inner) l.query
  output : Sets entries "output"
    (fun v o => ∃ origin inner, v = .table origin inner ∧ o.Reflects inner) l.output

/-- The sections of the document are tables, and the format is none. -/
structure Sectioned (entries : Entries) : Prop where
  query : ∀ e ∈ entries, e.1.name = "query" → ∃ origin inner, e.2.2 = .table origin inner
  output : ∀ e ∈ entries, e.1.name = "output" → ∃ origin inner, e.2.2 = .table origin inner
  format : ∀ e ∈ entries, e.1.name = "output" → ∀ origin inner, e.2.2 = .table origin inner →
    ∀ e' ∈ inner, e'.1.name = "format" → ∀ origin' below, e'.2.2 ≠ .table origin' below

/-! ## One value -/

theorem OutputFormat.ofName?_eq_some {f : OutputFormat} :
    ofName? name = some f ↔ name = f.name := by
  constructor
  · intro h
    unfold ofName? at h
    split at h
    · rename_i hname
      cases h
      exact hname
    · split at h
      · rename_i hname
        cases h
        exact hname
      · cases h
  · rintro rfl
    exact ofName?_name f

namespace Layer

theorem decodeBool_eq_ok {v : Value} {b : Bool} : decodeBool span v = .ok b ↔ v = .boolean b := by
  cases v <;> simp [decodeBool]

theorem decodeFormat_eq_ok {v : Value} {f : OutputFormat}
    (hv : ∀ origin below, v ≠ .table origin below) :
    decodeFormat span v = .ok f ↔ v = .string f.name := by
  cases v with
  | string name =>
    rw [decodeFormat, decodeFormatName, Value.string.injEq, ← OutputFormat.ofName?_eq_some]
    cases OutputFormat.ofName? name <;> simp
  | table origin below => exact absurd rfl (hv origin below)
  | _ => simp [decodeFormat]

/-! ## One entry -/

variable {e : Key × Span × Value}

theorem decodeQueryEntry_eq_ok {l l' : QueryLayer} : decodeQueryEntry l e = .ok l' ↔
    e.1.name = "balance_single_quotes"
      ∧ ∃ b, e.2.2 = .boolean b ∧ { l with balanceSingleQuotes := some b } = l' := by
  unfold decodeQueryEntry
  split
  · simp only [map_eq_ok, decodeBool_eq_ok, true_and, *]
  · simp [*]

theorem decodeOutputEntry_eq_ok {l l' : OutputLayer} : decodeOutputEntry l e = .ok l' ↔
    (e.1.name = "format"
        ∧ ∃ f, decodeFormat e.2.1 e.2.2 = .ok f ∧ { l with format := some f } = l')
      ∨ e.1.name = "color" ∧ ∃ b, e.2.2 = .boolean b ∧ { l with color := some b } = l' := by
  unfold decodeOutputEntry
  split
  · simp [map_eq_ok, *]
  · split
    · simp [map_eq_ok, decodeBool_eq_ok, *]
    · simp [*]

theorem decodeEntry_eq_ok {l l' : Layer} : decodeEntry l e = .ok l' ↔
    (e.1.name = "root" ∧ ∃ b, e.2.2 = .boolean b ∧ { l with root := some b } = l')
      ∨ (e.1.name = "query"
        ∧ ∃ q, decodeQuery e.2.1 e.2.2 = .ok q ∧ { l with query := some q } = l')
      ∨ e.1.name = "output"
        ∧ ∃ o, decodeOutput e.2.1 e.2.2 = .ok o ∧ { l with output := some o } = l' := by
  unfold decodeEntry
  split
  · simp [map_eq_ok, decodeBool_eq_ok, *]
  · split
    · simp [map_eq_ok, *]
    · split
      · simp [map_eq_ok, *]
      · simp [*]

/-! ## One table -/

variable {origin : Toml.Origin}

theorem decodeQuery_accepts :
    (∃ q, decodeQuery span (.table origin inner) = .ok q) ↔ IsQuerySection inner := by
  have hentry : ∀ e ∈ inner, ∀ l, (∃ l', decodeQueryEntry l e = .ok l') ↔
      e.1.name = "balance_single_quotes" ∧ ∃ b, e.2.2 = .boolean b := by
    intro e _ l
    simp only [decodeQueryEntry_eq_ok]
    constructor
    · intro ⟨_, hname, b, hb, _⟩
      exact ⟨hname, b, hb⟩
    · intro ⟨hname, b, hb⟩
      exact ⟨_, hname, b, hb, rfl⟩
  rw [decodeQuery, foldlM_byName_accepts hentry]
  constructor
  · intro h
    exact ⟨fun e he => (h e he).1, fun e he _ => (h e he).2⟩
  · intro h e he
    exact ⟨h.names e he, h.balanceSingleQuotes e he (h.names e he)⟩

theorem reflects_decodeQuery {q : QueryLayer} (honce : inner.names.Nodup)
    (h : decodeQuery span (.table origin inner) = .ok q) : q.Reflects inner := by
  refine foldlM_byName_sets QueryLayer.balanceSingleQuotes ?_ ?_ honce rfl h
  · intro l e l' hstep hne
    exact absurd (decodeQueryEntry_eq_ok.mp hstep).1 hne
  · intro e _ l l' hstep _
    obtain ⟨_, b, hb, rfl⟩ := decodeQueryEntry_eq_ok.mp hstep
    exact ⟨b, rfl, hb⟩

theorem decodeOutput_accepts
    (hformat : ∀ e ∈ inner, e.1.name = "format" → ∀ origin below, e.2.2 ≠ .table origin below) :
    (∃ o, decodeOutput span (.table origin inner) = .ok o) ↔ IsOutputSection inner := by
  have hentry : ∀ e ∈ inner, ∀ l, (∃ l', decodeOutputEntry l e = .ok l') ↔
      (e.1.name = "format" ∧ ∃ f : OutputFormat, e.2.2 = .string f.name)
        ∨ e.1.name = "color" ∧ ∃ b, e.2.2 = .boolean b := by
    intro e he l
    simp only [decodeOutputEntry_eq_ok]
    constructor
    · rintro ⟨_, ⟨hname, f, hf, _⟩ | ⟨hname, b, hb, _⟩⟩
      · exact .inl ⟨hname, f, (decodeFormat_eq_ok (hformat e he hname)).mp hf⟩
      · exact .inr ⟨hname, b, hb⟩
    · rintro (⟨hname, f, hf⟩ | ⟨hname, b, hb⟩)
      · have hok : decodeFormat e.2.1 e.2.2 = .ok f :=
          (decodeFormat_eq_ok (hformat e he hname)).mpr hf
        exact ⟨_, .inl ⟨hname, f, hok, rfl⟩⟩
      · exact ⟨_, .inr ⟨hname, b, hb, rfl⟩⟩
  have hnamed : ∀ v : Value, (∃ f : OutputFormat, v = .string f.name) ↔
      v = .string "tree" ∨ v = .string "json" := by
    intro v
    constructor
    · rintro ⟨f, rfl⟩
      cases f with
      | tree => exact .inl rfl
      | json => exact .inr rfl
    · rintro (rfl | rfl)
      · exact ⟨.tree, rfl⟩
      · exact ⟨.json, rfl⟩
  rw [decodeOutput, foldlM_byName_accepts hentry]
  simp only [hnamed]
  constructor
  · intro h
    refine ⟨fun e he => ?_, fun e he hname => ?_, fun e he hname => ?_⟩
    · exact (h e he).imp And.left And.left
    · rcases h e he with ⟨_, hf⟩ | ⟨hcolor, _⟩
      · exact hf
      · exact absurd (hname.symm.trans hcolor) (by decide)
    · rcases h e he with ⟨hformat, _⟩ | ⟨_, hb⟩
      · exact absurd (hname.symm.trans hformat) (by decide)
      · exact hb
  · intro h e he
    rcases h.names e he with hname | hname
    · exact .inl ⟨hname, h.format e he hname⟩
    · exact .inr ⟨hname, h.color e he hname⟩

theorem reflects_decodeOutput {o : OutputLayer} (honce : inner.names.Nodup)
    (hformat : ∀ e ∈ inner, e.1.name = "format" → ∀ origin below, e.2.2 ≠ .table origin below)
    (h : decodeOutput span (.table origin inner) = .ok o) : o.Reflects inner := by
  constructor
  · refine foldlM_byName_sets OutputLayer.format ?_ ?_ honce rfl h
    · intro l e l' hstep hne
      rcases decodeOutputEntry_eq_ok.mp hstep with ⟨hname, _⟩ | ⟨_, b, _, rfl⟩
      · exact absurd hname hne
      · rfl
    · intro e he l l' hstep hname
      rcases decodeOutputEntry_eq_ok.mp hstep with ⟨_, f, hf, rfl⟩ | ⟨hcolor, _⟩
      · exact ⟨f, rfl, (decodeFormat_eq_ok (hformat e he hname)).mp hf⟩
      · exact absurd (hname.symm.trans hcolor) (by decide)
  · refine foldlM_byName_sets OutputLayer.color ?_ ?_ honce rfl h
    · intro l e l' hstep hne
      rcases decodeOutputEntry_eq_ok.mp hstep with ⟨_, f, _, rfl⟩ | ⟨hname, _⟩
      · rfl
      · exact absurd hname hne
    · intro e _ l l' hstep hname
      rcases decodeOutputEntry_eq_ok.mp hstep with ⟨hformat, _⟩ | ⟨_, b, hb, rfl⟩
      · exact absurd (hname.symm.trans hformat) (by decide)
      · exact ⟨b, rfl, hb⟩

/-! ## The document -/

theorem decode_accepts (hshape : Sectioned entries) :
    (∃ l, decode entries = .ok l) ↔ IsSettings entries := by
  have hentry : ∀ e ∈ entries, ∀ l, (∃ l', decodeEntry l e = .ok l') ↔
      (e.1.name = "root" ∧ ∃ b, e.2.2 = .boolean b)
        ∨ (e.1.name = "query" ∧ ∃ origin inner, e.2.2 = .table origin inner ∧ IsQuerySection inner)
        ∨ e.1.name = "output"
          ∧ ∃ origin inner, e.2.2 = .table origin inner ∧ IsOutputSection inner := by
    intro e he l
    simp only [decodeEntry_eq_ok]
    constructor
    · rintro ⟨_, ⟨hname, b, hb, _⟩ | ⟨hname, q, hq, _⟩ | ⟨hname, o, ho, _⟩⟩
      · exact .inl ⟨hname, b, hb⟩
      · obtain ⟨origin, inner, htable⟩ := hshape.query e he hname
        rw [htable] at hq
        exact .inr (.inl ⟨hname, origin, inner, htable, decodeQuery_accepts.mp ⟨q, hq⟩⟩)
      · obtain ⟨origin, inner, htable⟩ := hshape.output e he hname
        have hformat := hshape.format e he hname origin inner htable
        rw [htable] at ho
        exact .inr (.inr ⟨hname, origin, inner, htable, (decodeOutput_accepts hformat).mp ⟨o, ho⟩⟩)
    · rintro (⟨hname, b, hb⟩ | ⟨hname, origin, inner, htable, hin⟩
        | ⟨hname, origin, inner, htable, hin⟩)
      · exact ⟨_, .inl ⟨hname, b, hb, rfl⟩⟩
      · obtain ⟨q, hq⟩ := decodeQuery_accepts.mpr hin
        exact ⟨_, .inr (.inl ⟨hname, q, htable ▸ hq, rfl⟩)⟩
      · have hformat := hshape.format e he hname origin inner htable
        obtain ⟨o, ho⟩ := (decodeOutput_accepts hformat).mpr hin
        exact ⟨_, .inr (.inr ⟨hname, o, htable ▸ ho, rfl⟩)⟩
  rw [decode, foldlM_byName_accepts hentry]
  constructor
  · intro h
    refine ⟨fun e he => ?_, fun e he hname => ?_, fun e he hname => ?_, fun e he hname => ?_⟩
    · exact (h e he).imp And.left (Or.imp And.left And.left)
    · rcases h e he with ⟨_, hv⟩ | ⟨hother, _⟩ | ⟨hother, _⟩
      · exact hv
      · exact absurd (hname.symm.trans hother) (by decide)
      · exact absurd (hname.symm.trans hother) (by decide)
    · rcases h e he with ⟨hother, _⟩ | ⟨_, hv⟩ | ⟨hother, _⟩
      · exact absurd (hname.symm.trans hother) (by decide)
      · exact hv
      · exact absurd (hname.symm.trans hother) (by decide)
    · rcases h e he with ⟨hother, _⟩ | ⟨hother, _⟩ | ⟨_, hv⟩
      · exact absurd (hname.symm.trans hother) (by decide)
      · exact absurd (hname.symm.trans hother) (by decide)
      · exact hv
  · intro h e he
    rcases h.names e he with hname | hname | hname
    · exact .inl ⟨hname, h.root e he hname⟩
    · exact .inr (.inl ⟨hname, h.query e he hname⟩)
    · exact .inr (.inr ⟨hname, h.output e he hname⟩)

theorem reflects_decode {l : Layer} (honce : Toml.entriesNameOnce entries)
    (hshape : Sectioned entries) (h : decode entries = .ok l) : l.Reflects entries := by
  obtain ⟨hnodup, hinside⟩ := Toml.entriesNameOnce_iff.mp honce
  have hinner : ∀ e ∈ entries, ∀ origin inner, e.2.2 = .table origin inner →
      (Entries.names inner).Nodup := by
    intro e he origin inner htable
    -- names stand once in the tables inside, too
    have hvalue := hinside e he
    rw [htable] at hvalue
    exact (Toml.entriesNameOnce_iff.mp hvalue).1
  constructor
  · refine foldlM_byName_sets Layer.root ?_ ?_ hnodup rfl h
    · intro l e l' hstep hne
      rcases decodeEntry_eq_ok.mp hstep with ⟨hname, _⟩ | ⟨_, _, _, rfl⟩ | ⟨_, _, _, rfl⟩
      · exact absurd hname hne
      · rfl
      · rfl
    · intro e _ l l' hstep hname
      rcases decodeEntry_eq_ok.mp hstep with ⟨_, b, hb, rfl⟩ | ⟨hother, _⟩ | ⟨hother, _⟩
      · exact ⟨b, rfl, hb⟩
      · exact absurd (hname.symm.trans hother) (by decide)
      · exact absurd (hname.symm.trans hother) (by decide)
  · refine foldlM_byName_sets Layer.query ?_ ?_ hnodup rfl h
    · intro l e l' hstep hne
      rcases decodeEntry_eq_ok.mp hstep with ⟨_, _, _, rfl⟩ | ⟨hname, _⟩ | ⟨_, _, _, rfl⟩
      · rfl
      · exact absurd hname hne
      · rfl
    · intro e he l l' hstep hname
      rcases decodeEntry_eq_ok.mp hstep with ⟨hother, _⟩ | ⟨_, q, hq, rfl⟩ | ⟨hother, _⟩
      · exact absurd (hname.symm.trans hother) (by decide)
      · obtain ⟨origin, inner, htable⟩ := hshape.query e he hname
        rw [htable] at hq
        have hreflects := reflects_decodeQuery (hinner e he origin inner htable) hq
        exact ⟨q, rfl, origin, inner, htable, hreflects⟩
      · exact absurd (hname.symm.trans hother) (by decide)
  · refine foldlM_byName_sets Layer.output ?_ ?_ hnodup rfl h
    · intro l e l' hstep hne
      rcases decodeEntry_eq_ok.mp hstep with ⟨_, _, _, rfl⟩ | ⟨_, _, _, rfl⟩ | ⟨hname, _⟩
      · rfl
      · rfl
      · exact absurd hname hne
    · intro e he l l' hstep hname
      rcases decodeEntry_eq_ok.mp hstep with ⟨hother, _⟩ | ⟨hother, _⟩ | ⟨_, o, ho, rfl⟩
      · exact absurd (hname.symm.trans hother) (by decide)
      · exact absurd (hname.symm.trans hother) (by decide)
      · obtain ⟨origin, inner, htable⟩ := hshape.output e he hname
        have hformat := hshape.format e he hname origin inner htable
        rw [htable] at ho
        have hreflects := reflects_decodeOutput (hinner e he origin inner htable) hformat ho
        exact ⟨o, rfl, origin, inner, htable, hreflects⟩

end Layer

/-- **A file is accepted exactly if all that it says is known, and its layer is what it says.**
Both sides speak of which entries the document has, and not of their order. -/
theorem readFrom_accepts (p : Path) (text : String) (hread : Toml.read text.toList = .ok entries)
    (hshape : Sectioned entries) :
    ((∃ l, Layer.readFrom p text = .ok l) ↔ IsSettings entries)
      ∧ ∀ l, Layer.readFrom p text = .ok l → l.Reflects entries := by
  have heq : ∀ l, Layer.readFrom p text = .ok l ↔ Layer.decode entries = .ok l := by
    intro l
    unfold Layer.readFrom Layer.read
    cases hdecode : Layer.decode entries <;> simp [hread, hdecode]
  simp only [heq]
  exact ⟨Layer.decode_accepts hshape,
    fun l h => Layer.reflects_decode (Toml.namesOnce_read hread) hshape h⟩

/-- The entries of a file that chooses a format. -/
def jsonEntries : Entries :=
  [(⟨"output", ⟨1, 7⟩⟩, ⟨0, 8⟩,
    .table .header [(⟨"format", ⟨9, 15⟩⟩, ⟨18, 24⟩, .string "json")])]

/-- The lines of the file. -/
def jsonLines : List Toml.Line := [.header "output", .setting "format" (.string "json")]

theorem readFrom_accepts_json :
    Toml.read "[output]\nformat = \"json\"\n".toList = .ok jsonEntries
      ∧ Sectioned jsonEntries
      ∧ (∃ l, Layer.readFrom ⟨[".sift.toml"]⟩ "[output]\nformat = \"json\"\n" = .ok l)
      ∧ ∀ l, Layer.readFrom ⟨[".sift.toml"]⟩ "[output]\nformat = \"json\"\n" = .ok l →
        l.Reflects jsonEntries := by
  have hplain : ∀ line ∈ jsonLines, line.Plain := by
    have hjson : "json".toList.all Toml.Literal.isSimple = true := by decide
    simp only [jsonLines, List.forall_mem_cons]
    exact ⟨⟨by decide, by decide⟩, ⟨⟨by decide, by decide⟩, hjson⟩, by simp⟩
  have htext : "[output]\nformat = \"json\"\n".toList = Toml.linesText jsonLines := by decide
  have hadd : Toml.addLines 0 ⟨[], []⟩ jsonLines = some ⟨jsonEntries, [⟨"output", ⟨1, 7⟩⟩]⟩ := rfl
  have hread : Toml.read "[output]\nformat = \"json\"\n".toList = .ok jsonEntries := by
    rw [htext]
    exact Toml.read_lines hplain hadd
  have hshape : Sectioned jsonEntries := by
    refine ⟨by simp [jsonEntries], by simp [jsonEntries], ?_⟩
    intro e he _ origin inner htable e' he' _ origin' below hbelow
    obtain rfl := List.mem_singleton.mp he
    cases htable
    obtain rfl := List.mem_singleton.mp he'
    cases hbelow
  have hsection : IsOutputSection [(⟨"format", ⟨9, 15⟩⟩, ⟨18, 24⟩, .string "json")] := by
    constructor <;> simp
  have hsettings : IsSettings jsonEntries := by
    constructor <;> simp [jsonEntries, hsection]
  obtain ⟨haccepts, hreflects⟩ := readFrom_accepts ⟨[".sift.toml"]⟩ _ hread hshape
  exact ⟨hread, hshape, haccepts.mpr hsettings, hreflects⟩

end SearchQuery
