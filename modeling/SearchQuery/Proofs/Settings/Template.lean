import SearchQuery.Proofs.Toml.Lines
import SearchQuery.Settings.Decode
import SearchQuery.Settings.Template

/-!
# New configuration files set nothing

What a new file explains is commented out, line by line. So each of its lines is empty or starts
with a comment sign, and the file is read as a layer that says nothing, whatever the lines were
(`read_ofLines`). All that is asked of them is that a comment may have their characters.
-/

namespace SearchQuery.Template

variable {line : String} {lines : List String}

theorem isIdleLine_commentOut (h : ∀ c ∈ line.toList, Toml.StringForm.isPlain c = true) :
    Toml.IsIdleLine (commentOut line).toList := by
  unfold commentOut
  split
  · rename_i hidle
    rw [Bool.or_eq_true, decide_eq_true_eq, decide_eq_true_eq] at hidle
    refine ⟨?_, h⟩
    -- an empty line, or one that is a comment already, is left as it is
    rcases hidle with rfl | hsign
    · exact .inl rfl
    · exact .inr hsign
  · have hsign : ("# " ++ line).toList = '#' :: ' ' :: line.toList := by
      rw [String.toList_append]
      rfl
    rw [hsign]
    refine ⟨.inr rfl, fun c hc => ?_⟩
    rcases List.mem_cons.mp hc with rfl | hc
    · decide
    · rcases List.mem_cons.mp hc with rfl | hc
      · decide
      · exact h c hc

theorem toList_ofLines (lines : List String) :
    (ofLines lines).toList
      = (lines.map fun line => (commentOut line).toList).flatMap (· ++ ['\n']) := by
  unfold ofLines
  induction lines with
  | nil => rfl
  | cons line lines ih =>
    rw [List.map_cons, String.join_cons, String.toList_append, ih, String.toList_append,
      List.map_cons, List.flatMap_cons]
    rfl

/-- **Commented lines are a layer that says nothing.** -/
theorem read_ofLines (h : ∀ line ∈ lines, ∀ c ∈ line.toList, Toml.StringForm.isPlain c = true) :
    Layer.read (ofLines lines) = .ok .empty := by
  have hidle : ∀ text ∈ lines.map fun line => (commentOut line).toList, Toml.IsIdleLine text := by
    intro text htext
    obtain ⟨line, hline, rfl⟩ := List.mem_map.mp htext
    exact isIdleLine_commentOut (h line hline)
  unfold Layer.read
  rw [toList_ofLines, Toml.read_idleLines hidle]
  rfl

/-- A line is plain if its characters are; they are at hand in a line that is written out. -/
theorem plain_ofList {chars : List Char} (h : chars.all Toml.StringForm.isPlain = true) :
    ∀ c ∈ (String.ofList chars).toList, Toml.StringForm.isPlain c = true := by
  rw [String.toList_ofList]
  exact List.all_eq_true.mp h

theorem plain_projectLines :
    ∀ line ∈ projectLines, ∀ c ∈ line.toList, Toml.StringForm.isPlain c = true := by
  simp only [projectLines, List.forall_mem_cons, List.not_mem_nil, false_implies, implies_true,
    and_true]
  and_intros <;> exact plain_ofList (by decide +kernel)

theorem plain_globalLines :
    ∀ line ∈ globalLines, ∀ c ∈ line.toList, Toml.StringForm.isPlain c = true := by
  simp only [globalLines, List.forall_mem_cons, List.not_mem_nil, false_implies, implies_true,
    and_true]
  and_intros <;> exact plain_ofList (by decide +kernel)

theorem read_project : Layer.read project = .ok .empty := read_ofLines plain_projectLines

theorem read_global : Layer.read global = .ok .empty := read_ofLines plain_globalLines

/-- Nothing but line breaks is added to the characters of plain lines and to comment signs. -/
theorem isPlain_of_mem_ofLines
    (h : ∀ line ∈ lines, ∀ c ∈ line.toList, Toml.StringForm.isPlain c = true) :
    ∀ c ∈ (ofLines lines).toList, c = '\n' ∨ Toml.StringForm.isPlain c = true := by
  intro c hc
  rw [toList_ofLines, List.mem_flatMap] at hc
  obtain ⟨text, htext, hc⟩ := hc
  obtain ⟨line, hline, rfl⟩ := List.mem_map.mp htext
  rcases List.mem_append.mp hc with hc | hc
  · exact .inr ((isIdleLine_commentOut (h line hline)).plain c hc)
  · exact .inl (List.mem_singleton.mp hc)

end SearchQuery.Template
