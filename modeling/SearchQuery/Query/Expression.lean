import SearchQuery.Query.Phrase

/-!
# Expressions

An expression is what a query means: a group of phrases with further groups
inside it, each marked with the way it takes part in the group around it. Two
queries mean the same when their expressions are equal, whatever was typed.

Everything that is asked of an expression is a walk over it: its own phrases
first, then its children in order.
-/

namespace SearchQuery

/-- A group of phrases and of further groups. -/
inductive Expression where
  | group (mode : Mode) (phrases : List Phrase) (children : List Expression)

namespace Expression

/-- The way the group takes part in the one around it. -/
def mode : Expression → Mode
  | group mode _ _ => mode

/-- The phrases of the group itself. -/
def phrases : Expression → List Phrase
  | group _ phrases _ => phrases

/-- The groups directly inside the group. -/
def children : Expression → List Expression
  | group _ _ children => children

/-- Whether the group holds nothing at all. -/
def isEmpty (e : Expression) : Bool :=
  e.phrases.isEmpty && e.children.isEmpty

/-! ## Equality is decidable -/

mutual

/-- Whether two expressions have equal modes, phrases and children. -/
def same : Expression → Expression → Bool
  | group m ps es, group m' ps' es' => m = m' && ps = ps' && sameAll es es'

/-- Whether two lists of expressions are equal, member by member. -/
def sameAll : List Expression → List Expression → Bool
  | [], [] => true
  | e :: es, e' :: es' => same e e' && sameAll es es'
  | _, _ => false

end

mutual

theorem eq_of_same : ∀ {e e' : Expression}, same e e' = true → e = e'
  | group m ps es, group m' ps' es', h => by
    simp only [same, Bool.and_eq_true, decide_eq_true_eq] at h
    obtain ⟨⟨rfl, rfl⟩, h⟩ := h
    rw [eq_of_sameAll h]

theorem eq_of_sameAll : ∀ {es es' : List Expression}, sameAll es es' = true → es = es'
  | [], [], _ => rfl
  | [], _ :: _, h => by simp [sameAll] at h
  | _ :: _, [], h => by simp [sameAll] at h
  | e :: es, e' :: es', h => by
    simp only [sameAll, Bool.and_eq_true] at h
    rw [eq_of_same h.1, eq_of_sameAll h.2]

end

mutual

theorem same_self : ∀ e : Expression, same e e = true
  | group m ps es => by simp [same, sameAll_self es]

theorem sameAll_self : ∀ es : List Expression, sameAll es es = true
  | [] => by simp [sameAll]
  | e :: es => by simp [sameAll, same_self e, sameAll_self es]

end

theorem same_iff {e e' : Expression} : same e e' = true ↔ e = e' :=
  ⟨eq_of_same, fun h => h ▸ same_self e⟩

instance : DecidableEq Expression := fun _ _ => decidable_of_iff _ same_iff

/-! ## What a search would use -/

mutual

/-- Whether a phrase to find occurs in the expression. -/
def isValid : Expression → Bool
  | group _ phrases children => phrases.any Phrase.isIncluded || anyValid children

/-- Whether a phrase to find occurs in one of the expressions. -/
def anyValid : List Expression → Bool
  | [] => false
  | e :: es => isValid e || anyValid es

end

mutual

/-- The words of the phrases that are included, or of those that are not. -/
def collect (included : Bool) : Expression → List String
  | group _ phrases children =>
    (phrases.filter (fun p => p.isIncluded = included)).flatMap Phrase.words ++
      collectAll included children

/-- The same for several expressions, one after the other. -/
def collectAll (included : Bool) : List Expression → List String
  | [] => []
  | e :: es => collect included e ++ collectAll included es

end

/-- The words to find. -/
def words (e : Expression) : List String := e.collect true

/-- The words that must not be found. -/
def excludedWords (e : Expression) : List String := e.collect false

end Expression

end SearchQuery
