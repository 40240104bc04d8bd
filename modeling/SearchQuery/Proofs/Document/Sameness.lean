import SearchQuery.Proofs.Document.Printing
import SearchQuery.Proofs.Reading.Terms
import SearchQuery.Query.Document

/-!
# When two queries are the same

Trees can be compared group by group with their numbers, by what they mean, or by what
is printed of them. The first asks for the most and could tell apart two trees that mean
the same, if one of them stored its groups in another order. It does not, because the
tree of a query stores what it means in one way only: it fills all its numbers with its
expression (`stores_parse`), and `Tree.Stores.nodes_eq` says that there is no second way
to do so. The rest is about documents: an expression can be read back from its document,
member by member, and the query stands in a member of its own.
-/

namespace SearchQuery

/-! ## Documents keep everything -/

theorem Mode.label_inj {m m' : Mode} (h : m.label = m'.label) : m = m' := by
  cases m <;> cases m' <;> first | rfl | simp [label] at h

theorem Phrase.document_inj {p p' : Phrase} (h : p.document = p'.document) : p = p' := by
  obtain ⟨text, mode, isMultiWord⟩ := p
  obtain ⟨text', mode', isMultiWord'⟩ := p'
  simp only [document, Json.record.injEq, List.cons.injEq, Prod.mk.injEq, Json.text.injEq,
    Json.bool.injEq, true_and, and_true] at h
  obtain ⟨rfl, hmode, rfl⟩ := h
  rw [Mode.label_inj hmode]

theorem Phrase.map_document_inj {ps ps' : List Phrase}
    (h : ps.map document = ps'.map document) : ps = ps' :=
  (List.map_inj_right fun _ _ => document_inj).mp h

namespace Expression

mutual

/-- **An expression can be read back from the members of its document.** -/
theorem members_inj : ∀ {e e' : Expression}, members e = members e' → e = e'
  | .group mode phrases children, .group mode' phrases' children', h => by
    simp only [members, List.cons.injEq, Prod.mk.injEq, Json.text.injEq, Json.list.injEq,
      true_and, and_true] at h
    -- the names of the members are the same in every document, so it is their values that agree
    obtain ⟨hmode, hphrases, hchildren⟩ := h
    rw [Mode.label_inj hmode, Phrase.map_document_inj hphrases, documents_inj hchildren]

theorem documents_inj : ∀ {es es' : List Expression}, documents es = documents es' → es = es'
  | [], [], _ => rfl
  | [], _ :: _, h => by simp [documents] at h
  | _ :: _, [], h => by simp [documents] at h
  | e :: es, e' :: es', h => by
    simp only [documents, List.cons.injEq, Json.record.injEq] at h
    rw [members_inj h.1, documents_inj h.2]

end

theorem document_inj {e e' : Expression} : e.document = e'.document ↔ e = e' :=
  ⟨fun h => members_inj (Json.record.inj h), fun h => h ▸ rfl⟩

end Expression

theorem Tree.document_inj {t t' : Tree} :
    t.document = t'.document ↔ t.query = t'.query ∧ t.rootExpression = t'.rootExpression := by
  constructor
  · intro h
    simp only [document, Json.record.injEq, List.cons.injEq, Prod.mk.injEq, Json.text.injEq,
      true_and] at h
    exact ⟨h.1, Expression.members_inj h.2⟩
  · rintro ⟨hquery, hroot⟩
    rw [document, document, hquery, hroot]

/-! ## A document without one of its members -/

/-- The record without the members of this name; those of records inside it stay. -/
def Json.without (name : String) : Json → Json
  | record members => record (members.filter fun member => member.1 ≠ name)
  | j => j

/-- Without the query, the document of a tree is that of its expression. -/
theorem Tree.without_query (t : Tree) :
    t.document.without "original_query" = t.rootExpression.document := by
  rw [document, Expression.document]
  cases t.rootExpression with
  | group mode phrases children => simp [Json.without, Expression.members]

/-! ## The tree of a query -/

namespace Tree

variable {t : Tree} {id : NodeId}

theorem query_addPhrase (text : String) (mode : Mode) :
    (t.addPhrase id text mode).query = t.query := by
  unfold addPhrase
  dsimp only
  split <;> rfl

theorem query_addGroup (mode : Mode) : (t.addGroup id mode).query = t.query := rfl

end Tree

theorem Reader.query_step (r : Reader) (token : Token) :
    (r.step token).tree.query = r.tree.query := by
  -- no token touches the query, whichever of the three things it does
  rcases r.tree_step_cases token with ⟨ht, _, _⟩ | ⟨text, mode, ht, _, _⟩ | ⟨ht, _, _⟩
  · rw [ht]
  · rw [ht, Tree.query_addPhrase]
  · rw [ht, Tree.query_addGroup]

theorem Reader.query_run (r : Reader) (tokens : List Token) :
    (r.run tokens).tree.query = r.tree.query := by
  induction tokens generalizing r with
  | nil => rfl
  | cons token rest ih => exact (ih (r.step token)).trans (r.query_step token)

/-- A tree holds the query that was typed, not the repaired one. -/
theorem query_parse (o : Options) (query : String) : (parse o query).query = query :=
  (Reader.start query).query_run (tokenize o query)

/-- **Trees of queries that mean the same store it alike.** -/
theorem parse_eq_iff {o o' : Options} {query query' : String} :
    parse o query = parse o' query'
      ↔ query = query' ∧ (parse o query).rootExpression = (parse o' query').rootExpression := by
  constructor
  · intro h
    refine ⟨?_, by rw [h]⟩
    rw [← query_parse o query, h, query_parse]
  · rintro ⟨rfl, hroot⟩
    have hstores := stores_parse o query
    -- both trees store the one expression, each in all its numbers
    rw [hroot] at hstores
    have hnodes := hstores.nodes_eq (stores_parse o' query)
    have hquery : (parse o query).query = (parse o' query).query := by
      rw [query_parse, query_parse]
    calc parse o query
        = ⟨(parse o query).query, (parse o query).nodes⟩ := rfl
      _ = ⟨(parse o' query).query, (parse o' query).nodes⟩ := by rw [hquery, hnodes]
      _ = parse o' query := rfl

/--
**The three ways to compare two queries agree.** Their trees are equal with all numbers
exactly when the same was typed and means the same, and exactly when their documents are
equal, also as they are printed. What was typed makes no other difference than the member
that holds it: without it the documents are equal exactly when the queries mean the same.
-/
theorem parse_same_iff (o o' : Options) (query query' : String) :
    (parse o query = parse o' query'
        ↔ query = query'
          ∧ (parse o query).rootExpression.same (parse o' query').rootExpression = true)
      ∧ (parse o query = parse o' query' ↔ (parse o query).document = (parse o' query').document)
      ∧ (parse o query = parse o' query'
        ↔ (parse o query).document.pretty = (parse o' query').document.pretty)
      ∧ ((parse o query).rootExpression.same (parse o' query').rootExpression = true
        ↔ (parse o query).document.without "original_query"
          = (parse o' query').document.without "original_query") := by
  have hdocument : parse o query = parse o' query'
      ↔ (parse o query).document = (parse o' query').document := by
    rw [parse_eq_iff, Tree.document_inj, query_parse, query_parse]
  refine ⟨?_, hdocument, ?_, ?_⟩
  · rw [Expression.same_iff]
    exact parse_eq_iff
  · rw [Json.pretty_inj]
    exact hdocument
  · rw [Expression.same_iff, Tree.without_query, Tree.without_query, Expression.document_inj]

end SearchQuery
