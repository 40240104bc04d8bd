import SearchQuery.Json
import SearchQuery.Query.Token
import SearchQuery.Query.Tree

/-!
# Queries as documents

What the commands print for other programs: the tree of a query, its words and its
tokens. The query itself stands only at the top of a tree.
-/

namespace SearchQuery

/-- A phrase as a document. -/
def Phrase.document (p : Phrase) : Json :=
  .record [("text", .text p.text), ("mode", .text p.mode.label),
    ("is_multi_word", .bool p.isMultiWord)]

namespace Expression

mutual

/-- The members of the document of an expression. -/
def members : Expression → List (String × Json)
  | group mode phrases children =>
    [("mode", .text mode.label), ("phrases", .list (phrases.map Phrase.document)),
      ("children", .list (documents children))]

/-- The documents of several expressions. -/
def documents : List Expression → List Json
  | [] => []
  | e :: es => .record (members e) :: documents es

end

/-- An expression as a document. -/
def document (e : Expression) : Json := .record e.members

end Expression

/-- A tree as a document. -/
def Tree.document (t : Tree) : Json :=
  .record (("original_query", .text t.query) :: t.rootExpression.members)

/-- A token as a document. -/
def Token.document (t : Token) : Json :=
  .record [("kind", .text t.kind.documentName), ("text", .text t.text)]

/-- The words of a query as a document; the excluded ones only when asked for. -/
def wordsDocument (query : String) (words : List String) (excluded : Option (List String)) :
    Json :=
  let optional := match excluded with
    | none => []
    | some words => [("excluded", Json.list (words.map Json.text))]
  .record ([("query", .text query), ("words", .list (words.map Json.text))] ++ optional)

/-- The tokens of a query as a document; the repaired query only when asked for. -/
def tokensDocument (repaired : Option String) (tokens : List Token) : Json :=
  let optional := match repaired with
    | none => []
    | some query => [("balanced", Json.text query)]
  .record (optional ++ [("tokens", .list (tokens.map Token.document))])

end SearchQuery
