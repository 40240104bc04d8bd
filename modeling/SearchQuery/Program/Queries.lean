import SearchQuery.Program.Outcome
import SearchQuery.Query.Document
import SearchQuery.Terminal.Highlight
import SearchQuery.Terminal.Outline
import SearchQuery.Terminal.Table

/-!
# The commands on queries

Four commands show what becomes of a query: its tree, its words, its tokens, and
whether there is anything to search for. Each query is read on its own, and no
query is an error.
-/

namespace SearchQuery.Context

/-- A document as it is printed, in colour where colours are wanted. -/
def documentText (ctx : Context) (j : Json) : String :=
  (if ctx.styler.enabled then Terminal.highlight .json j.pretty else j.pretty) ++ "\n"

/-- The warning about a query without words. -/
def emptyWarning (ctx : Context) : Message :=
  .line (ctx.styler.warning "warning: query has no searchable words")

/-- Shows the tree of a query. -/
def parse (ctx : Context) (query : String) (json singleQuotes : Bool) : Outcome :=
  let o := ctx.options singleQuotes
  let tree := SearchQuery.parse o query
  let shown :=
    if ctx.wantsDocument json then ctx.prints (ctx.documentText tree.document) []
    else
      ctx.prints (Terminal.styledOutline tree ctx.styler)
        (if tree.isValid then [] else [ctx.emptyWarning])
  shown.after (Log.parseEvents o query)

/-- Lists the words of a query. -/
def words (ctx : Context) (query : String) (json excluded singleQuotes : Bool) : Outcome :=
  let o := ctx.options singleQuotes
  let tree := SearchQuery.parse o query
  let outWords := if excluded then some tree.excludedWords else none
  let text :=
    if ctx.wantsDocument json then
      ctx.documentText (wordsDocument query tree.words outWords)
    else
      String.join (tree.words.map (· ++ "\n")) ++
        String.join ((outWords.getD []).map fun w => ctx.styler.failure ("-" ++ w) ++ "\n")
  (ctx.prints text []).after (Log.parseEvents o query)

/-- The lines on the repair of a query. -/
def repairText (ctx : Context) (query repaired : String) (tokens : List Token) : String :=
  ctx.styler.dim "balanced:" ++ " " ++ ctx.styler.query tokens ++ "\n" ++
    (if repaired = query then ""
      else ctx.styler.dim "repaired:" ++ " " ++ ctx.styler.warning "yes" ++ "\n") ++
    "\n"

/-- Shows the tokens of a query. Only the flag asks for a document here: the format in the
settings is about trees and words. -/
def tokens (ctx : Context) (query : String) (balanced json singleQuotes : Bool) : Outcome :=
  let o := ctx.options singleQuotes
  let tokens := tokenize o query
  let repaired := if balanced then some (repair o query) else none
  let text :=
    if json then ctx.documentText (tokensDocument repaired tokens)
    else
      (match repaired with
        | none => ""
        | some repaired => ctx.repairText query repaired tokens) ++
        Terminal.tokenTable tokens ++ "\n"
  let events := Log.repairEvents o query
  (ctx.prints text []).after (if balanced then events ++ events else events)

/-- The line on a query that is checked. -/
def verdict (ctx : Context) (o : Options) (query : String) : String :=
  if (SearchQuery.parse o query).isValid then
    ctx.styler.success "ok     " ++ " " ++ Text.quoted query
  else
    ctx.styler.failure "invalid" ++ " " ++ Text.quoted query ++ " " ++
      ctx.styler.dim "(no search to perform)"

/-- Checks whether there is anything to search for in each query. -/
def check (ctx : Context) (queries : List String) (quiet singleQuotes : Bool) : Outcome :=
  let o := ctx.options singleQuotes
  { status := if queries.all fun q => (SearchQuery.parse o q).isValid then .success else .failure
    output := if quiet then "" else String.join (queries.map fun q => ctx.verdict o q ++ "\n")
    messages := (queries.flatMap (Log.parseEvents o)).map .event
    files := ctx.site.files }

end SearchQuery.Context
