import SearchQuery.Query.Tree
import SearchQuery.Text.Quoted

/-!
# Showing a tree as text

The outline of a tree has the query on its first line, then one line for each
phrase and each group, indented by depth. Every text in it is quoted, so a line of
the outline is a line on the screen, whatever was typed.

The record form writes an expression on one line with the names of its fields.
-/

namespace SearchQuery

namespace Expression

/-- The white space before a line at some depth. -/
def margin (depth : Nat) : String :=
  String.join (List.replicate depth "  ")

/-- The line of a phrase. -/
def phraseLine (depth : Nat) (p : Phrase) : String :=
  margin depth ++ "Phrase(" ++ p.mode.label ++ ", " ++ Text.quoted p.text ++ ")"

/-- The line that announces a group. -/
def groupLine (depth : Nat) (mode : Mode) : String :=
  margin depth ++ "Group(" ++ mode.label ++ ")"

mutual

/-- The lines of what a group holds. -/
def outline (depth : Nat) : Expression → List String
  | group _ phrases children => phrases.map (phraseLine depth) ++ outlineAll depth children

/-- The lines of several groups, each announced. -/
def outlineAll (depth : Nat) : List Expression → List String
  | [] => []
  | e :: es => groupLine depth e.mode :: outline (depth + 1) e ++ outlineAll depth es

end

/-- A phrase with the names of its fields. -/
def phraseRecord (p : Phrase) : String :=
  "QueryPhrase \x7b text: " ++ Text.quoted p.text ++ ", mode: " ++ p.mode.constructorName ++
    ", is_multi_word: " ++ (if p.isMultiWord then "true" else "false") ++ " \x7d"

mutual

/-- An expression with the names of its fields. -/
def record : Expression → String
  | group mode phrases children =>
    "QueryExpression \x7b mode: " ++ mode.constructorName ++
      ", phrases: [" ++ ", ".intercalate (phrases.map phraseRecord) ++
      "], children: [" ++ ", ".intercalate (recordAll children) ++ "] \x7d"

/-- The record forms of several expressions. -/
def recordAll : List Expression → List String
  | [] => []
  | e :: es => record e :: recordAll es

end

end Expression

namespace Tree

/-- The first line of an outline. -/
def heading (t : Tree) : String :=
  "Query(" ++ Text.quoted t.query ++ ")"

/-- The lines of the outline of a tree. -/
def outlineLines (t : Tree) : List String :=
  t.heading :: t.rootExpression.outline 1

/-- The outline of a tree, every line ended. -/
def outline (t : Tree) : String :=
  String.join (t.outlineLines.map (· ++ "\n"))

end Tree

end SearchQuery
