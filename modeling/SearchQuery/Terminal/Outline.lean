import SearchQuery.Query.Outline
import SearchQuery.Terminal.Style

/-!
# The outline of a tree in colour

The same lines as `Tree.outline`, with the query as a heading and every mode in its
colour. The lines are found by walking the stored groups, each indented by the
number of groups around it.
-/

namespace SearchQuery.Terminal

/-- The lines of what the group with this number holds, walked down at most `fuel` levels. -/
def styledContents (t : Tree) (s : Styler) : Nat → NodeId → List String
  | 0, _ => []
  | fuel + 1, id =>
    match t.node? id with
    | none => []
    | some n =>
      let margin := Expression.margin (t.depth id + 1)
      let phrases := n.phrases.map fun p =>
        margin ++ "Phrase(" ++ s.mode p.mode ++ ", " ++ Text.quoted p.text ++ ")"
      let groups := n.children.flatMap fun child =>
        match t.node? child with
        | none => []
        | some c => (margin ++ "Group(" ++ s.mode c.mode ++ ")") :: styledContents t s fuel child
      phrases ++ groups

/-- The outline of a tree as a styler writes it, every line ended. -/
def styledOutline (t : Tree) (s : Styler) : String :=
  String.join ((s.header t.heading :: styledContents t s t.size Tree.root).map (· ++ "\n"))

end SearchQuery.Terminal
