import SearchQuery.Query.Expression

/-!
# Trees of groups

While a query is read, groups are opened and closed and phrases arrive in the
group that is open. A `Tree` stores the groups in the order of their opening and
links each to its parent and to its children by number; number 0 is the whole
query. A child is always younger than its parent, so a walk down the tree from a
group ends after at most as many steps as there are groups, and so does a walk up.

`Tree.expression` is the view to reason with: the group of a number, with all that
is inside it, as an `Expression`.
-/

namespace SearchQuery

/-- The number of a group in its tree. -/
abbrev NodeId := Nat

/-- A group as it is stored. -/
structure Node where
  /-- The way the group takes part in its parent. -/
  mode : Mode
  /-- The group around it; none for the whole query. -/
  parent : Option NodeId
  phrases : List Phrase
  children : List NodeId
  deriving DecidableEq, Repr

/-- A query that has been read. -/
structure Tree where
  /-- The query as it was typed. -/
  query : String
  nodes : Array Node
  deriving DecidableEq, Repr

namespace Tree

/-- The number of the whole query. -/
def root : NodeId := 0

/-- The tree of a query of which nothing has been read. -/
def empty (query : String) : Tree :=
  ⟨query, #[⟨.default, none, [], []⟩]⟩

/-- The number of groups, the whole query included. -/
def size (t : Tree) : Nat := t.nodes.size

/-- The group with this number, if there is one. -/
def node? (t : Tree) (id : NodeId) : Option Node := t.nodes[id]?

/-- The parent of a group. -/
def parent? (t : Tree) (id : NodeId) : Option NodeId := (t.node? id).bind Node.parent

/-- Adds a phrase to a group; a text that is blank adds nothing. -/
def addPhrase (t : Tree) (id : NodeId) (text : String) (mode : Mode) : Tree :=
  let phrase := Phrase.ofText text mode
  if phrase.text = "" then t
  else
    { t with nodes := t.nodes.modify id fun n => { n with phrases := n.phrases ++ [phrase] } }

/-- Opens a group inside another; its number is the size of the tree before. -/
def addGroup (t : Tree) (parent : NodeId) (mode : Mode) : Tree :=
  let nodes := t.nodes.modify parent fun n => { n with children := n.children ++ [t.size] }
  { t with nodes := nodes.push ⟨mode, some parent, [], []⟩ }

/-! ## Walking down -/

/-- The group with this number, walked down at most `fuel` levels. -/
def expressionWithin (t : Tree) : Nat → NodeId → Expression
  | 0, _ => .group .default [] []
  | fuel + 1, id =>
    match t.node? id with
    | none => .group .default [] []
    | some n => .group n.mode n.phrases (n.children.map (t.expressionWithin fuel))

/-- The group with this number and all that is inside it. -/
def expression (t : Tree) (id : NodeId) : Expression :=
  t.expressionWithin t.size id

/-- The numbers in a group, itself first, walked down at most `fuel` levels. -/
def preorderWithin (t : Tree) : Nat → NodeId → List NodeId
  | 0, _ => []
  | fuel + 1, id =>
    match t.node? id with
    | none => []
    | some n => id :: n.children.flatMap (t.preorderWithin fuel)

/-- The numbers in a group: itself, then each child with what is inside it. -/
def preorder (t : Tree) (id : NodeId) : List NodeId :=
  t.preorderWithin t.size id

/-! ## Walking up -/

/-- How many groups are around the one with this number, counted up to `fuel`. -/
def depthWithin (t : Tree) : Nat → NodeId → Nat
  | 0, _ => 0
  | fuel + 1, id =>
    match t.parent? id with
    | none => 0
    | some parent => t.depthWithin fuel parent + 1

/-- How many groups are around the one with this number. -/
def depth (t : Tree) (id : NodeId) : Nat :=
  t.depthWithin t.size id

/-! ## The whole query -/

/-- What the whole query means. -/
def rootExpression (t : Tree) : Expression := t.expression root

/-- Whether there is something to search for. -/
def isValid (t : Tree) : Bool := t.rootExpression.isValid

/-- The words a search would use. -/
def words (t : Tree) : List String := t.rootExpression.words

/-- The words that must not be found. -/
def excludedWords (t : Tree) : List String := t.rootExpression.excludedWords

end Tree

end SearchQuery
