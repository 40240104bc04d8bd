import SearchQuery.Query.Token
import SearchQuery.Query.Tree

/-!
# Reading the tokens

The tokens of a query are read one by one into a tree. Outside quotes a word is a
phrase of the group that is open, a keyword sets the combinator of that group for
what follows in it, a parenthesis opens or closes a group, and a sign waits for
the next word, wherever that stands. Between quotes all is text, and the closing
quote makes one phrase of it.

No query is refused: a `)` with nothing to close is ignored, and text after a
quote that is never closed is dropped. After a repair neither happens.

The reading is a fold of `Reader.step`; what the log says about it is told by
`Reader.report`, from the state before each step.
-/

namespace SearchQuery

/-- The keyword in force in a group. -/
inductive Combinator where
  | none
  | or
  | and
  deriving DecidableEq, Repr

/-- The mode of phrases and groups under a combinator. -/
def Combinator.mode : Combinator → Mode
  | none => .default
  | or => .or
  | and => .and

/-- A sign that waits for the next word. -/
inductive Sign where
  | plus
  | minus
  deriving DecidableEq, Repr

/-- The mode that a sign gives to a word. -/
def Sign.mode : Sign → Mode
  | plus => .default
  | minus => .exclude

/-- Where the reading stands with respect to quotes. -/
inductive Quoting where
  | outside
  /-- Between quotes, with the text so far. -/
  | inside (text : String)
  deriving DecidableEq, Repr

/-- Whether the reading is between quotes. -/
def Quoting.isInside : Quoting → Bool
  | outside => false
  | inside _ => true

/-- The state of a reading. -/
structure Reader where
  tree : Tree
  /-- The group that is open. -/
  cursor : NodeId
  quoting : Quoting
  /-- The combinators of the open groups, innermost first. -/
  levels : List Combinator
  sign : Option Sign
  deriving DecidableEq, Repr

namespace Reader

/-- The state before the first token. -/
def start (query : String) : Reader :=
  ⟨.empty query, Tree.root, .outside, [.none], none⟩

/-- The combinator of the group that is open. -/
def combinator (r : Reader) : Combinator :=
  r.levels.head?.getD .none

/-- Sets the combinator of the group that is open. -/
def setCombinator (r : Reader) (c : Combinator) : Reader :=
  match r.levels with
  | [] => r
  | _ :: outer => { r with levels := c :: outer }

/-- Adds a phrase to the group that is open. -/
def addPhrase (r : Reader) (text : String) (mode : Mode) : Reader :=
  { r with tree := r.tree.addPhrase r.cursor text mode }

/-- Adds a word; it takes the sign that waits, if there is one. -/
def addWord (r : Reader) (text : String) : Reader :=
  let mode := match r.sign with
    | some sign => sign.mode
    | none => r.combinator.mode
  { r.addPhrase text mode with sign := none }

/-- Opens a group in the one that is open. -/
def openGroup (r : Reader) : Reader :=
  { r with
    tree := r.tree.addGroup r.cursor r.combinator.mode
    cursor := r.tree.size
    levels := .none :: r.levels }

/-- Goes back to the group around the one that is open, if there is one. -/
def closeGroup (r : Reader) : Reader :=
  match r.tree.parent? r.cursor with
  | none => r
  | some parent => { r with cursor := parent, levels := r.levels.tail }

/-- One token outside quotes. -/
def stepOutside (r : Reader) (token : Token) : Reader :=
  match token.kind with
  | .space | .colon => r
  | .quote => { r with quoting := .inside "" }
  | .word => r.addWord token.text
  | .or => r.setCombinator .or
  | .and => r.setCombinator .and
  | .parenOpen => r.openGroup
  | .parenClose => r.closeGroup
  | .plus => { r with sign := some .plus }
  | .minus => { r with sign := some .minus }

/-- One token between quotes, after the text so far. -/
def stepInside (r : Reader) (text : String) (token : Token) : Reader :=
  if token.kind = .quote then
    { r.addPhrase text r.combinator.mode with quoting := .outside }
  else { r with quoting := .inside (text ++ token.text) }

/-- One token. -/
def step (r : Reader) (token : Token) : Reader :=
  match r.quoting with
  | .outside => r.stepOutside token
  | .inside text => r.stepInside text token

/-- Reads the tokens in order. -/
def run (r : Reader) (tokens : List Token) : Reader :=
  tokens.foldl step r

/-! ## What the log hears -/

/-- A report on the reading of a query. -/
inductive Notice where
  /-- A token was read, between quotes or not. -/
  | token (token : Token) (quoted : Bool)
  /-- A `)` closes nothing. -/
  | closerIgnored
  /-- The text after a quote that is never closed was dropped. -/
  | textDropped (text : String)
  /-- The query has been read. -/
  | finished (bytes tokens nodes : Nat)
  deriving DecidableEq, Repr

/-- The notices of one token, from the state before it. -/
def report (r : Reader) (token : Token) : List Notice :=
  .token token r.quoting.isInside ::
    (if r.quoting = .outside && token.kind = .parenClose && r.tree.parent? r.cursor = none
      then [.closerIgnored] else [])

/-- The notices of the end of the query. -/
def reportEnd (r : Reader) : List Notice :=
  match r.quoting with
  | .outside => []
  | .inside text => if text = "" then [] else [.textDropped text]

/-- The notices of a list of tokens and of the end after it. -/
def reports (r : Reader) : List Token → List Notice
  | [] => r.reportEnd
  | token :: rest => r.report token ++ (r.step token).reports rest

end Reader

/-- Reads a query. -/
def parse (o : Options) (query : String) : Tree :=
  ((Reader.start query).run (tokenize o query)).tree

/-- The notices of reading a query, after those of its repair. -/
def parseNotices (o : Options) (query : String) : List Reader.Notice :=
  let tokens := tokenize o query
  (Reader.start query).reports tokens ++
    [.finished query.utf8ByteSize tokens.length (parse o query).size]

end SearchQuery
