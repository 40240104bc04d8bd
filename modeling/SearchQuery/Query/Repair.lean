import SearchQuery.Query.Delimiter

/-!
# Repairing a query

People leave quotes and parentheses open, close them in the wrong order and close
what they never opened. No query is refused for that: a repair inserts what is
missing, and takes nothing away.

The repair reads the query once and remembers which delimiters are open,
innermost first. A closer whose opener is buried under other open delimiters
closes those first; a `)` with no `(` open gets one at the very front; and what is
still open at the end is closed there, innermost first.

`Repair.body` is the query with its closers, `Repair.unmatched` counts the openers
that belong in front, and `repair` puts the two together. `Repair.notices` tells
the same story to the log, one notice for each inserted character.
-/

namespace SearchQuery

namespace Repair

/-- What a character does to the delimiters that are open where it stands. -/
inductive Effect where
  /-- Nothing: it is ordinary text. -/
  | plain
  /-- It opens a delimiter. -/
  | opens (d : Delimiter)
  /-- It closes the innermost open delimiter of this kind. -/
  | closes (d : Delimiter)
  /-- It is a `)` and no parenthesis is open. -/
  | unmatched
  deriving DecidableEq, Repr

/-- The effect of a character, given the open delimiters, innermost first. -/
def effect (o : Options) (opened : List Delimiter) (c : Char) : Effect :=
  match o.quote? c with
  | some q => if q ∈ opened then .closes q else .opens q
  | none =>
    if c = '(' then .opens .paren
    else if c = ')' then (if .paren ∈ opened then .closes .paren else .unmatched)
    else .plain

/-- The delimiters opened after the innermost `d`, innermost first. -/
def above (d : Delimiter) (opened : List Delimiter) : List Delimiter :=
  opened.takeWhile (· ≠ d)

/-- The delimiters opened before the innermost `d`. -/
def below (d : Delimiter) (opened : List Delimiter) : List Delimiter :=
  (opened.dropWhile (· ≠ d)).tail

/-- The delimiters that must be closed before the character can stand. -/
def forced (o : Options) (opened : List Delimiter) (c : Char) : List Delimiter :=
  match effect o opened c with
  | .closes d => above d opened
  | _ => []

/-- The delimiters that are open after the character. -/
def next (o : Options) (opened : List Delimiter) (c : Char) : List Delimiter :=
  match effect o opened c with
  | .plain => opened
  | .opens d => d :: opened
  | .closes d => below d opened
  | .unmatched => opened

/-- The delimiters that are open after a stretch of the query. -/
def openAfter (o : Options) (opened : List Delimiter) (query : List Char) : List Delimiter :=
  query.foldl (next o) opened

/-- The rest of a query with its closers inserted, given what is open before it. -/
def body (o : Options) (opened : List Delimiter) : List Char → List Char
  | [] => opened.map Delimiter.closer
  | c :: rest =>
    (forced o opened c).map Delimiter.closer ++ c :: body o (next o opened c) rest

/-- How many parentheses the rest of a query closes that were never opened. -/
def unmatched (o : Options) (opened : List Delimiter) : List Char → Nat
  | [] => 0
  | c :: rest =>
    (if effect o opened c = .unmatched then 1 else 0) + unmatched o (next o opened c) rest

/-- A report of one inserted character. -/
inductive Notice where
  /-- A `(` goes in front for a `)` without one. -/
  | openerAdded
  /-- A delimiter is closed because one opened before it is. -/
  | closedEarly (d : Delimiter)
  /-- A delimiter is closed because the query ends. -/
  | closedAtEnd (d : Delimiter)
  deriving DecidableEq, Repr

/-- The notices of one character. -/
def report (o : Options) (opened : List Delimiter) (c : Char) : List Notice :=
  match effect o opened c with
  | .closes d => (above d opened).map .closedEarly
  | .unmatched => [.openerAdded]
  | _ => []

/-- The notices of the rest of a query, in the order in which they arise. -/
def noticesFrom (o : Options) (opened : List Delimiter) : List Char → List Notice
  | [] => opened.map .closedAtEnd
  | c :: rest => report o opened c ++ noticesFrom o (next o opened c) rest

/-- The repaired query. -/
def chars (o : Options) (query : List Char) : List Char :=
  List.replicate (unmatched o [] query) '(' ++ body o [] query

/-- The notices of a whole query. -/
def notices (o : Options) (query : String) : List Notice :=
  noticesFrom o [] query.toList

end Repair

/-- The query with every unmatched parenthesis and quote repaired. -/
def repair (o : Options) (query : String) : String :=
  String.ofList (Repair.chars o query.toList)

theorem toList_repair (o : Options) (query : String) :
    (repair o query).toList = Repair.chars o query.toList :=
  String.toList_ofList

end SearchQuery
