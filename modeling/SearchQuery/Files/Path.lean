import SearchQuery.Text.Space

/-!
# Paths

A path is the text that names a file, and the text is kept: a path that is shown
looks the way it was given. For everything else a path is the list of its segments,
the stretches between its slashes. Empty segments and the segment `.` mean nothing,
except that a path is absolute when it starts with a slash and that a leading `.`
is remembered; `..` is a segment like any other, since only the file system knows
where it leads.

`Path.sameAs` compares what the paths mean, `Path.parent?` is the path without its
last meaningful segment, and `Path.join` goes down to a name.
-/

namespace SearchQuery

/-- A path, as the segments between its slashes. -/
structure Path where
  segments : List String
  deriving DecidableEq, Repr

namespace Path

/-- The path that a text names. -/
def ofText (text : String) : Path :=
  ⟨(Text.pieces (· = '/') text.toList).map String.ofList⟩

/-- The text of a path. -/
def text (p : Path) : String :=
  "/".intercalate p.segments

/-- Whether a segment leads nowhere. -/
def isIdle (segment : String) : Bool :=
  segment = "" || segment = "."

/-- Whether the path starts at the root of the file system. -/
def isAbsolute (p : Path) : Bool :=
  match p.segments with
  | "" :: _ :: _ => true
  | _ => false

/-- Where a path starts. -/
inductive Start where
  /-- At the root of the file system. -/
  | root
  /-- At the current directory, which is named by a leading `.`. -/
  | here
  /-- At the current directory, which is not named. -/
  | unnamed
  deriving DecidableEq, Repr

/-- The start of a path and the segments after it. -/
def splitStart (p : Path) : Start × List String :=
  match p.segments with
  | "" :: segment :: rest => (.root, segment :: rest)
  | "." :: rest => (.here, rest)
  | segments => (.unnamed, segments)

/-- Where the path starts. -/
def start (p : Path) : Start := p.splitStart.1

/-- The meaningful segments of a path. -/
def steps (p : Path) : List String :=
  p.splitStart.2.filter (fun s => !isIdle s)

/-- Whether two paths mean the same without a look at the file system. -/
def sameAs (p q : Path) : Bool :=
  p.start = q.start && p.steps = q.steps

/-- The path to a name in the directory `p`. -/
def join (p : Path) (name : String) : Path :=
  if p.segments.getLast? = some "" then ⟨p.segments.dropLast ++ [name]⟩
  else ⟨p.segments ++ [name]⟩

/-- The segments without idle ones at their end. -/
def dropIdle (segments : List String) : List String :=
  (segments.reverse.dropWhile isIdle).reverse

/-- The path without its last meaningful segment, and none if there is nothing to go up from. -/
def parent? (p : Path) : Option Path :=
  let (start, rest) := p.splitStart
  let outer := dropIdle (dropIdle rest).dropLast
  if (dropIdle rest).isEmpty then
    match start with
    | .here => some ⟨[]⟩
    | _ => none
  else
    match start with
    | .root => some ⟨"" :: (if outer.isEmpty then [""] else outer)⟩
    | .here => some ⟨"." :: outer⟩
    | .unnamed => some ⟨outer⟩

/-- The path and its parents, at most `fuel` of them. -/
def ancestorsWithin : Nat → Path → List Path
  | 0, _ => []
  | fuel + 1, p =>
    p :: match p.parent? with
      | none => []
      | some parent => ancestorsWithin fuel parent

/-- The path, its parent, the parent of that, and so on. A parent has fewer segments, a leading
`.` apart, so two steps more than there are segments reach the end. -/
def ancestors (p : Path) : List Path :=
  ancestorsWithin (p.segments.length + 2) p

end Path

end SearchQuery
