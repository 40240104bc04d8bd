import SearchQuery.Files.Path

/-!
# File systems

A file system is a function from places to what is there. A place is the list of
names that lead to it from the root. Reading and writing are functions too: a write
gives the file system after it, so what a command does to the disk is a value that
can be compared with the one before.

A path is resolved step by step from a current directory. Each directory on the way
must be there, and `..` leads to where the step came from; what the last step names
need not exist. Names and paths have a limited length.

Two things of real disks are left out. There are no symbolic links, so a place is
reached by one list of names only and `..` undoes the step before it. And there are no
permissions: every directory can be entered, every file can be read, and a write fails
only where a directory stands or where the path leads nowhere, never because it is
denied or the disk is full.
-/

namespace SearchQuery

/-- What is at a place. -/
inductive Entry where
  | file (contents : ByteArray)
  | directory

/-- A place: the names that lead to it from the root. -/
abbrev Place := List String

/-- A function from places to what is there; the root is always a directory. -/
structure FileSystem where
  entry? : Place → Option Entry

/-- Why a file could not be read or written. -/
inductive FileError where
  | notFound
  | notADirectory
  | isADirectory
  | notText
  /-- A name, or the whole path, has too many bytes. -/
  | nameTooLong
  /-- The path has a zero byte. -/
  | notAName
  deriving DecidableEq, Repr

/-- The words of an error. -/
def FileError.message : FileError → String
  | notFound => "No such file or directory (os error 2)"
  | notADirectory => "Not a directory (os error 20)"
  | isADirectory => "Is a directory (os error 21)"
  | notText => "stream did not contain valid UTF-8"
  | nameTooLong => "File name too long (os error 36)"
  | notAName => "file name contained an unexpected NUL byte"

namespace FileSystem

/-- The file system with nothing in it. -/
def empty : FileSystem := ⟨fun _ => none⟩

/-- What is at a place, with the root always there. -/
def lookup? (fs : FileSystem) (place : Place) : Option Entry :=
  if place = [] then some .directory else fs.entry? place

/-- The bytes that a name in a directory may have. -/
def nameLimit : Nat := 255

/-- The bytes that a path may have. -/
def pathLimit : Nat := 4095

/-- Follows segments from a place. -/
def follow (fs : FileSystem) : Place → List String → Except FileError Place
  | place, [] => .ok place
  | place, segment :: rest =>
    match fs.lookup? place with
    | none => .error .notFound
    | some (.file _) => .error .notADirectory
    | some .directory =>
      if Path.isIdle segment then fs.follow place rest
      else if segment = ".." then fs.follow place.dropLast rest
      else if nameLimit < segment.utf8ByteSize then .error .nameTooLong
      else fs.follow (place ++ [segment]) rest

/-- The place that a path names, seen from a current directory. -/
def resolve (fs : FileSystem) (here : Place) (p : Path) : Except FileError Place :=
  if p.text = "" then .error .notFound
  else if p.segments.any (fun s => s.toList.contains '\x00') then .error .notAName
  else if pathLimit < p.text.utf8ByteSize then .error .nameTooLong
  else if p.isAbsolute then fs.follow [] p.segments
  else fs.follow here p.segments

/-- What a path names, if it names anything. -/
def find? (fs : FileSystem) (here : Place) (p : Path) : Option Entry :=
  match fs.resolve here p with
  | .error _ => none
  | .ok place => fs.lookup? place

/-- Whether a path names anything. -/
def pathExists (fs : FileSystem) (here : Place) (p : Path) : Bool :=
  (fs.find? here p).isSome

/-- Whether a path names a file. -/
def isFile (fs : FileSystem) (here : Place) (p : Path) : Bool :=
  match fs.find? here p with
  | some (.file _) => true
  | _ => false

/-- The text of a file. -/
def readText (fs : FileSystem) (here : Place) (p : Path) : Except FileError String :=
  match fs.resolve here p with
  | .error e => .error e
  | .ok place =>
    match fs.lookup? place with
    | none => .error .notFound
    | some .directory => .error .isADirectory
    | some (.file contents) =>
      match String.fromUTF8? contents with
      | none => .error .notText
      | some text => .ok text

/-- The file system with something put at a place. -/
def put (fs : FileSystem) (place : Place) (entry : Entry) : FileSystem :=
  ⟨fun other => if other = place then some entry else fs.entry? other⟩

/-- The file system without a place and all that is below it. -/
def remove (fs : FileSystem) (place : Place) : FileSystem :=
  ⟨fun other => if place.isPrefixOf other then none else fs.entry? other⟩

/-- The file system after a file has been written. -/
def writeText (fs : FileSystem) (here : Place) (p : Path) (text : String) :
    Except FileError FileSystem :=
  match fs.resolve here p with
  | .error e => .error e
  | .ok place =>
    match fs.lookup? place with
    | some .directory => .error .isADirectory
    | _ => .ok (fs.put place (.file text.toUTF8))

/-- The absolute path of a place. -/
def pathOf (place : Place) : Path :=
  ⟨"" :: (if place.isEmpty then [""] else place)⟩

end FileSystem

end SearchQuery
