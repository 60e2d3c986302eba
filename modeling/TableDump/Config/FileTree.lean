import TableDump.Config.Path
import TableDump.Fault

/-! # File trees

The files and directories that a program sees, by their absolute paths.

* `FileTree.find?` follows a path from the root, or from the working directory when it is relative.
  What is passed on the way has to be a directory; double points go back to the one above.
* The system may refuse to look at a path, and to open what is there: `FileTree.look`, `FileTree.contains`.
* `FileTree.checkWritable`: a file can be written where its directory exists.
* `FileTree.withNameLimit`: a tree whose system refuses names that are too long.
-/

namespace TableDump
set_option autoImplicit false

structure FileTree where
  workingDirectory : List String := []
  files : List (List String × List UInt8) := []
  directories : List (List String) := []
  /-- what the system says when it does not look at a path -/
  lookRefusal : Path → Option String := fun _ => none
  /-- what the system says when it does not open what is at a path -/
  openRefusal : Path → Option String := fun _ => none

inductive FileEntry
  | file (content : List UInt8)
  | directory
deriving DecidableEq, Repr

namespace FileTree

/-- The directories that are there: those above a file, above a directory, and the working one. -/
def isDirectory (t : FileTree) (place : List String) : Bool :=
  place.isPrefixOf t.workingDirectory || t.directories.any place.isPrefixOf ||
    t.files.any fun f => place.isPrefixOf f.1.dropLast

def entry? (t : FileTree) (place : List String) : Option FileEntry :=
  if t.isDirectory place then some .directory
  else (t.files.lookup place).map .file

/-- The place next to a directory that a part of a path leads to. -/
def next (place : List String) (part : String) : List String :=
  if part = ".." then place.dropLast else place ++ [part]

/-- The place that parts lead to from a directory. -/
def follow? (t : FileTree) (place : List String) : List String → Option (List String)
  | [] => some place
  | part :: rest => if t.isDirectory place then follow? t (next place part) rest else none

/-- The place at which a path begins. -/
def start (t : FileTree) (p : Path) : List String := if p.isAbsolute then [] else t.workingDirectory

def place? (t : FileTree) (p : Path) : Option (List String) := t.follow? (t.start p) p.parts

def find? (t : FileTree) (p : Path) : Option FileEntry := (t.place? p).bind t.entry?

/-- What is at a path, if anything is. -/
def look (t : FileTree) (p : Path) : Except Fault (Option FileEntry) :=
  match t.lookRefusal p with
  | some text => .error (.reported .system text)
  | none => .ok (t.find? p)

def contains (t : FileTree) (p : Path) : Except Fault Bool := (t.look p).map Option.isSome

/-- The place of a new or existing file, when its directory exists. -/
def filePlace? (t : FileTree) (p : Path) : Option (List String) :=
  (t.place? p).filter fun place => t.isDirectory place.dropLast && !place.isEmpty

/-- Puts a file at a place, over what is there. -/
def put (t : FileTree) (place : List String) (content : List UInt8) : FileTree :=
  { t with files := (place, content) :: t.files.filter fun f => f.1 != place }

/-- Where a file is written that is called `name`. -/
def checkWritable (t : FileTree) (name : String) : Except Fault (List String) :=
  match t.openRefusal (Path.read name) with
  | some text => .error (.reported .system text)
  | none => match t.filePlace? (Path.read name) with
    | none => .error (if t.find? (Path.read name) = some .directory then .isDirectory name else .noSuchFile name)
    | some place => if t.isDirectory place then .error (.isDirectory name) else .ok place

/-! ## Long names -/

/-- The most bytes that a name has. -/
def greatestName : Nat := 255

/-- Whether a name on the way is too long for the directory in which it is looked for. -/
def meetsLongName (t : FileTree) (place : List String) : List String → Bool
  | [] => false
  | part :: rest =>
    t.isDirectory place && (decide (greatestName < part.utf8ByteSize) || t.meetsLongName (next place part) rest)

def longNameRefusal (t : FileTree) (p : Path) : Option String :=
  if t.meetsLongName (t.start p) p.parts then some ("[Errno 36] File name too long: " ++ Text.quoted p.text) else none

def withNameLimit (t : FileTree) : FileTree :=
  { t with lookRefusal := t.longNameRefusal, openRefusal := t.longNameRefusal }

end FileTree
end TableDump
