import TableDump.Text.Split

/-! # Paths

* `Path`: the parts of a path from the root or from where one stands. Empty parts and single points are
  dropped, double points are kept.
* `Path.append`: a relative path below another one; an absolute path replaces it.
* `Path.suffix`: the file name from its last point on, unless that is its first or last character.
-/

namespace TableDump
open TableDump.Text
set_option autoImplicit false

structure Path where
  /-- the slashes that the path begins with: none, `/`, or exactly two -/
  root : String := ""
  parts : List String := []
deriving DecidableEq, Repr

namespace Path

def rootOf : List Char → String
  | ['/', '/'] => "//"
  | '/' :: '/' :: c :: _ => if c = '/' then "/" else "//"
  | '/' :: _ => "/"
  | _ => ""

def read (s : String) : Path :=
  ⟨rootOf s.toList, (textPieces '/' s).filter fun part => part != "" && part != "."⟩

def isAbsolute (p : Path) : Bool := p.root != ""

def text (p : Path) : String :=
  if p.root = "" ∧ p.parts = [] then "." else p.root ++ "/".intercalate p.parts

def append (p q : Path) : Path := if q.isAbsolute then q else { p with parts := p.parts ++ q.parts }

def name (p : Path) : String := p.parts.getLast?.getD ""

/-- What stands from the last point on. -/
def lastPoint (cs : List Char) : List Char :=
  if cs.contains '.' then '.' :: (cs.reverse.takeWhile (· != '.')).reverse else []

def suffix (p : Path) : String :=
  let cs := p.name.toList
  let last := lastPoint cs
  if 1 < last.length ∧ last.length < cs.length then String.ofList last else ""

end Path
end TableDump
