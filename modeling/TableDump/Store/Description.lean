import TableDump.Json.Reader
import TableDump.Number.Numeral
import TableDump.Number.Shortest
import TableDump.Store.Database
import TableDump.Text.Hex
import TableDump.Text.Utf8

/-! # Database files as JSON

A database file is described by a JSON object with its tables. A table has a name, columns as pairs of
name and declared type, rows, the names of the key columns, and the tables that it refers to.

* Texts, whole numbers, truth values and null stand for themselves; other values are objects with one
  member: `int` with digits, `float` with a numeral, `bytes` with hexadecimal digits.
* What is missing is empty.
-/

namespace TableDump
open TableDump.Number TableDump.Text
set_option autoImplicit false

namespace Json

def memberOrNull (key : String) : Json → Json
  | obj members => (lookup key members).getD null
  | _ => null

def itemList : Json → List Json
  | arr items => items
  | _ => []

def itemAt (i : Nat) (j : Json) : Json := j.itemList.getD i null

def textOrEmpty : Json → String
  | str s => s
  | _ => ""

end Json

/-- The value of a cell. -/
def Value.ofCell : Json → Value
  | .null => null
  | .bool b => boolean b
  | .int n => integer n
  | .float x => float x
  | .str s => text s
  | .obj [("int", .str s)] => integer ((whole? s).getD 0)
  | .obj [("float", .str s)] => float ((Binary64.read? s).getD .notANumber)
  | .obj [("bytes", .str s)] => bytes .plain ((hexBytes? s).getD [])
  | _ => null

def DatabaseTable.ofJson (j : Json) : DatabaseTable where
  name := (j.memberOrNull "name").textOrEmpty
  columns := (j.memberOrNull "columns").itemList.map fun c =>
    ((c.itemAt 0).textOrEmpty, (c.itemAt 1).textOrEmpty)
  rows := (j.memberOrNull "rows").itemList.map fun row => row.itemList.map Value.ofCell
  key := (j.memberOrNull "pk").itemList.map Json.textOrEmpty
  references := (j.memberOrNull "fks").itemList.map fun fk => (fk.memberOrNull "table").textOrEmpty

namespace Database

def ofJson (j : Json) : Database := ⟨(j.memberOrNull "tables").itemList.map DatabaseTable.ofJson⟩

/-- The database that a file holds; an empty file holds none. -/
def ofBytes? (content : List UInt8) : Option Database :=
  if content.isEmpty then some {}
  else ((utf8Text? content).bind Json.parse?).map ofJson

end Database
end TableDump
