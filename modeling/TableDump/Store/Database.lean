import TableDump.Store.Affinity
import TableDump.Store.Basic
import TableDump.Store.Declared

/-! # Database files

`Database` holds tables with declared types, keys and references.

* Tables are listed in the order of their names.
* Rows come in the order of the key: null before numbers before texts before bytes, equal keys and
  tables without a key in the order in which the rows were added.
* Truth values are stored as numbers, and a number that is none as null.
-/

namespace TableDump
open TableDump.Number
set_option autoImplicit false

structure DatabaseTable where
  name : String
  /-- names with declared types -/
  columns : List (String × String)
  rows : List (List Value) := []
  key : List String := []
  references : List String := []

structure Database where
  tables : List DatabaseTable := []

/-! ## Order of stored values -/

namespace Value

/-- A value as it is stored. -/
def stored : Value → Value
  | boolean b => integer (if b then 1 else 0)
  | float .notANumber => null
  | v => v

/-- The place of a value's kind in the order. -/
def rank : Value → Nat
  | null => 0
  | integer _ | float _ => 1
  | text _ => 2
  | _ => 3

/-- A whole number beside a floating point one. -/
def compareWhole (n : Int) (x : Binary64) : Ordering :=
  match x with
  | .infinite negative => if negative then .gt else .lt
  | x => match x.fraction? with
    | some (a, b) => compare (n * b) a
    | none => .eq

def compareBytes : List UInt8 → List UInt8 → Ordering
  | [], [] => .eq
  | [], _ => .lt
  | _, [] => .gt
  | a :: as, b :: bs => (compare a.toNat b.toNat).then (compareBytes as bs)

def compareStored (a b : Value) : Ordering :=
  match a, b with
  | integer n, integer m => compare n m
  | integer n, float x => compareWhole n x
  | float x, integer n => (compareWhole n x).swap
  | float x, float y => (x.compare? y).getD .eq
  | text s, text t => compare s t
  | bytes _ as, bytes _ bs => compareBytes as bs
  | a, b => compare a.rank b.rank

end Value

/-! ## Answers -/

namespace DatabaseTable

def position (t : DatabaseTable) (column : String) : Nat := t.columns.findIdx fun c => c.1 == column

/-- The order of two rows by the values in the given columns. -/
def compareRows (t : DatabaseTable) (columns : List String) (a b : List Value) : Ordering :=
  match columns with
  | [] => .eq
  | c :: rest =>
    (Value.compareStored (a.getD (t.position c) .null) (b.getD (t.position c) .null)).then
      (compareRows t rest a b)

def sortRows (t : DatabaseTable) (columns : List String) : List (List Value) :=
  (t.rows.map (List.map Value.stored)).mergeSort fun a b => t.compareRows columns a b != .gt

def readings (t : DatabaseTable) : List Reading := t.columns.map fun c => Reading.ofDeclared c.2

/-- The values of a row as they are read, from the first column on. -/
def readRow : List Reading → List Value → Except Fault (List Value)
  | r :: readings, v :: values => do
    let v ← r.read v
    return v :: (← readRow readings values)
  | _, _ => .ok []

def greatestLimit : Int := Int64.maxValue.toInt

def select (t : DatabaseTable) (q : Query) : Except Fault (List (List Value)) :=
  if (q.limit.getD 0) > greatestLimit then .error .limitTooLarge
  else (DeclaredStore.limited q.limit (t.sortRows q.orderBy)).mapM (readRow t.readings)

end DatabaseTable

namespace Database

def table (db : Database) (name : String) : Except Fault DatabaseTable :=
  match db.tables.find? fun t => t.name == name with
  | some t => .ok t
  | none => .error (.reported .missingTable name)

def names (db : Database) : List String :=
  (db.tables.map DatabaseTable.name).mergeSort fun a b => decide (a ≤ b)

/-- Adds a row at the end of a table. -/
def insert (db : Database) (table : String) (row : List Value) : Database :=
  ⟨db.tables.map fun t => if t.name == table then { t with rows := t.rows ++ [row] } else t⟩

def toStore (db : Database) (connect : Except Fault Unit) : Store where
  connect _ := connect
  tables _ := .ok db.names
  references _ name := (db.table name).map fun t => t.references.map some
  key _ name := (db.table name).map fun t => t.key.map some
  columns _ name := (db.table name).map fun t =>
    t.columns.map fun (column, type) => ⟨column, (Reading.ofDeclared type).columnType⟩
  rows q := do (← db.table q.table).select q

end Database
end TableDump
