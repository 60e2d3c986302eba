import TableDump.Calendar.Iso
import TableDump.Json.Reader
import TableDump.Store.Column
import TableDump.Value.Basic
import TableDump.Text.LetterCase

/-! # Declared types of a database file

A database file stores any value in any column. The declared type, ignoring case and what stands in
brackets, tells how a stored value is read.

* `Reading.ofDeclared`: known names first, then the first word that the name contains.
* `Reading.columnType`: the kind of values that a column then holds.
* `Reading.read`: a stored value as it is read; null stays null.
-/

namespace TableDump
open TableDump.Calendar TableDump.Number TableDump.Text
set_option autoImplicit false

inductive Reading
  | plain (type : ColumnType)
  | truth
  | decimal (places : Nat)
  | dateTime
  | date
  | time
  | json
deriving DecidableEq, Repr

namespace Reading

def columnType : Reading → ColumnType
  | plain type => type
  | truth => .typed .boolean
  | decimal _ => .typed .decimal
  | dateTime => .typed .dateTime
  | date => .typed .date
  | time => .typed .time
  | json => .untyped

/-! ## Declared types -/

/-- Decimal places when a type tells none. -/
def defaultPlaces : Nat := 10

/-- The types that are known by their names. -/
def named : List (String × Reading) :=
  ["INTEGER", "INT", "BIGINT", "SMALLINT"].map (·, plain (.typed .integer)) ++
  ["VARCHAR", "CHAR", "TEXT", "NVARCHAR", "NCHAR"].map (·, plain (.typed .text)) ++
  ["BOOLEAN", "BOOL"].map (·, truth) ++
  [("BLOB", plain (.typed .bytes))] ++
  ["FLOAT", "REAL", "DOUBLE", "DOUBLE_PRECISION"].map (·, plain (.typed .float)) ++
  ["DATETIME", "TIMESTAMP", "DATETIME_CHAR"].map (·, dateTime) ++
  ["DATE", "DATE_CHAR"].map (·, date) ++
  ["TIME", "TIME_CHAR"].map (·, time) ++
  [("JSON", json), ("", plain .untyped)]

/-- The types that are known by a word that their names contain. -/
def byWord : List (String × Reading) :=
  [("INT", plain (.typed .integer)), ("CHAR", plain (.typed .text)), ("CLOB", plain (.typed .text)),
    ("TEXT", plain (.typed .text)), ("BLOB", plain .untyped), ("REAL", plain (.typed .float)),
    ("FLOA", plain (.typed .float)), ("DOUB", plain (.typed .float))]

def containsWord (word name : String) : Bool :=
  (List.range (name.length + 1)).any fun i => word.toList.isPrefixOf (name.toList.drop i)

/-- The runs of digits in a text. -/
def numbersIn : List Char → List Nat → Option Nat → List Nat
  | [], found, current => found ++ current.toList
  | c :: rest, found, current =>
    match digitValue? c with
    | some d => numbersIn rest found (some (current.getD 0 * 10 + d))
    | none => numbersIn rest (found ++ current.toList) none

/-- The decimal places that a type tells by its second argument. -/
def placesOf (arguments : List Nat) : Nat := (arguments[1]?).getD defaultPlaces

def ofDeclared (type : String) : Reading :=
  let cs := (upper type).toList
  let name := String.ofList (cs.takeWhile (· != '('))
  match named.lookup name with
  | some r => r
  | none => match byWord.find? fun entry => containsWord entry.1 name with
    | some (_, r) => r
    | none => decimal (placesOf (numbersIn (cs.dropWhile (· != '(')) [] none))

/-! ## Reading -/

def readText {α : Type} (reader : String → Except Fault α) (make : α → Value) : Value → Except Fault Value
  | .text s => (reader s).map make
  | _ => .error .notIsoText

/-- A number with so many decimal places. -/
def readDecimal (places : Nat) (x : Binary64) : Value :=
  .decimal ((Decimal.read? (x.fixedText places)).getD (.notANumber false false ""))

def readNumber (places : Nat) : Value → Except Fault Value
  | .integer n => .ok (readDecimal places (.ofInt n))
  | .float x => .ok (readDecimal places x)
  | v => .error (.notReal v.kind)

def readJson : Value → Except Fault Value
  | .text s => match Json.parse? s with
    | some j => .ok (Value.ofJson j)
    | none => .error .notJson
  | v => .ok v

def read (r : Reading) (v : Value) : Except Fault Value :=
  match v with
  | .null => .ok .null
  | v => match r with
    | plain _ => .ok v
    | truth => .ok (.boolean v.truth)
    | decimal places => readNumber places v
    | dateTime => readText readMoment (fun (m, offset) => .dateTime m offset false) v
    | date => readText readDate .date v
    | time => readText readClock (fun (c, offset) => .time c offset false) v
    | json => readJson v

end Reading
end TableDump
