import TableDump.Calendar.Zone
import TableDump.Run
import TableDump.Value.Basic
import TableDump.Text.Hex
import TableDump.Text.Utf8

/-! # Encoding of stored values

The text under which a stored value is exported, or none when it is absent.

* Truth values are `1` and `0`; null in such a column is `0`.
* Binary values are their bytes in hexadecimal. A stream is read first; a fault of reading it that is
  recovered is logged, and the value is absent. Texts of values that are there fit into memory; how many
  bytes can be made of a number is told by `Memory`.
* Moments, dates and times are written as the local clock shows them, with the offset from UTC: a date
  at midnight, a time on 1970-01-01.
* Any other value is its text; null is absent.
-/

namespace TableDump
open TableDump.Calendar TableDump.Text
set_option autoImplicit false

/-- The greatest size of an object, in bytes. -/
def greatestSize : Int := Int64.maxValue.toInt

/-- What an object for bytes takes up beside them, and one for a text beside its characters. -/
def bytesHeader : Int := 33

def textHeader : Int := 49

/-- The memory of the machine. -/
structure Memory where
  /-- the most zero bytes that can be made and written in hexadecimal -/
  room : Nat
  room_le : 2 * room + textHeader ≤ greatestSize

/-- A count of bytes that fit is a number of 64 bits, and they make no object that is too large. -/
theorem Memory.room_fits (m : Memory) :
    (m.room : Int) ≤ Int64.maxValue.toInt ∧ (m.room : Int) + bytesHeader ≤ greatestSize := by
  have hfits := m.room_le
  have hgreatest : Int64.maxValue.toInt = greatestSize := rfl
  unfold textHeader at hfits
  unfold bytesHeader
  omega

/-- The memory of a machine of which nothing is said. -/
def Memory.common : Memory where
  room := 4294967296
  room_le := by decide

/-- What a text depends on beside its value: the local zone and the memory. -/
structure Machine where
  zone : Zone := {}
  memory : Memory := Memory.common

/-- The machine, and whether the faults of the database driver count as stream faults. -/
structure Encoding extends Machine where
  driverFaults : Bool := true

/-- Faults of reading a stream that make its value absent. -/
def Encoding.recovers (e : Encoding) (f : Fault) : Bool :=
  f.kind.isSystem || f.kind.isDriverCall || (f.kind == .driver && e.driverFaults)

namespace Value

/-! ## Binary values -/

/-- As many zero bytes as a number tells, when their text fits into memory. -/
def zeroBytes (m : Memory) (n : Int) : Except Fault (List UInt8) :=
  if n < Int64.minValue.toInt ∨ Int64.maxValue.toInt < n then .error .countTooLarge
  else if n < 0 then .error .negativeCount
  else if greatestSize < n + bytesHeader then .error .bytesTooLarge
  else if m.room < n then .error .outOfMemory
  else .ok (List.replicate n.toNat 0)

/-- The byte that a value inside a list is. -/
def byte : Value → Except Fault UInt8
  | boolean b => .ok (if b then 1 else 0)
  | integer n => if 0 ≤ n ∧ n < 256 then .ok (UInt8.ofNat n.toNat) else .error .byteRange
  | v => .error (.notWhole v.kind)

/-- The bytes that a value is turned into. -/
def content (m : Memory) : Value → Except Fault (List UInt8)
  | bytes _ content => .ok content
  | text s => .ok (utf8 s)
  | boolean b => .ok (List.replicate b.toNat 0)
  | integer n => zeroBytes m n
  | list items => items.mapM byte
  | map entries => entries.mapM fun entry => byte entry.1
  | v => .error (.notBytes v.kind)

def binaryText (m : Memory) (v : Value) : Except Fault (Option String) := do
  match v with
  | null => return none
  | v => return some (hexText (← v.content m))

/-- What reading a value gives; only streams are read. -/
def read : Value → Except Fault Value
  | stream content => .ok content
  | brokenStream fault => .error fault
  | v => .ok v

def encodeBinary (e : Encoding) (column : String) (v : Value) : Run (Option String) := do
  match v.read with
  | .ok content => Run.lift (content.binaryText e.memory)
  | .error fault =>
    if e.recovers fault then
      Run.log .error ("Error fetching value from " ++ column ++ ": " ++ fault.message)
      return none
    else throw fault

/-! ## Moments, dates and times -/

def epoch : Date := ⟨1970, 1, 1⟩

def temporalText (z : Zone) : Value → Except Fault (Option String)
  | null => .ok none
  | dateTime m offset fold => (z.localText m offset fold).map some
  | date d => (z.localText ⟨d, {}⟩ none false).map some
  | time c offset fold => (z.localText ⟨epoch, c⟩ offset fold).map some
  | v => .ok (some v.toText)

/-! ## All values -/

def truthText (v : Value) : String := if v.truth then "1" else "0"

def plainText : Value → Option String
  | null => none
  | v => some v.toText

/-- The text of a value that is encoded as a value of `kind`. -/
def encodeAs (e : Encoding) (column : String) (kind : ValueKind) (v : Value) : Run (Option String) :=
  if kind = .boolean then return some v.truthText
  else if kind.isBinary then v.encodeBinary e column
  else if kind.isTemporal then Run.lift (v.temporalText e.zone)
  else return v.plainText

def encode (e : Encoding) (column : Column) (v : Value) : Run (Option String) :=
  v.encodeAs e column.name (column.type.kindFor v.kind)

end Value
end TableDump
