import TableDump.Calendar.Iso
import TableDump.Json.Basic
import TableDump.Number.Decimal
import TableDump.Number.Shortest

/-! # Stored values

What a query can return.

* `Value`: the values, streams among them; a stream holds what reading it gives, or the fault it gives.
* `Value.kind`: the kind that decides how a value of an untyped column is encoded.
* `Value.truth`: null, zero and what is empty are false; not a number, midnight and streams are true.
* `Value.text`: a value as text; `Value.shown`: a value inside the text of a list or a map.

Texts are made of characters: a text with a lone surrogate is no value here. A whole number has a text however
many digits it has.
-/

namespace TableDump
open TableDump.Calendar TableDump.Number TableDump.Text
set_option autoImplicit false

/-- What holds the bytes of a binary value. -/
inductive Carrier
  | plain | mutable | view
deriving DecidableEq, Repr

def Carrier.kind : Carrier → ValueKind
  | plain => .bytes
  | mutable => .byteArray
  | view => .byteView

/-- A stored value. Offsets and intervals are in microseconds. -/
inductive Value
  | null
  | boolean (b : Bool)
  | integer (n : Int)
  | float (x : Binary64)
  | decimal (d : Decimal)
  | text (s : String)
  | bytes (carrier : Carrier) (content : List UInt8)
  | dateTime (moment : Moment) (offset : Option Int) (fold : Bool)
  | date (d : Date)
  | time (clock : Clock) (offset : Option Int) (fold : Bool)
  | interval (span : Int)
  | uuid (digits : String)
  | list (items : List Value)
  | map (entries : List (Value × Value))
  | thing (text : String)
  | stream (content : Value)
  | brokenStream (fault : Fault)
deriving Repr, Inhabited

namespace Value

def kind : Value → ValueKind
  | null => .null
  | boolean _ => .boolean
  | integer _ => .integer
  | float _ => .float
  | decimal _ => .decimal
  | text _ => .text
  | bytes carrier _ => carrier.kind
  | dateTime .. => .dateTime
  | date _ => .date
  | time .. => .time
  | interval _ => .interval
  | uuid _ => .uuid
  | list _ => .list
  | map _ => .map
  | thing _ => .thing
  | stream _ | brokenStream _ => .stream

def truth : Value → Bool
  | null => false
  | boolean b => b
  | integer n => n != 0
  | float x => !x.isZero
  | decimal d => !d.isZero
  | text s => !s.isEmpty
  | bytes _ content => !content.isEmpty
  | interval span => span != 0
  | list items => !items.isEmpty
  | map entries => !entries.isEmpty
  | _ => true

/-! ## Text of single values -/

/-- An interval: days when there are any, then hours, minutes and seconds of the last day. -/
def intervalText (span : Int) : String :=
  let days := span / microsPerDay
  let c := Clock.ofMicros (span % microsPerDay).toNat
  (if days = 0 then ""
    else toString days ++ (if days.natAbs = 1 then " day, " else " days, ")) ++
    toString c.hour ++ ":" ++ zeroPadded 2 c.minute ++ ":" ++ zeroPadded 2 c.second ++ microText c.micro

/-- The digits of an identifier in its five groups. -/
def uuidText (digits : String) : String :=
  let cs := digits.toList
  let group := fun start count => String.ofList ((cs.drop start).take count)
  "-".intercalate [group 0 8, group 8 4, group 12 4, group 16 4, group 20 12]

def ownOffsetText (offset : Option Int) : String :=
  match offset with
  | none => ""
  | some o => offsetText o

def momentText (m : Moment) (offset : Option Int) : String :=
  m.date.text ++ " " ++ m.clock.text ++ ownOffsetText offset

/-! ## Values inside lists and maps -/

def call (function : String) (arguments : List String) : String :=
  function ++ "(" ++ ", ".intercalate arguments ++ ")"

/-- Hour and minute, the second when it or the microsecond counts, the microsecond when it counts. -/
def clockArguments (c : Clock) : List String :=
  [toString c.hour, toString c.minute] ++
    (if c.second = 0 ∧ c.micro = 0 then [] else [toString c.second]) ++
    (if c.micro = 0 then [] else [toString c.micro])

def offsetArguments : Option Int → List String
  | none => []
  | some o => ["tzinfo=" ++ (if o = 0 then "datetime.timezone.utc"
      else call "datetime.timezone" [spanText o])]

def foldArguments (fold : Bool) : List String := if fold then ["fold=1"] else []

def dateArguments (d : Date) : List String := [toString d.year, toString d.month, toString d.day]

def shownBytes (carrier : Carrier) (content : List UInt8) : String :=
  match carrier with
  | .plain => quotedBytes content
  | .mutable => call "bytearray" [quotedMutableBytes content]
  | .view => "<memory>"

mutual

def shown : Value → String
  | null => "None"
  | boolean b => if b then "True" else "False"
  | integer n => toString n
  | float x => x.text
  | decimal d => call "Decimal" [quoted d.text]
  | text s => quoted s
  | bytes carrier content => shownBytes carrier content
  | dateTime m offset fold =>
    call "datetime.datetime"
      (dateArguments m.date ++ clockArguments m.clock ++ foldArguments fold ++ offsetArguments offset)
  | date d => call "datetime.date" (dateArguments d)
  | time c offset fold =>
    call "datetime.time" (clockArguments c ++ offsetArguments offset ++ foldArguments fold)
  | interval span => spanText span
  | uuid digits => call "UUID" [quoted (uuidText digits)]
  | list items => "[" ++ ", ".intercalate (shownItems items) ++ "]"
  | map entries => "\x7b" ++ ", ".intercalate (shownEntries entries) ++ "\x7d"
  | thing s => s
  | stream _ => "<stream>"
  | brokenStream _ => "<stream>"

def shownItems : List Value → List String
  | [] => []
  | v :: rest => shown v :: shownItems rest

def shownEntries : List (Value × Value) → List String
  | [] => []
  | (key, v) :: rest => (shown key ++ ": " ++ shown v) :: shownEntries rest

end

/-! ## Text -/

def toText : Value → String
  | decimal d => d.text
  | text s => s
  | dateTime m offset _ => momentText m offset
  | date d => d.text
  | time c offset _ => c.text ++ ownOffsetText offset
  | interval span => intervalText span
  | uuid digits => uuidText digits
  | thing s => s
  | v => v.shown

/-! ## JSON values as stored values -/

mutual

def ofJson : Json → Value
  | .null => null
  | .bool b => boolean b
  | .int n => integer n
  | .float x => float x
  | .str s => text s
  | .arr items => list (ofItems items)
  | .obj members => map (ofMembers members)

def ofItems : List Json → List Value
  | [] => []
  | j :: rest => ofJson j :: ofItems rest

def ofMembers : List (String × Json) → List (Value × Value)
  | [] => []
  | (key, j) :: rest => (text key, ofJson j) :: ofMembers rest

end

end Value

/-- A JSON value as it stands in a message. -/
def Json.toText (j : Json) : String := (Value.ofJson j).toText

end TableDump
