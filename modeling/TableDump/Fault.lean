import TableDump.Number.Numeral
import TableDump.Text.Quoted

/-! # Faults

What can go wrong, as data, and how it is told.

* `ValueKind`: the kinds of values, with the names that messages use for them.
* `FaultKind`: the families of faults. What a caller recovers from is decided by family.
* `Fault`: one constructor per cause; a fault that wraps another one keeps it.
* `Fault.kind`, `Fault.message`, `Fault.table`, `Fault.cause` are all that is told about a fault.
-/

namespace TableDump
set_option autoImplicit false

/-! ## Kinds of values -/

inductive ValueKind
  | null | boolean | integer | float | text | bytes | byteArray | byteView | dateTime | date | time
  | decimal | uuid | interval | list | map | stream | thing
deriving DecidableEq, Repr

namespace ValueKind

def name : ValueKind → String
  | null => "NoneType"
  | boolean => "bool"
  | integer => "int"
  | float => "float"
  | text => "str"
  | bytes => "bytes"
  | byteArray => "bytearray"
  | byteView => "memoryview"
  | dateTime => "datetime"
  | date => "date"
  | time => "time"
  | decimal => "Decimal"
  | uuid => "UUID"
  | interval => "timedelta"
  | list => "list"
  | map => "dict"
  | stream => "Stream"
  | thing => "Thing"

def all : List ValueKind :=
  [null, boolean, integer, float, text, bytes, byteArray, byteView, dateTime, date, time, decimal, uuid,
    interval, list, map, stream, thing]

def ofName? (s : String) : Option ValueKind := all.find? fun k => k.name == s

theorem ofName?_name (k : ValueKind) : ofName? k.name = some k := by cases k <;> decide

/-- The name together with the library that the kind belongs to. -/
def fullName : ValueKind → String
  | dateTime => "datetime.datetime"
  | date => "datetime.date"
  | time => "datetime.time"
  | interval => "datetime.timedelta"
  | decimal => "decimal.Decimal"
  | k => k.name

def isBinary (k : ValueKind) : Bool := k == bytes || k == byteArray || k == byteView

def isTemporal (k : ValueKind) : Bool := k == dateTime || k == date || k == time

end ValueKind

/-! ## Kinds of faults -/

inductive FaultKind
  | value | wrongType | member | key | index | runtime | overflow | memory
  | system | missingFile | directory
  | database | driverCall | operational | missingTable | argument | driver | missingModule
  | configuration | connection | metadata | tableExport
deriving DecidableEq, Repr

namespace FaultKind

/-- Faults of the database layer. -/
def isDatabase (k : FaultKind) : Bool :=
  k == database || k == driverCall || k == operational || k == missingTable || k == argument

/-- Faults that the driver reported through the database layer. -/
def isDriverCall (k : FaultKind) : Bool := k == driverCall || k == operational

def isSystem (k : FaultKind) : Bool := k == system || k == missingFile || k == directory

/-- Faults of a value that cannot be read. -/
def isUnreadable (k : FaultKind) : Bool := k == wrongType || k == value

/-- Faults of a value that cannot be used where it stands. -/
def isUnusable (k : FaultKind) : Bool := k == wrongType || k == value || k == member

end FaultKind

/-! ## Faults -/

inductive Fault
  /-- reported by a collaborator, with a text of its own -/
  | reported (kind : FaultKind) (text : String)
  | noMember (kind : ValueKind) (member : String)
  | notIterable (kind : ValueKind)
  | notOrdered (operator : String) (left right : ValueKind)
  | unhashable (kind : ValueKind)
  | missingKey (key : String)
  | shortRow
  | emptyField (field : String)
  | joinColumnsMissing
  | noOutput
  | negativeCount
  | countTooLarge
  | bytesTooLarge
  | outOfMemory
  | byteRange
  | notWhole (kind : ValueKind)
  | notBytes (kind : ValueKind)
  | notReal (kind : ValueKind)
  | invalidWhole (text : String)
  | yearRange (year : Int)
  | dateRange
  | dayRange
  | fieldRange (field : String) (low high : Nat)
  | offsetRange (span : String)
  | invalidIso (text : String)
  | notIsoText
  | notJson
  | limitTooLarge
  | infiniteWhole
  | notXmlText
  | emptyTag
  | unclosedNamespace
  | invalidNamespace (uri : String)
  | invalidTag (name : String)
  | invalidAttribute (name : String)
  | notNameText (kind : ValueKind)
  | unparsableUrl
  | notUrlText (shown : String)
  | portNotWhole
  | noSuchFile (path : String)
  | isDirectory (path : String)
  | unopenableDatabase
  | unknownDomain (domain : String)
  | invalidModels (domain : String) (cause : Fault)
  | modelFileMissing (path : String)
  | modelFileUnreadable (path : String)
  | modelFileFormat (suffix : String)
  | unparsableModels (path : String) (cause : Fault)
  | invalidSettings (cause : Fault)
  | invalidUrl (cause : Fault)
  | noEngine (driver : String)
  | invalidConfiguration (problems : List String)
  | noConnection (cause : Fault)
  | unreadableCatalog (table : Option String) (cause : Fault)
  | queryFailed (table : String) (cause : Fault)
  | unreadableValue (table : String) (cause : Fault)
  | unmappableRows (table : String) (cause : Fault)
  | unwritableElement (table element : String) (cause : Fault)
  | unwritableColumn (table column : String) (cause : Fault)
deriving DecidableEq, Repr

namespace Fault

def kind : Fault → FaultKind
  | reported k _ => k
  | noMember .. => .member
  | notIterable _ | notOrdered .. | unhashable _ | notWhole _ | notBytes _ | notReal _ | notIsoText
  | notNameText _ | portNotWhole => .wrongType
  | missingKey _ => .key
  | shortRow => .index
  | emptyField _ | joinColumnsMissing | noOutput | negativeCount | byteRange | invalidWhole _
  | yearRange _ | dayRange | notJson | fieldRange .. | offsetRange _ | invalidIso _ | notXmlText | emptyTag
  | unclosedNamespace | invalidNamespace _ | invalidTag _ | invalidAttribute _ => .value
  | countTooLarge | bytesTooLarge | dateRange | limitTooLarge | infiniteWhole => .overflow
  | outOfMemory => .memory
  | unparsableUrl | notUrlText _ => .argument
  | noSuchFile _ => .missingFile
  | isDirectory _ => .directory
  | unopenableDatabase => .operational
  | unknownDomain _ | invalidModels .. | modelFileMissing _ | modelFileUnreadable _ | modelFileFormat _
  | unparsableModels .. | invalidSettings _ | invalidUrl _ | noEngine _
  | invalidConfiguration _ => .configuration
  | noConnection _ => .connection
  | unreadableCatalog .. => .metadata
  | queryFailed .. | unreadableValue .. | unmappableRows .. | unwritableElement ..
  | unwritableColumn .. => .tableExport

/-! ## Texts -/

/-- The page that explains a fault of the database layer. -/
def explanationPage (code : String) : String :=
  "/".intercalate ["https:", "", "sqlalche.me", "e", "21", code]

/-- The text of a fault of the database layer, with the page that explains it. -/
def explained (origin text code : String) : String :=
  "(" ++ origin ++ ") " ++ text ++ "\n(Background on this error at: " ++ explanationPage code ++ ")"

def reportedText (kind : FaultKind) (text : String) : String :=
  match kind with
  | .key => Text.quoted text
  | .driverCall => explained "builtins.Exception" text "dbapi"
  | _ => text

/-- How much of a quoted text is shown that is no number. -/
def shownLength : Nat := 200

/-- Why a text is not read as a whole number: it has too many digits, or is none. -/
def invalidWholeText (text : String) : String :=
  let digits := Number.leadingDigits text
  if Number.digitLimit < digits then
    "Exceeds the limit (" ++ toString Number.digitLimit ++ " digits) for integer string conversion: value has " ++
      toString digits ++ " digits; use sys.set_int_max_str_digits() to increase the limit"
  else
    "invalid literal for int() with base 10: " ++ String.ofList ((Text.quoted text).toList.take shownLength)

/-- The table that is meant; an empty name is left out. -/
def forTable : Option String → String
  | none => ""
  | some table => if table.isEmpty then "" else " for table " ++ table

def message : Fault → String
  | reported k text => reportedText k text
  | noMember k a => "'" ++ k.name ++ "' object has no attribute '" ++ a ++ "'"
  | notIterable k => "'" ++ k.name ++ "' object is not iterable"
  | notOrdered op l r =>
    "'" ++ op ++ "' not supported between instances of '" ++ l.name ++ "' and '" ++ r.name ++ "'"
  | unhashable k => "unhashable type: '" ++ k.name ++ "'"
  | missingKey key => Text.quoted key
  | shortRow => "tuple index out of range"
  | emptyField field => field ++ " cannot be empty"
  | joinColumnsMissing => "Both join_column and inverse_join_column must be specified"
  | noOutput => "output cannot be None"
  | negativeCount => "negative count"
  | countTooLarge => "cannot fit 'int' into an index-sized integer"
  | bytesTooLarge => "byte string is too large"
  | outOfMemory => ""
  | byteRange => "bytes must be in range(0, 256)"
  | notWhole k => "'" ++ k.fullName ++ "' object cannot be interpreted as an integer"
  | notBytes k => "cannot convert '" ++ k.fullName ++ "' object to bytes"
  | notReal k => "must be real number, not " ++ k.name
  | invalidWhole text => invalidWholeText text
  | yearRange year => "year " ++ toString year ++ " is out of range"
  | dateRange => "date value out of range"
  | dayRange => "day is out of range for month"
  | fieldRange field low high => field ++ " must be in " ++ toString low ++ ".." ++ toString high
  | offsetRange span =>
    "offset must be a timedelta strictly between -timedelta(hours=24) and timedelta(hours=24), not " ++
      span ++ "."
  | invalidIso text => "Invalid isoformat string: " ++ Text.quoted text
  | notIsoText => "fromisoformat: argument must be str"
  | notJson => "Expecting value: line 1 column 1 (char 0)"
  | limitTooLarge => "Python int too large to convert to SQLite INTEGER"
  | infiniteWhole => "cannot convert float infinity to integer"
  | notXmlText =>
    "All strings must be XML compatible: Unicode or ASCII, no NULL bytes or control characters"
  | emptyTag => "Empty tag name"
  | unclosedNamespace => "Invalid tag name"
  | invalidNamespace uri => "Invalid namespace URI " ++ Text.quoted uri
  | invalidTag name => "Invalid tag name " ++ Text.quoted name
  | invalidAttribute name => "Invalid attribute name " ++ Text.quoted name
  | notNameText k => "Argument must be bytes or unicode, got '" ++ k.name ++ "'"
  | unparsableUrl => "Could not parse SQLAlchemy URL from given URL string"
  | notUrlText shown => "Expected string or URL object, got " ++ shown
  | portNotWhole => "Port argument must be an integer or None"
  | noSuchFile path => "[Errno 2] No such file or directory: " ++ Text.quoted path
  | isDirectory path => "[Errno 21] Is a directory: " ++ Text.quoted path
  | unopenableDatabase => explained "sqlite3.OperationalError" "unable to open database file" "e3q8"
  | unknownDomain domain => "Could not find DataSource for domain " ++ domain
  | invalidModels domain cause => "Invalid entity models for domain " ++ domain ++ ": " ++ cause.message
  | modelFileMissing path => "Entity model file not found: " ++ path
  | modelFileUnreadable path => "Failed to read entity model file " ++ path
  | modelFileFormat suffix => "Unsupported file format: " ++ suffix
  | unparsableModels path cause => "Failed to parse entity model from " ++ path ++ ": " ++ cause.message
  | invalidSettings cause => "Invalid export settings: " ++ cause.message
  | invalidUrl cause => "Invalid database URL: " ++ cause.message
  | noEngine driver => "Cannot create database engine for " ++ driver
  | invalidConfiguration problems => "Configuration validation failed: " ++ "; ".intercalate problems
  | noConnection cause => "Failed to connect to database: " ++ cause.message
  | unreadableCatalog table cause =>
    "Failed to read catalog metadata" ++ forTable table ++ ": " ++ cause.message
  | queryFailed table cause => "Query failed for table " ++ table ++ ": " ++ cause.message
  | unreadableValue table cause => "Unreadable value in table " ++ table ++ ": " ++ cause.message
  | unmappableRows table cause => "Failed to map rows of table " ++ table ++ ": " ++ cause.message
  | unwritableElement table element cause =>
    "Invalid element name " ++ element ++ " for table " ++ table ++ ": " ++ cause.message
  | unwritableColumn table column cause =>
    "Cannot write column " ++ column ++ " of table " ++ table ++ ": " ++ cause.message

/-- The table that a fault carries. -/
def table : Fault → Option String
  | unreadableCatalog t _ => t
  | queryFailed t _ | unreadableValue t _ | unmappableRows t _ | unwritableElement t _ _
  | unwritableColumn t _ _ => some t
  | _ => none

/-- The family of the fault that a table fault was raised for. -/
def cause : Fault → Option FaultKind
  | queryFailed _ c | unreadableValue _ c | unmappableRows _ c | unwritableElement _ _ c
  | unwritableColumn _ _ c => some c.kind
  | _ => none

end Fault
end TableDump
