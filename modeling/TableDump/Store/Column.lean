import TableDump.Fault

/-! # Columns

* `ColumnType`: the kind of values that a column is declared to hold; an untyped column leaves it to
  the value.
* `ColumnType.ofName?`: the declared types by name.
* `Column`: a name with a type.
-/

namespace TableDump
set_option autoImplicit false

inductive ColumnType
  | typed (kind : ValueKind)
  | untyped
deriving DecidableEq, Repr

namespace ColumnType

/-- The kind by which a value of kind `own` in a column of this type is encoded. -/
def kindFor (own : ValueKind) : ColumnType → ValueKind
  | typed kind => kind
  | untyped => own

@[simp] theorem kindFor_typed (own kind : ValueKind) : (typed kind).kindFor own = kind := rfl

@[simp] theorem kindFor_untyped (own : ValueKind) : untyped.kindFor own = own := rfl

/-- The declared types and what they hold. -/
def declared : List (String × ColumnType) :=
  ["Integer", "SmallInteger", "BigInteger"].map (·, typed .integer) ++
  ["String", "Text", "Unicode", "VARCHAR", "CHAR", "Enum"].map (·, typed .text) ++
  ["Boolean", "mssql.BIT"].map (·, typed .boolean) ++
  ["LargeBinary", "BLOB", "VARBINARY", "mssql.ROWVERSION", "oracle.RAW", "postgresql.BYTEA"].map
    (·, typed .bytes) ++
  ["DateTime", "TIMESTAMP", "sqlite.DATETIME"].map (·, typed .dateTime) ++
  [("Date", typed .date), ("Time", typed .time)] ++
  ["Float", "REAL", "Double"].map (·, typed .float) ++
  ["Numeric", "DECIMAL"].map (·, typed .decimal) ++
  [("Uuid", typed .uuid), ("Interval", typed .interval)]

def ofName? (name : String) : Option ColumnType := declared.lookup name

end ColumnType

structure Column where
  name : String
  type : ColumnType := .untyped
deriving DecidableEq, Repr

end TableDump
