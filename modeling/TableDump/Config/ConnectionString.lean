import TableDump.Text.Percent

/-! # Connection strings

Keywords with values, as `KEY=value;`.

* `ConnectionString.render` writes them; only the driver stands in braces.
* `ConnectionString.read` reads keywords up to `=` and values up to `;`. A value that begins with a brace
  runs to its closing brace, a doubled closing brace standing for one.
* `odbcUrl`: the database URL that carries a connection string.
-/

namespace TableDump
open TableDump.Text
set_option autoImplicit false

/-- Keywords with their values as they are written. -/
abbrev ConnectionString := List (String × String)

namespace ConnectionString

def render (pairs : ConnectionString) : String :=
  String.join (pairs.map fun (key, value) => key ++ "=" ++ value ++ ";")

def braced (value : String) : String := "\x7b" ++ value ++ "\x7d"

/-! ## Reading -/

/-- A value up to its closing brace, and what stands behind it. -/
def readBraced (done : List Char) : List Char → Option (List Char × List Char)
  | [] => none
  | '}' :: '}' :: rest => readBraced ('}' :: done) rest
  | c :: rest => if c = '}' then some (done.reverse, rest) else readBraced (c :: done) rest

/-- A value, and what stands behind the semicolon that ends it. -/
def readValue : List Char → Option (List Char × List Char)
  | '{' :: rest => match readBraced [] rest with
    | some (value, ';' :: after) => some (value, after)
    | some (value, []) => some (value, [])
    | _ => none
  | cs => some (cs.takeWhile (· != ';'), (cs.dropWhile (· != ';')).drop 1)

/-- Reads at most `fuel` pairs. -/
def readPairs : Nat → List Char → Option ConnectionString
  | _, [] => some []
  | 0, _ => none
  | fuel + 1, cs => match cs.dropWhile (· != '=') with
    | [] => none
    | _ :: rest => do
      let (value, after) ← readValue rest
      let others ← readPairs fuel after
      return (String.ofList (cs.takeWhile (· != '=')), String.ofList value) :: others

def read (s : String) : Option ConnectionString := readPairs s.length s.toList

end ConnectionString

def odbcDriver : String := "mssql+pyodbc"

def odbcUrl (connection : String) : String := odbcDriver ++ "://?odbc_connect=" ++ formEncode connection

end TableDump
