import TableDump.Model.Entity

/-! # Exported column names

* The first attribute that matches a column, by its name or else by its column override, gives the
  name in its own letter case; a column that none matches keeps its name.
* A name that ends in `_id`, in any case, becomes what stands before its first low line, in the letter
  case of the attribute of that name, followed by `_id`.
-/

namespace TableDump
open TableDump.Text
set_option autoImplicit false

def foreignKeySuffix : String := "_id"

/-- The name or column override that a column matches. -/
def matchingName : List Attribute → String → Except Fault (Option String)
  | [], _ => .ok none
  | a :: rest, column => do
    let name ← a.name.textFor "lower"
    if sameName name column then return some name
    if a.column.truth then
      let override ← a.column.textFor "lower"
      if sameName override column then return some override
    matchingName rest column

/-- The name of an attribute that a prefix matches. -/
def matchingPrefix : List Attribute → String → Except Fault (Option String)
  | [], _ => .ok none
  | a :: rest, left => do
    let name ← a.name.textFor "lower"
    if sameName name left then return some name else matchingPrefix rest left

/-- What stands before the first low line. -/
def beforeLowLine (s : String) : String := String.ofList (s.toList.takeWhile (· != '_'))

def endsInSuffix (s : String) : Bool := foreignKeySuffix.toList.isSuffixOf (lower s).toList

def resolveColumn (attributes : List Attribute) (column : String) : Except Fault String := do
  let found ← matchingName attributes column
  let name := match found with
    | some name => if name.isEmpty then column else name
    | none => column
  if endsInSuffix name then
    let left := beforeLowLine name
    let named ← matchingPrefix attributes left
    return named.getD left ++ foreignKeySuffix
  else return name

end TableDump
