import TableDump.Json.Basic
import TableDump.Schema.Spelling

/-! # Export settings

* `Settings`: how many rows of a table are exported, which tables are left out, which table follows
  the hierarchy, and the name of the document's root. Fields hold any JSON value; only the name of the
  root has to be true.
* `Settings.allows`: a table is allowed unless it begins, in upper case, with an excluded prefix.
* `Settings.discover`: the allowed tables of a listing in order of their lower case names, each in
  the first spelling that is allowed.
* `rowLimit`: a threshold above zero limits the rows.
-/

namespace TableDump
open TableDump.Text TableDump.Schema
set_option autoImplicit false

def defaultThreshold : Int := 100000

def defaultExcludedPrefixes : List String := ["QRTZ_", "AuditEntry"]

def defaultHierarchyTable : String := "Realm"

def defaultHierarchyRoot : String := "/"

def defaultRootElement : String := "dataset"

structure Settings where
  threshold : Json := .int defaultThreshold
  excludedPrefixes : Json := .arr (defaultExcludedPrefixes.map .str)
  hierarchyTable : Json := .str defaultHierarchyTable
  hierarchyRoot : Json := .str defaultHierarchyRoot
  rootElement : Json := .str defaultRootElement
deriving Repr

namespace Settings

/-- Refuses an empty root name; the excluded prefixes become a list. -/
def make (s : Settings) : Except Fault Settings :=
  if !s.rootElement.truth then .error (.emptyField "root_element")
  else if s.excludedPrefixes.truth then
    s.excludedPrefixes.items.map fun prefixes => { s with excludedPrefixes := .arr prefixes }
  else .ok { s with excludedPrefixes := .arr [] }

/-! ## Tables -/

def startsWith (start s : String) : Bool := start.toList.isPrefixOf s.toList

/-- Whether no prefix begins an upper case name. -/
def allowsUpper (upperName : String) : List Json → Except Fault Bool
  | [] => .ok true
  | p :: rest => do
    let text ← p.textFor "upper"
    if startsWith (upper text) upperName then return false else allowsUpper upperName rest

def allows (s : Settings) (table : String) : Except Fault Bool := do
  allowsUpper (upper table) (← s.excludedPrefixes.items)

def allowed (s : Settings) (tables : List String) : Except Fault (List String) :=
  tables.filterM fun t => s.allows t

def sortByLower (names : List String) : List String :=
  names.mergeSort fun a b => decide (lower a ≤ lower b)

def discover (s : Settings) (tables : List String) : Except Fault (List String) :=
  (s.allowed tables).map fun names => sortByLower (distinctNames names)

end Settings

/-! ## Thresholds -/

/-- The number of rows that a threshold limits a query to. -/
def rowLimit (threshold : Json) : Except Fault (Option Int) :=
  match threshold.compareZero ">" with
  | .error f => .error f
  | .ok (some .gt) => threshold.toWhole.map some
  | .ok _ => .ok none

end TableDump
