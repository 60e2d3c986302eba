import TableDump.Export.Row
import TableDump.Export.Settings
import TableDump.Schema.Catalog

/-! # Extraction of tables

* `Extractor`: a data source with what shapes the rows of its tables.
* `Extractor.extract`: the rows of one table, read on a connection of its own in the order of the key,
  up to the threshold. The hierarchy table is put into the order of the hierarchy.
* `Extractor.followHierarchy`: the rows whose `id` the hierarchy names, in its order; a warning tells
  how many fewer they are.
-/

namespace TableDump
open TableDump.Text
set_option autoImplicit false

/-- The keys of the descendants of a root, in order. -/
abbrev Hierarchy := Json → Except Fault (List Value)

structure Extractor where
  store : Store
  schema : Option String := none
  encoding : Encoding := {}
  hierarchy : Option Hierarchy := none
  hierarchyTable : Json := .null
  hierarchyRoot : Json := .str defaultHierarchyRoot

structure ExtractedTable where
  table : String
  exportedName : Json
  rows : List Row
deriving Repr

namespace Extractor

/-! ## Reading -/

def catalog (x : Extractor) : Catalog := .make x.store x.schema

def buildQuery (x : Extractor) (table : String) (columns key : List String) (threshold : Json) :
    Except Fault Query := do
  let query ← Query.build (schemaName x.schema) table columns key none
  return { query with limit := ← rowLimit threshold }

/-- A fault of a query: the database layer's, or that of a value which cannot be read. -/
def queryFault (table : String) (f : Fault) : Fault :=
  if f.kind.isDatabase then .queryFailed table f
  else if f.kind.isUnreadable then .unreadableValue table f
  else f

def fetch (x : Extractor) (query : Query) : Run (List (List Value)) := do
  Run.record (.queried query)
  match x.store.rows query with
  | .ok records => return records
  | .error f => throw (queryFault query.table f)

def readTable (x : Extractor) (table : String) (threshold : Json) : Run (List Column × List (List Value)) :=
  x.store.withConnection do
    let columns ← x.catalog.columns table
    let key ← x.catalog.key table
    let query ← Run.lift (x.buildQuery table (columns.map Column.name) key threshold)
    return (columns, ← x.fetch query)

/-! ## Mapping -/

def mapRecords (x : Extractor) (table : String) (naming : Naming) (columns : List Column)
    (records : List (List Value)) : Run (List Row) :=
  Run.wrap (fun f => f.kind.isUnusable) (.unmappableRows table)
    (records.mapM (mapRecord x.encoding naming columns))

/-! ## Hierarchy -/

/-- The first row under each key that some row has as its `id`. -/
def rowsOf (rows : List Row) (keys : List String) : List Row :=
  keys.filterMap fun key => rows.find? fun row => row.id? == some key

def followHierarchy (x : Extractor) (table : String) (rows : List Row) : Run (List Row) := do
  match x.hierarchy with
  | none =>
    Run.log .warning ("No hierarchy model available, " ++ table ++ " rows kept in primary key order")
    return rows
  | some descendants =>
    Run.record (.descendantsRead x.hierarchyRoot)
    let keys ← Run.lift (descendants x.hierarchyRoot)
    let ordered := rowsOf rows (keys.map Value.toText)
    if ordered.length < rows.length then
      Run.log .warning ("Dropped " ++ toString (rows.length - ordered.length) ++ " " ++ table ++
        " rows unknown to the hierarchy model")
    return ordered

def isHierarchyTable (x : Extractor) (table : String) : Except Fault Bool :=
  if x.hierarchyTable.truth then (x.hierarchyTable.textFor "lower").map (sameName table) else .ok false

/-! ## Extraction -/

def extract (x : Extractor) (entities : EntityIndex) (relations : RelationTables) (threshold : Json)
    (table : String) : Run ExtractedTable := do
  let exportedName ← Run.lift (entities.exportedName relations table)
  let naming : Naming := ⟨entities.find? table, ← Run.lift (relations.get? exportedName)⟩
  let (columns, records) ← x.readTable table threshold
  let rows ← x.mapRecords table naming columns records
  let rows ← if ← Run.lift (x.isHierarchyTable table) then x.followHierarchy table rows else pure rows
  return ⟨table, exportedName, rows⟩

end Extractor
end TableDump
