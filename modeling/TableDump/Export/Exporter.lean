import TableDump.Export.Domain
import TableDump.Export.Report
import TableDump.Schema.Order

/-! # Export

* `exportTable`: the elements of one table. Whatever goes wrong is logged and costs this table only.
* `exportTables`: all allowed tables in the order of reference. A catalog fault ends it without rows.
* `Exporter.serve`: the document of a domain. Faults before the connection is open leave nothing
  written; later ones leave the root without rows.
-/

namespace TableDump
open TableDump.Markup TableDump.Schema
set_option autoImplicit false

structure Exporter extends Machine where
  domains : List (String × Domain)
  settings : Settings := {}

/-! ## Elements of rows -/

/-- A fault of a value that a document cannot hold becomes one of the table. -/
def refusedBy (change : Fault → Fault) (f : Fault) : Fault := if f.kind == .value then change f else f

def setColumn (table : String) (e : Element) (entry : String × String) : Except Fault Element :=
  (e.set entry.1 entry.2).mapError (refusedBy (.unwritableColumn table entry.1))

/-- The element of a row of a table. -/
def buildElement (table : String) (name : Json) (row : Row) : Except Fault Element := do
  let e ← (Element.make name).mapError (refusedBy (.unwritableElement table name.toText))
  row.foldlM (setColumn table) e

/-! ## Tables -/

/-- What an export of tables works with. -/
structure ExportPlan where
  extractor : Extractor
  entities : EntityIndex
  relations : RelationTables
  threshold : Json

def tableElements (p : ExportPlan) (table : String) : Run (List Element) := do
  let extracted ← p.extractor.extract p.entities p.relations p.threshold table
  Run.lift (extracted.rows.mapM (buildElement table extracted.exportedName))

def exportTable (p : ExportPlan) (table : String) : Run TableOutcome := do
  let outcome ← Run.attempt (tableElements p table)
  match outcome with
  | .ok _ => pure ()
  | .error f => Run.log .error ("Failure exporting table " ++ table ++ ": " ++ f.message)
  return ⟨table, outcome⟩

/-- The fault of a catalog ends the export without rows and is told in the report. -/
def stopAt (discovered : Nat) (f : Fault) : Run Report := do
  Run.log .error ("While exporting database content: " ++ f.message)
  return { discovered, stopped := some f }

def isCatalogFault (f : Fault) : Bool := f.kind == .metadata

/-- The tables in the order of reference, each with its outcome. -/
def exportInOrder (p : ExportPlan) (tables : List String) : Run Report :=
  Run.recover isCatalogFault (stopAt tables.length) do
    let order ← sortTables p.extractor.catalog.imports tables
    return { discovered := tables.length, outcomes := ← order.mapM (exportTable p) }

def exportTables (s : Settings) (p : ExportPlan) : Run Report := do
  match ← Run.attempt p.extractor.catalog.tables with
  | .ok listed => exportInOrder p (← Run.lift (s.discover listed))
  | .error f => if isCatalogFault f then stopAt 0 f else throw f

/-! ## Documents -/

/-- Writes the root with the elements of a report; a fault leaves the root without rows. -/
def writeDocument (root : Json) (body : Run Report) : Run Report := do
  Run.write declaration
  let root ← Run.lift (readRoot root)
  Run.write (startTag root)
  match ← Run.attempt body with
  | .ok report =>
    Run.write (rowLines report.elements ++ "\n" ++ endTag root)
    return report
  | .error f =>
    Run.write (endTag root)
    throw f

namespace Exporter

def domain (x : Exporter) (name : String) : Except Fault Domain :=
  match x.domains.lookup name with
  | some d => .ok d
  | none => .error (.unknownDomain name)

def extractor (x : Exporter) (d : Domain) : Extractor where
  store := d.store
  schema := d.schema
  encoding := { toMachine := x.toMachine, driverFaults := d.store.driverFaults }
  hierarchy := d.hierarchy
  hierarchyTable := x.settings.hierarchyTable
  hierarchyRoot := x.settings.hierarchyRoot

/-- What stands for the duration of an export, until someone with a clock fills it in. -/
def durationMark : String := "<time>"

def summary (name : String) (r : Report) : String :=
  "Exported " ++ toString r.rowCount ++ " rows from " ++ toString r.exported.length ++ " tables of domain " ++
    name ++ " (" ++ toString r.failed.length ++ " failed) in " ++ durationMark

def isConnectionFault (f : Fault) : Bool := f.kind == .connection

/-- Logs a connection fault that ends an export. -/
def connectionLost {α : Type} (name : String) (f : Fault) : Run α := do
  Run.log .error ("While exporting database content of domain " ++ name ++ ": " ++ f.message)
  throw f

def plan (x : Exporter) (d : Domain) (threshold : Json) (entities : EntityIndex)
    (relations : RelationTables) : ExportPlan :=
  { extractor := x.extractor d, entities, relations, threshold }

/-- Exports a domain, with a threshold of its own or the one of the settings. -/
def exportDomain (x : Exporter) (name : String) (threshold : Option Json) : Run Report := do
  let d ← Run.lift (x.domain name)
  let (entities, relations) ← d.loadEntities name
  let plan := x.plan d (threshold.getD x.settings.threshold) entities relations
  let report ← Run.recover isConnectionFault (connectionLost name)
    (d.store.withConnection (writeDocument x.settings.rootElement (exportTables x.settings plan)))
  Run.log .info (summary name report)
  return report

/-- An export that was asked for. -/
structure Request where
  domain : String
  threshold : Option Json := none
  /-- whether there is something to write to -/
  hasOutput : Bool := true

def serve (x : Exporter) (r : Request) : Run Report :=
  if r.hasOutput then x.exportDomain r.domain r.threshold else throw .noOutput

end Exporter
end TableDump
