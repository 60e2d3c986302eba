import TableDump.CommandLine.Options
import TableDump.Config.Manager
import TableDump.Export.Exporter

/-! # The command

* `World`: what a command finds when it starts: environment, files, libraries, and the machine with its time zone.
* `runCommand` exports the configured database to a file or to standard output. Faults of the
  configuration and of the connection are logged and lead to exit code 1; other faults pass. Nothing was configured before
  in the process of a command: its manager is new.
* `shown`: the log records that the chosen log level lets through.
* `watchedPaths`: the paths whose entries decide what a command does.
-/

namespace TableDump.CommandLine
open TableDump.Text
set_option autoImplicit false

structure World extends Machine where
  environment : Environment := []
  files : FileTree := {}
  libraries : Libraries

/-- What a command leaves behind: exit code or fault, log, and the document with the place of its file;
without a place it goes to standard output. -/
structure Outcome where
  exit : Except Fault Nat
  log : List Record := []
  written : String := ""
  place : Option (List String) := none

namespace Outcome

/-- The text on standard output. -/
def output (o : Outcome) : String := if o.place.isNone then o.written else ""

/-- The files after the command. -/
def files (w : World) (o : Outcome) : FileTree :=
  match o.place with
  | some p => w.files.put p (utf8 o.written)
  | none => w.files

end Outcome

/-! ## Logging -/

def LogLevel.rank : LogLevel → Nat
  | debug => 0
  | info => 1
  | warning => 2
  | error => 3
  | critical => 4

def recordRank : Level → Nat
  | .info => 1
  | .warning => 2
  | .error => 3

def shown (level : LogLevel) (records : List Record) : List Record :=
  records.filter fun r => level.rank ≤ recordRank r.level

/-! ## Export -/

/-- An export that is ready to run, with the place of its output file. -/
structure Prepared where
  exporter : Exporter
  domain : String
  place : Option (List String)

/-- A text that is given and not empty. -/
def given? (s : Option String) : Option String := s.bind fun t => if t.isEmpty then none else some t

def withSchema (o : Options) (m : Manager) : Manager :=
  match given? o.schema with
  | some s => { m with database := { m.database with schema := .str s } }
  | none => m

def outputPlace (w : World) (o : Options) : Except Fault (Option (List String)) :=
  match given? o.output with
  | some name => (w.files.checkWritable name).map some
  | none => .ok none

/-- The files when the export begins: the output file is there, and empty. -/
def filesAtStart (w : World) (place : Option (List String)) : FileTree :=
  match place with
  | some p => w.files.put p []
  | none => w.files

def prepare (w : World) (o : Options) : Run Prepared := do
  let m := withSchema o (← Manager.make w.environment w.files o.configPath)
  m.validate w.files
  let settings ← Run.lift m.settings
  let name := (given? o.domain).getD m.exports.domain.toText
  let engine ← Run.lift (m.engine w.libraries o.databaseUrl)
  let modelFile ← m.modelFile? w.files o.entityModel
  let place ← Run.lift (outputPlace w o)
  let domain := m.domain w.libraries (filesAtStart w place) engine modelFile
  let exporter : Exporter := { toMachine := w.toMachine, domains := [(name, domain)], settings }
  return { exporter, domain := name, place }

def logReport (r : Report) : Run Unit := do
  Run.log .info ("Tables exported: " ++ toString r.exported.length ++ "/" ++ toString r.discovered ++
    ", rows: " ++ toString r.rowCount)
  for error in r.errors do
    Run.log .warning ("Not exported: " ++ error)

/-- Faults that are told and end with an exit code of their own. -/
def isExpected (f : Fault) : Bool := f.kind == .configuration || f.kind == .connection

def failed (f : Fault) : Run Nat := do
  Run.log .error ("Export failed: " ++ f.message)
  return 1

def exportPrepared (o : Options) (p : Prepared) : Run Nat := do
  let report ← p.exporter.serve { domain := p.domain, threshold := o.threshold.map Json.int }
  logReport report
  return 0

/-! ## The whole command -/

def runOptions (w : World) (o : Options) : Outcome :=
  let (prepared, s) := (prepare w o).result {}
  let place := match prepared with
    | .ok p => p.place
    | .error _ => none
  let (exit, s) := (Run.recover isExpected failed (do exportPrepared o (← Run.lift prepared))).result s
  { exit, log := shown o.logLevel s.records, written := s.written, place }

def runCommand (w : World) (arguments : List String) : Outcome :=
  match readOptions arguments with
  | .error code => { exit := .ok code }
  | .ok o => runOptions w o

/-! ## What a command looks at -/

/-- The paths that a command may look at: the base directory, the entity model file, the database file and
the output file. -/
def watchedPaths (w : World) (arguments : List String) : List Path :=
  match readOptions arguments with
  | .error _ => []
  | .ok o => match (Manager.make w.environment w.files o.configPath).result {} with
    | (.error _, _) => []
    | (.ok m, _) =>
      let model := (given? o.entityModel).getD m.paths.entityModel
      let database := match m.engine w.libraries o.databaseUrl with
        | .ok e => e.database.toList
        | .error _ => []
      [m.paths.base, m.modelPath model] ++ (database ++ (given? o.output).toList).map Path.read

end TableDump.CommandLine
