import TableDump.Config.Engine
import TableDump.Config.Parameters
import TableDump.Export.Domain
import TableDump.Model.EntityJson
import TableDump.Text.Utf8

/-! # Configuration

* `Manager`: paths, database and export parameters, read from an environment by `Manager.make`.
* `Manager.reload` reads the parameters again, the database before the export. A fault keeps what was
  read before it.
* `Manager.validate`, `Manager.settings`, `Manager.summary`, `Manager.engine`, `Manager.loadEntities`
  and `Manager.domain` are what a configuration is for.
* `Managers`: the managers made so far, one of them shared by all who ask for one.
-/

namespace TableDump
open TableDump.Text
set_option autoImplicit false

structure Manager where
  paths : ConfigPaths
  database : DatabaseParameters
  exports : ExportParameters
deriving Repr

namespace Manager

/-! ## Reading -/

def workingDirectory (files : FileTree) : Path := ⟨"/", files.workingDirectory⟩

def make (e : Environment) (files : FileTree) (base : Option String) : Run Manager := do
  let paths := ConfigPaths.fromEnvironment e (workingDirectory files) base
  let database ← Run.lift (DatabaseParameters.fromEnvironment e)
  let exports ← Run.lift (ExportParameters.fromEnvironment e)
  Run.log .info ("ConfigManager initialized with base path: " ++ paths.base.text)
  return { paths, database, exports }

/-- The manager after reading its parameters again, and the fault that ended the reading. -/
def reloaded (e : Environment) (m : Manager) : Manager × Option Fault :=
  match DatabaseParameters.fromEnvironment e with
  | .error f => (m, some f)
  | .ok database => match ExportParameters.fromEnvironment e with
    | .error f => ({ m with database }, some f)
    | .ok exports => ({ m with database, exports }, none)

def reload (e : Environment) (m : Manager) : Run (Manager × Option Fault) := do
  let (m, fault) := m.reloaded e
  if fault.isNone then Run.log .info "Configuration reloaded from environment variables"
  return (m, fault)

/-! ## Settings -/

def settingsFault (f : Fault) : Fault := if f.kind == .value then .invalidSettings f else f

def settings (m : Manager) : Except Fault Settings :=
  (Settings.make {
    threshold := m.exports.threshold
    excludedPrefixes := m.exports.excludedPrefixes
    hierarchyTable := m.exports.hierarchyTable.orElse .null
    hierarchyRoot := m.exports.hierarchyRoot }).mapError settingsFault

/-! ## Validation -/

def isPoolEmpty (m : Manager) : Except Fault Bool :=
  (m.database.poolSize.compareZero "<=").map fun order => order == some .lt || order == some .eq

def problems (m : Manager) (baseThere poolEmpty : Bool) : List String :=
  (if m.database.url.truth then [] else ["Database URL is empty"]) ++
  (if baseThere then [] else ["Base configuration path does not exist: " ++ m.paths.base.text]) ++
  (if m.exports.domain.truth then [] else ["Domain must be specified"]) ++
  (if poolEmpty then ["Pool size must be greater than 0"] else [])

def validate (m : Manager) (files : FileTree) : Run Unit := do
  let baseThere ← Run.lift (files.contains m.paths.base)
  let problems := m.problems baseThere (← Run.lift m.isPoolEmpty)
  if problems.isEmpty then Run.log .info "Configuration validation passed"
  else throw (.invalidConfiguration problems)

/-! ## Summary -/

def summary (m : Manager) : Except Fault Json := do
  let url ← readUrl m.database.url
  let excluded ← m.exports.excludedPrefixes.items
  return .obj [
    ("database", .obj [("url", .str url.render), ("schema", m.database.schema),
      ("pool_size", m.database.poolSize)]),
    ("export", .obj [("domain", m.exports.domain), ("table_threshold", m.exports.threshold),
      ("excluded_table_prefixes", .arr excluded), ("hierarchy_table", m.exports.hierarchyTable),
      ("hierarchy_root_key", m.exports.hierarchyRoot)]),
    ("paths", .obj [("base_config_path", .str m.paths.base.text),
      ("entity_model_path", .str m.paths.entityModel)])]

/-! ## Engine -/

def engine (m : Manager) (libraries : Libraries) (url : Option String) : Except Fault Engine :=
  Engine.create libraries m.database.poolSize (match url with
    | some u => if u.isEmpty then m.database.url else .str u
    | none => m.database.url)

/-! ## Entity models -/

/-- The forms of an entity model file, by the suffix of its name. -/
inductive ModelFormat
  | json | yaml
deriving DecidableEq, Repr

def ModelFormat.ofSuffix? (suffix : String) : Option ModelFormat :=
  let suffix := lower suffix
  if suffix == ".json" then some .json
  else if suffix == ".yaml" || suffix == ".yml" then some .yaml
  else none

/-- The value that the content of a file holds. -/
def ModelFormat.read? (format : ModelFormat) (libraries : Libraries) (content : List UInt8) : Option Json :=
  (utf8Text? content).bind fun s => match format with
    | .json => libraries.readJson s
    | .yaml => libraries.readYaml s

/-- The value that a file holds which is at a path, or that cannot be opened there. -/
def readModelFile (libraries : Libraries) (files : FileTree) (path : Path) (entry : FileEntry) : Except Fault Json :=
  match files.openRefusal path, entry with
  | some _, _ => .error (.modelFileUnreadable path.text)
  | none, .directory => .error (.modelFileUnreadable path.text)
  | none, .file content => match ModelFormat.ofSuffix? path.suffix with
    | none => .error (.modelFileFormat path.suffix)
    | some format => match format.read? libraries content with
      | some j => .ok j
      | none => .error (.modelFileUnreadable path.text)

/-- Whatever is false stands for a file without entities. -/
def entitiesOf (name : String) (j : Json) : Except Fault (List Entity) :=
  parseEntities name (j.orElse (.obj []))

def modelPath (m : Manager) (name : String) : Path := m.paths.base.append (Path.read name)

/-- The models that the file at a path holds. -/
def readModels (libraries : Libraries) (files : FileTree) (path : Path) (name : String) : Except Fault (List Entity) := do
  match ← files.look path with
  | none => throw (.modelFileMissing path.text)
  | some entry => entitiesOf name (← readModelFile libraries files path entry)

def loadEntities (m : Manager) (libraries : Libraries) (files : FileTree) (name : Option String) : Run (List Entity) := do
  let name := name.getD m.paths.entityModel
  let entities ← Run.lift (readModels libraries files (m.modelPath name) name)
  Run.log .info ("Loaded " ++ toString entities.length ++ " entity models from " ++ name)
  return entities

/-! ## Domains -/

/-- The name of the entity model file, when it is there. -/
def modelFile? (m : Manager) (files : FileTree) (name : Option String) : Run (Option String) := do
  let name := match name with
    | some n => if n.isEmpty then m.paths.entityModel else n
    | none => m.paths.entityModel
  let path := m.modelPath name
  if ← Run.lift (files.contains path) then return some name
  else
    Run.log .warning ("No entity model file at " ++ path.text ++ ", exporting physical names")
    return none

def schemaText : Json → Option String
  | .str s => some s
  | _ => none

/-- The domain of a database, with or without an entity model file. -/
def domain (m : Manager) (libraries : Libraries) (files : FileTree) (engine : Engine) (modelFile : Option String) :
    Domain where
  store := engine.store files
  schema := schemaText m.database.schema
  models := modelFile.map fun name => m.loadEntities libraries files (some name)

end Manager

/-! ## Managers -/

structure Managers where
  made : List Manager := []
  shared : Option Nat := none

namespace Managers

def get? (ms : Managers) (i : Nat) : Option Manager := ms.made[i]?

def update (ms : Managers) (i : Nat) (m : Manager) : Managers := { ms with made := ms.made.set i m }

def make (ms : Managers) (e : Environment) (files : FileTree) (base : Option String) : Run (Managers × Nat) := do
  let m ← Manager.make e files base
  return ({ ms with made := ms.made ++ [m] }, ms.made.length)

/-- The shared manager, made when there is none; only then the base counts. -/
def obtain (ms : Managers) (e : Environment) (files : FileTree) (base : Option String) : Run (Managers × Nat) := do
  match ms.shared with
  | some i => return (ms, i)
  | none =>
    let (ms, i) ← ms.make e files base
    return ({ ms with shared := some i }, i)

def reset (ms : Managers) : Managers := { ms with shared := none }

end Managers
end TableDump
