import TableDump.Config.ConnectionString
import TableDump.Config.Environment
import TableDump.Config.Path
import TableDump.Export.Settings
import TableDump.Text.Blank
import TableDump.Text.Split

/-! # Configured parameters

What an environment says about the database, the export and the files. Fields hold any JSON value, as
they can be assigned later on; `fromEnvironment` fills them with texts and numbers.

* `DatabaseParameters`: the URL of the database, or the parts of a connection string from which one is
  made, with schema and pool size.
* `ExportParameters`: domain, threshold, excluded prefixes and hierarchy.
* `ConfigPaths`: the base directory and the entity model file.
-/

namespace TableDump
open TableDump.Text
set_option autoImplicit false

/-! ## Database -/

structure DatabaseParameters where
  url : Json
  driver : Json := .str "ODBC Driver 17 for SQL Server"
  server : Json := .str "localhost\\SQLEXPRESS"
  database : Json := .str "SyncopeDB"
  trusted : Json := .bool true
  timeout : Json := .int 30
  schema : Json := .null
  poolSize : Json := .int 5
deriving Repr

/-- The parts of a connection string. -/
structure ConnectionParts where
  driver : String
  server : String
  database : String
  trusted : Bool
  user : String
  password : String
  timeout : Int
deriving DecidableEq, Repr

namespace ConnectionParts

def fromEnvironment (e : Environment) : Except Fault ConnectionParts := do
  return {
    driver := e.get "DB_DRIVER" "ODBC Driver 17 for SQL Server"
    server := e.get "DB_SERVER" "localhost\\SQLEXPRESS"
    database := e.get "DB_DATABASE" "SyncopeDB"
    trusted := e.flag "DB_TRUSTED_CONNECTION" true
    user := e.get "DB_USERNAME" ""
    password := e.get "DB_PASSWORD" ""
    timeout := ← e.whole "DB_CONNECTION_TIMEOUT" 30 }

def login (p : ConnectionParts) : ConnectionString :=
  if p.trusted then [("Trusted_Connection", "yes")] else [("UID", p.user), ("PWD", p.password)]

def connectionString (p : ConnectionParts) : ConnectionString :=
  [("DRIVER", ConnectionString.braced p.driver), ("SERVER", p.server), ("DATABASE", p.database)] ++ p.login ++
    [("Connection Timeout", toString p.timeout), ("Application Name", "XML Content Exporter"),
      ("TrustServerCertificate", "yes")]

end ConnectionParts

namespace DatabaseParameters

def ofText? : Option String → Json
  | some s => .str s
  | none => .null

/-- The URL of the environment when there is one, else the one made from the parts. -/
def fromEnvironment (e : Environment) : Except Fault DatabaseParameters := do
  let schema := ofText? (e.nonEmpty? "DB_SCHEMA")
  let poolSize ← e.whole "DB_POOL_SIZE" 5
  match e.nonEmpty? "DATABASE_URL" with
  | some url => return { url := .str url, schema, poolSize := .int poolSize }
  | none =>
    let p ← ConnectionParts.fromEnvironment e
    return {
      url := .str (odbcUrl p.connectionString.render)
      driver := .str p.driver
      server := .str p.server
      database := .str p.database
      trusted := .bool p.trusted
      timeout := .int p.timeout
      schema
      poolSize := .int poolSize }

/-- Assigns a field by its name. -/
def assign (d : DatabaseParameters) (field : String) (value : Json) : DatabaseParameters :=
  match field with
  | "database_url" => { d with url := value }
  | "driver" => { d with driver := value }
  | "server" => { d with server := value }
  | "database" => { d with database := value }
  | "trusted_connection" => { d with trusted := value }
  | "connection_timeout" => { d with timeout := value }
  | "schema" => { d with schema := value }
  | "pool_size" => { d with poolSize := value }
  | _ => d

end DatabaseParameters

/-! ## Export -/

structure ExportParameters where
  domain : Json := .str "Master"
  threshold : Json := .int defaultThreshold
  excludedPrefixes : Json := .arr (defaultExcludedPrefixes.map .str)
  hierarchyTable : Json := .str defaultHierarchyTable
  hierarchyRoot : Json := .str defaultHierarchyRoot
deriving Repr

namespace ExportParameters

/-- The texts between commas, blanks around them dropped, that are not empty. -/
def splitPrefixes (s : String) : List String :=
  ((textPieces ',' s).map strip).filter fun p => !p.isEmpty

def excludedFrom (e : Environment) : List String :=
  match e.get? "EXCLUDED_PREFIXES" with
  | some s => splitPrefixes s
  | none => defaultExcludedPrefixes

def fromEnvironment (e : Environment) : Except Fault ExportParameters := do
  return {
    domain := .str (e.get "DOMAIN" "Master")
    threshold := .int (← e.whole "TABLE_THRESHOLD" defaultThreshold)
    excludedPrefixes := .arr ((excludedFrom e).map .str)
    hierarchyTable := .str (e.get "HIERARCHY_TABLE" defaultHierarchyTable)
    hierarchyRoot := .str (e.get "HIERARCHY_ROOT" defaultHierarchyRoot) }

/-- Assigns a field by its name. -/
def assign (p : ExportParameters) (field : String) (value : Json) : ExportParameters :=
  match field with
  | "domain" => { p with domain := value }
  | "table_threshold" => { p with threshold := value }
  | "excluded_table_prefixes" => { p with excludedPrefixes := value }
  | "hierarchy_table" => { p with hierarchyTable := value }
  | "hierarchy_root_key" => { p with hierarchyRoot := value }
  | _ => p

end ExportParameters

/-! ## Files -/

structure ConfigPaths where
  base : Path
  entityModel : String := "config/entity_model.json"
deriving DecidableEq, Repr

namespace ConfigPaths

/-- A base that is given and not empty comes before the one of the environment. -/
def fromEnvironment (e : Environment) (workingDirectory : Path) (base : Option String) : ConfigPaths :=
  let configured := (e.get? "CONFIG_PATH").map Path.read |>.getD workingDirectory
  { base := match base with
      | some b => if b.isEmpty then configured else Path.read b
      | none => configured
    entityModel := e.get "ENTITY_MODEL_PATH" "config/entity_model.json" }

end ConfigPaths
end TableDump
