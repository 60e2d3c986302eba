import TableDump.Config.DatabaseUrl
import TableDump.Config.FileTree
import TableDump.Json.Reader
import TableDump.Store.Basic

/-! # Engines

* `Engine`: a driver with the database that it opens, and the data source behind it.
* `Libraries`: what a configuration leaves to others, readers of files and makers of engines. JSON is read as
  `Json.parse?` tells, or less of it where a reader does not nest so deeply; nothing is said here of what YAML holds and
  which engines can be made. Values that YAML has beside those of JSON, such as dates, are left out.
* `Engine.create`: a URL that cannot be read, a driver that is not installed and arguments that a maker of engines
  refuses are faults of the configuration; other faults pass.
-/

namespace TableDump
set_option autoImplicit false

structure Engine where
  driver : String
  database : Option String
  /-- the data source, by the files that are there -/
  store : FileTree → Store

structure Libraries where
  /-- the value that a text in JSON holds -/
  readJson : String → Option Json := Json.parse?
  /-- the value that a text in YAML holds, made of what JSON has -/
  readYaml : String → Option Json
  /-- the engine for a URL, and for the size of its pool where it gets one -/
  createEngine : DatabaseUrl → Option Json → Except Fault Engine

/-- The URL that a value holds; only a text holds one. -/
def readUrl : Json → Except Fault DatabaseUrl
  | .str s => DatabaseUrl.read s
  | j => .error (.notUrlText (Value.ofJson j).shown)

namespace Engine

/-- A URL that cannot be read is a configuration fault. -/
def urlFault (f : Fault) : Fault := if f.kind == .argument then .invalidUrl f else f

/-- So is an engine that cannot be made. -/
def engineFault (driver : String) (f : Fault) : Fault :=
  if f.kind == .argument || f.kind == .missingModule then .noEngine driver else f

/-- The drivers whose databases are files. Their engines have no pool of a given size. -/
def opensFiles (driver : String) : Bool := "sqlite".toList.isPrefixOf driver.toList

def poolFor (u : DatabaseUrl) (poolSize : Json) : Option Json := if opensFiles u.driver then none else some poolSize

def create (libraries : Libraries) (poolSize url : Json) : Except Fault Engine := do
  let u ← (readUrl url).mapError urlFault
  (libraries.createEngine u (poolFor u poolSize)).mapError (engineFault u.driver)

end Engine
end TableDump
