import TableDump.Config.Engine
import TableDump.Store.Description

/-! # Databases in described files

`DescribedFiles.libraries`: libraries for a program that has no others.

* YAML is read where it is JSON. An empty text holds null.
* Engines are made for files that describe a database, from URLs with neither host, port, user nor password. A database
  without a file name is empty, and so is a file that does not exist yet in a directory that does. A file that describes
  none is opened, and nothing can be read from it.
-/

namespace TableDump.DescribedFiles
set_option autoImplicit false

def drivers : List String := ["sqlite", "sqlite+pysqlite"]

def memoryDatabase : String := ":memory:"

def isFileUrl (u : DatabaseUrl) : Bool :=
  drivers.contains u.driver && u.host.isNone && u.port.isNone && u.user.isNone && u.password.isNone

/-! ## Files -/

/-- A data source from which nothing can be read. -/
def unreadable : Store :=
  let fault := Fault.reported .database (Fault.explained "sqlite3.DatabaseError" "file is not a database" "4xp6")
  { tables _ := .error fault
    references _ _ := .error fault
    key _ _ := .error fault
    columns _ _ := .error fault
    rows _ := .error fault }

def unopenable : Store := ({} : Database).toStore (.error .unopenableDatabase)

def openFile (files : FileTree) (name : String) : Store :=
  match files.filePlace? (Path.read name) with
  | none => unopenable
  | some place => match files.entry? place with
    | none => ({} : Database).toStore (.ok ())
    | some .directory => unopenable
    | some (.file content) => match Database.ofBytes? content with
      | some db => db.toStore (.ok ())
      | none => unreadable

def store (database : Option String) (files : FileTree) : Store :=
  match database with
  | none => ({} : Database).toStore (.ok ())
  | some name =>
    if name.isEmpty || name == memoryDatabase then ({} : Database).toStore (.ok ()) else openFile files name

/-! ## Libraries -/

def createEngine (u : DatabaseUrl) (_ : Option Json) : Except Fault Engine :=
  if isFileUrl u then .ok ⟨u.driver, u.database, store u.database⟩
  else .error (.reported .missingModule ("No module named " ++ Text.quoted u.driver))

def readYaml (s : String) : Option Json := if s.toList.all Json.isSpace then some .null else Json.parse? s

def libraries : Libraries := { readYaml, createEngine }

end TableDump.DescribedFiles
