import TableDump.CommandLine.Command
import TableDump.Config.DescribedFiles

/-! # The program

Gathers what the command looks at, runs it and delivers what it leaves behind. Local time is UTC, and databases are
described in files. -/

namespace TableDump.Program
open TableDump TableDump.CommandLine
set_option autoImplicit false

def variableNames : List String :=
  ["CONFIG_PATH", "ENTITY_MODEL_PATH", "DATABASE_URL", "DB_SCHEMA", "DB_POOL_SIZE", "DB_DRIVER", "DB_SERVER",
    "DB_DATABASE", "DB_TRUSTED_CONNECTION", "DB_CONNECTION_TIMEOUT", "DB_USERNAME", "DB_PASSWORD", "DOMAIN",
    "TABLE_THRESHOLD", "EXCLUDED_PREFIXES", "HIERARCHY_TABLE", "HIERARCHY_ROOT"]

def readEnvironment : IO Environment :=
  variableNames.foldlM (fun e name => do return e.set name (← IO.getEnv (environmentPrefix ++ name))) []

def placeText (place : List String) : String := "/" ++ "/".intercalate place

def attempt {α : Type} (action : IO α) : IO (Option α) := do
  try return some (← action) catch _ => return none

/-- Adds what is found at a place. -/
def look (isDirectory : String → IO Bool) (t : FileTree) (place : List String) : IO FileTree := do
  if ← isDirectory (placeText place) then return { t with directories := place :: t.directories }
  match ← attempt (IO.FS.readBinFile (placeText place)) with
  | some content => return t.put place content.toList
  | none => return t

/-- Adds what is found on the way along a path, part by part. -/
def lookAlong (isDirectory : String → IO Bool) (t : FileTree) (p : Path) : IO FileTree := do
  let (t, _) ← p.parts.foldlM (fun (t, place) part => do
    let place := FileTree.next place part
    return (← look isDirectory t place, place)) (t, t.start p)
  return t

def readWorld (arguments : List String) : IO World := do
  let here ← IO.currentDir
  let files : FileTree := { workingDirectory := (Path.read here.toString).parts }
  let w : World := { environment := ← readEnvironment, files, libraries := DescribedFiles.libraries }
  let found ← (watchedPaths w arguments).foldlM (lookAlong fun name => (here / name).isDir) files
  return { w with files := found.withNameLimit }

def levelText : Level → String
  | .info => "INFO"
  | .warning => "WARNING"
  | .error => "ERROR"

/-- Seconds with two decimal places. -/
def secondsText (milliseconds : Nat) : String :=
  Number.Binary64.withPoint 2 (Number.roundHalfEven milliseconds 10) ++ "s"

def deliver (o : Outcome) (milliseconds : Nat) : IO UInt32 := do
  match o.place with
  | some p => IO.FS.writeFile (placeText p) o.written
  | none => IO.print o.written
  for r in o.log do
    IO.eprintln (levelText r.level ++ " - " ++ r.text.replace Exporter.durationMark (secondsText milliseconds))
  match o.exit with
  | .ok code => return code.toUInt32
  | .error f =>
    IO.eprintln f.message
    return 1

def run (arguments : List String) : IO UInt32 := do
  let start ← IO.monoMsNow
  let outcome := runCommand (← readWorld arguments) arguments
  deliver outcome ((← IO.monoMsNow) - start)

end TableDump.Program

def main (arguments : List String) : IO UInt32 := TableDump.Program.run arguments
