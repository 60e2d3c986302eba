import TableDump.Run
import TableDump.Schema.Traversal

/-! # Tables in order of reference

* `sortTables` reads what each table refers to and puts referenced tables first. It returns the given
  tables only, each once, in its first spelling; the first fault of reading ends it.
* `Imports`, `ImportPath`: what the order is about.
-/

namespace TableDump.Schema
open TableDump.Text
set_option autoImplicit false

/-- Tables with the other tables that they refer to. -/
abbrev References := List (String × List String)

/-- The graph of all tables mentioned, nodes before references. -/
def referenceGraph (references : References) : Graph :=
  let nodes := references.foldl
    (fun g (table, referenced) => referenced.foldl (fun g r => (g.addTable r).1) (g.addTable table).1) ({} : Graph)
  references.foldl (fun g (table, referenced) => referenced.foldl (fun g r => g.addReference r table) g) nodes

def sortReferences (references : References) : List String :=
  (referenceGraph references).order.filterMap fun name => findName? name (references.map Prod.fst)

/-- Reads what a table refers to, itself left out. -/
def readReferences (imports : String → Run (List String)) (table : String) : Run (String × List String) := do
  return (table, (← imports table).filter fun r => !sameName r table)

def sortTables (imports : String → Run (List String)) (tables : List String) : Run (List String) := do
  return sortReferences (← (distinctNames tables).mapM (readReferences imports))

/-! ## What the order is about -/

/-- `a` refers to `b`, another table, names compared ignoring case. -/
def Imports (references : References) (a b : String) : Prop :=
  ∃ entry ∈ references, sameName entry.1 a = true ∧ (∃ r ∈ entry.2, sameName r b = true) ∧
    sameName a b = false

/-- A chain of references from `a` to `b` through the given tables. -/
inductive ImportPath (references : References) : String → String → Prop
  | single {a b : String} : Imports references a b → ImportPath references a b
  | cons {a b c : String} : Imports references a b → ImportPath references b c → ImportPath references a c

end TableDump.Schema
