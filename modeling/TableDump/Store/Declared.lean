import TableDump.Store.Basic

/-! # Declared data sources

`DeclaredStore` answers from tables given as they are, with the faults declared for each question.

* Every table is known under exactly its name, and in one schema only.
* Rows are answered in the given order, up to the limit of the query.
-/

namespace TableDump
set_option autoImplicit false

structure DeclaredTable where
  name : String
  columns : List Column
  rows : List (List Value) := []
  key : List (Option String) := []
  references : List (Option String) := []
  referencesFault : Option Fault := none
  keyFault : Option Fault := none
  columnsFault : Option Fault := none
  queryFault : Option Fault := none
  fetchFault : Option Fault := none

structure DeclaredStore where
  tables : List DeclaredTable
  listing : Option (List String) := none
  schema : Option String := none
  driverFaults : Bool := true
  connectFaults : List (Nat × Fault) := []
  inspectFault : Option Fault := none
  listingFault : Option Fault := none
  closeFault : Option Fault := none

/-- An answer, unless a fault is declared for it. -/
def answerUnless {α : Type} (fault : Option Fault) (answer : α) : Except Fault α :=
  match fault with
  | some f => .error f
  | none => .ok answer

namespace DeclaredStore

def table (s : DeclaredStore) (schema : Option String) (name : String) : Except Fault DeclaredTable :=
  match if schema = s.schema then s.tables.find? fun t => t.name == name else none with
  | some t => .ok t
  | none => .error (.reported .missingTable name)

def names (s : DeclaredStore) (schema : Option String) : List String :=
  if schema = s.schema then s.listing.getD (s.tables.map DeclaredTable.name) else []

/-- The first rows, as many as the limit allows. -/
def limited {α : Type} (limit : Option Int) (rows : List α) : List α :=
  match limit with
  | some n => rows.take n.toNat
  | none => rows

def rows (s : DeclaredStore) (q : Query) : Except Fault (List (List Value)) :=
  match s.tables.find? fun t => t.name == q.table with
  | some t => do
    answerUnless t.queryFault ()
    answerUnless t.fetchFault (limited q.limit t.rows)
  | none => .error (.reported .missingTable q.table)

def toStore (s : DeclaredStore) : Store where
  driverFaults := s.driverFaults
  connect n := answerUnless (s.connectFaults.lookup n) ()
  close := answerUnless s.closeFault ()
  inspect := answerUnless s.inspectFault ()
  tables schema := answerUnless s.listingFault (s.names schema)
  references schema name := do
    let t ← s.table schema name
    answerUnless t.referencesFault t.references
  key schema name := do
    let t ← s.table schema name
    answerUnless t.keyFault t.key
  columns schema name := do
    let t ← s.table schema name
    answerUnless t.columnsFault t.columns
  rows := s.rows

end DeclaredStore
end TableDump
