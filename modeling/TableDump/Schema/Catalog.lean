import TableDump.Schema.Spelling
import TableDump.Store.Basic

/-! # Catalogs

The metadata of one schema of a data source.

* An empty schema name is no schema.
* A fault of the database layer becomes one of the catalog, with the table that was asked for.
* `Catalog.imports`: the tables that a table refers to, each once ignoring case.
-/

namespace TableDump
open TableDump.Schema
set_option autoImplicit false

structure Catalog where
  store : Store
  schema : Option String

def schemaName : Option String → Option String
  | none => none
  | some s => if s.isEmpty then none else some s

namespace Catalog

def make (store : Store) (schema : Option String) : Catalog := ⟨store, schemaName schema⟩

/-- Names that are there and not empty. -/
def presentNames (names : List (Option String)) : List String :=
  names.filterMap fun name => name.bind fun s => if s.isEmpty then none else some s

/-- An answer of the inspector about a table, or about none. -/
def guarded {α : Type} (c : Catalog) (table : Option String) (answer : Except Fault α) : Except Fault α :=
  match (do c.store.inspect; answer : Except Fault α) with
  | .ok a => .ok a
  | .error f => .error (if f.kind.isDatabase then .unreadableCatalog table f else f)

def tables (c : Catalog) : Run (List String) := do
  Run.record .tablesListed
  Run.lift (c.guarded none (c.store.tables c.schema))

def imports (c : Catalog) (table : String) : Run (List String) := do
  Run.record (.importsRead table)
  Run.lift ((c.guarded (some table) (c.store.references c.schema table)).map fun names =>
    distinctNames (presentNames names))

def key (c : Catalog) (table : String) : Run (List String) := do
  Run.record (.keyRead table)
  Run.lift ((c.guarded (some table) (c.store.key c.schema table)).map presentNames)

def columns (c : Catalog) (table : String) : Run (List Column) := do
  Run.record (.columnsRead table)
  Run.lift (c.guarded (some table) (c.store.columns c.schema table))

end Catalog
end TableDump
