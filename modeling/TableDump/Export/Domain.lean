import TableDump.Export.Extraction

/-! # Domains

* `Domain`: a data source with its schema, its entity models and its hierarchy. Models are loaded anew
  for every export; a domain without models is exported under physical names.
* `loadEntities`: the index and the relation tables of a domain. What is wrong with the models is logged
  and becomes a configuration fault.
-/

namespace TableDump
set_option autoImplicit false

structure Domain where
  store : Store
  schema : Option String := none
  models : Option (Run (List Entity)) := none
  hierarchy : Option Hierarchy := none

namespace Domain

/-- The entities of a domain, in an index. -/
def index (d : Domain) : Run EntityIndex := do
  match d.models with
  | some load => EntityIndex.ofEntities (← load)
  | none => return {}

/-- Logs a fault of the models; an unusable value in them is a configuration fault. -/
def modelsFault (name : String) (f : Fault) : Run EntityIndex := do
  if f.kind == .configuration then
    Run.log .error ("Could not load entity models of domain " ++ name ++ ": " ++ f.message)
    throw f
  else if f.kind.isUnusable then
    let invalid := Fault.invalidModels name f
    Run.log .error invalid.message
    throw invalid
  else throw f

def loadEntities (d : Domain) (name : String) : Run (EntityIndex × RelationTables) := do
  let index ← Run.recover (fun _ => true) (modelsFault name) d.index
  return (index, ← index.relationTables)

end Domain
end TableDump
