import TableDump.Markup.Document
import TableDump.Fault

/-! # Reports

* `TableOutcome`: a table with its elements, or with the fault for which it has none.
* `Report`: the tables that were eligible with their outcomes, and the fault that ended the export
  before any table was read.
-/

namespace TableDump
open TableDump.Markup
set_option autoImplicit false

structure TableOutcome where
  table : String
  outcome : Except Fault (List Element)

namespace TableOutcome

def elements (t : TableOutcome) : List Element :=
  match t.outcome with
  | .ok es => es
  | .error _ => []

def isExported (t : TableOutcome) : Bool := t.outcome.isOk

def error? (t : TableOutcome) : Option String :=
  match t.outcome with
  | .ok _ => none
  | .error f => some (t.table ++ ": " ++ f.message)

end TableOutcome

structure Report where
  discovered : Nat := 0
  outcomes : List TableOutcome := []
  stopped : Option Fault := none

namespace Report

def elements (r : Report) : List Element := r.outcomes.flatMap TableOutcome.elements

def exported (r : Report) : List String := (r.outcomes.filter TableOutcome.isExported).map TableOutcome.table

def failed (r : Report) : List String :=
  (r.outcomes.filter fun t => !t.isExported).map TableOutcome.table

def rowCount (r : Report) : Nat := r.elements.length

def errors (r : Report) : List String := r.outcomes.filterMap TableOutcome.error? ++ (r.stopped.map Fault.message).toList

def success (r : Report) : Bool := r.errors.isEmpty

end Report
end TableDump
