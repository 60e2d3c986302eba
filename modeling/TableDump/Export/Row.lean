import TableDump.Model.ColumnName
import TableDump.Model.EntityIndex
import TableDump.Value.Encode

/-! # Exported rows

* `Row`: exported names with texts, in the order in which the names were first given. A name given
  again keeps its place and takes the new text.
* `mapRecord`: the row of a record. A value that is absent is left out; a column is named by the entity
  of the table, then in the letter case of the relation columns.

The texts of rows are made of characters; none of them holds a lone surrogate.
-/

namespace TableDump
open TableDump.Text
set_option autoImplicit false

abbrev Row := List (String × String)

namespace Row

def put (name text : String) : Row → Row
  | [] => [(name, text)]
  | (n, t) :: rest => if n = name then (n, text) :: rest else (n, t) :: put name text rest

theorem names_put (name text : String) (row : Row) :
    (row.put name text).map Prod.fst =
      if name ∈ row.map Prod.fst then row.map Prod.fst else row.map Prod.fst ++ [name] := by
  induction row with
  | nil => simp [put]
  | cons entry rest ih =>
    obtain ⟨n, t⟩ := entry
    by_cases h : n = name
    · simp [put, h]
    · by_cases hr : name ∈ rest.map Prod.fst <;> simp_all [put, eq_comm]

theorem lookup_put_self (name text : String) (row : Row) : (row.put name text).lookup name = some text := by
  induction row with
  | nil => simp [put]
  | cons entry rest ih =>
    obtain ⟨n, t⟩ := entry
    by_cases h : n = name
    · simp [put, h]
    · simp [put, h, List.lookup_cons, beq_eq_false_iff_ne.2 (Ne.symm h), ih]

theorem lookup_put_of_ne {name other : String} (h : other ≠ name) (text : String) (row : Row) :
    (row.put name text).lookup other = row.lookup other := by
  induction row with
  | nil => simp [put, List.lookup_cons, beq_eq_false_iff_ne.2 h]
  | cons entry rest ih =>
    obtain ⟨n, t⟩ := entry
    by_cases hn : n = name
    · simp [put, hn, List.lookup_cons, beq_eq_false_iff_ne.2 h]
    · cases ho : other == n <;> simp [put, hn, List.lookup_cons, ho, ih]

/-- The text under the first name that is `id`, ignoring case. -/
def id? (row : Row) : Option String := (row.find? fun entry => lower entry.1 == "id").map Prod.snd

end Row

/-- What decides the names of a table's columns. -/
structure Naming where
  entity : Option Entity := none
  relation : Option RelationColumns := none

namespace Naming

def columnName (n : Naming) (column : String) : Except Fault String := do
  let name ← match n.entity with
    | some e => resolveColumn e.attributes column
    | none => .ok column
  match n.relation with
  | some r => r.normalize name
  | none => return name

end Naming

def mapValue (e : Encoding) (n : Naming) (row : Row) (column : Column) (v : Value) : Run Row := do
  match ← v.encode e column with
  | some text => return row.put (← Run.lift (n.columnName column.name)) text
  | none => return row

/-- The row of a record, from the first of the columns on; a record that is too short is refused. -/
def mapColumns (e : Encoding) (n : Naming) (row : Row) : List Column → List Value → Run Row
  | [], _ => return row
  | _ :: _, [] => throw .shortRow
  | column :: columns, v :: values => do
    mapColumns e n (← mapValue e n row column v) columns values

def mapRecord (e : Encoding) (n : Naming) (columns : List Column) (record : List Value) : Run Row :=
  mapColumns e n [] columns record

end TableDump
