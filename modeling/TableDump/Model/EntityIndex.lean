import TableDump.Model.Entity
import TableDump.Run
import TableDump.Value.Basic

/-! # Entities by table

* `EntityIndex`: the entities by their tables, ignoring case. A later entity takes the place of an
  earlier one with the same table.
* `RelationTables`: the join columns of relation tables by the name of the table, in the order of
  first declaration; the last declaration counts.
* `EntityIndex.relationTables` derives the relation tables from the attributes of the indexed entities.
* `EntityIndex.exportedName`: the name under which the rows of a table are exported.
-/

namespace TableDump
open TableDump.Text
set_option autoImplicit false

/-! ## The index -/

structure IndexEntry where
  table : String
  entity : Entity
deriving Repr

structure EntityIndex where
  entries : List IndexEntry := []
deriving Repr

namespace EntityIndex

def size (index : EntityIndex) : Nat := index.entries.length

def entities (index : EntityIndex) : List Entity := index.entries.map IndexEntry.entity

/-- The entity mapped on a table. -/
def find? (index : EntityIndex) (table : String) : Option Entity :=
  (index.entries.find? fun entry => sameName entry.table table).map IndexEntry.entity

/-- Puts an entry in the place of the one with the same table, or at the end. -/
def putEntry (entry : IndexEntry) : List IndexEntry → List IndexEntry
  | [] => [entry]
  | old :: rest => if sameName old.table entry.table then entry :: rest else old :: putEntry entry rest

theorem find?_putEntry_self (entry : IndexEntry) (entries : List IndexEntry) :
    (⟨putEntry entry entries⟩ : EntityIndex).find? entry.table = some entry.entity := by
  induction entries with
  | nil => simp [putEntry, find?, sameName_refl]
  | cons old rest ih =>
    cases h : sameName old.table entry.table with
    | true => simp [putEntry, find?, h, sameName_refl]
    | false => simpa [putEntry, find?, h] using ih

theorem find?_putEntry_of_ne {entry : IndexEntry} {table : String}
    (h : sameName entry.table table = false) (entries : List IndexEntry) :
    (⟨putEntry entry entries⟩ : EntityIndex).find? table = (⟨entries⟩ : EntityIndex).find? table := by
  induction entries with
  | nil => simp [putEntry, find?, h]
  | cons old rest ih =>
    cases hold : sameName old.table entry.table with
    | true =>
      have : sameName old.table table = false := by
        rw [← h]
        simp only [sameName, sameName_iff.1 hold]
      simp [putEntry, find?, hold, h, this]
    | false =>
      simp only [find?] at ih
      cases ho : sameName old.table table <;> simp [putEntry, find?, hold, ho]
      simpa using ih

def mappedTwice (table : String) (earlier later : Entity) : String :=
  "Table " ++ table ++ " mapped by both " ++ earlier.name.toText ++ " and " ++ later.name.toText ++
    "; keeping " ++ later.name.toText

/-- Adds an entity unless it declares no table; replacing another one is logged. -/
def insert (index : EntityIndex) (entity : Entity) : Run EntityIndex := do
  if entity.table.truth then
    let table ← Run.lift (entity.table.textFor "lower")
    match index.find? table with
    | some earlier => Run.log .warning (mappedTwice table earlier entity)
    | none => pure ()
    return ⟨putEntry ⟨table, entity⟩ index.entries⟩
  else return index

def ofEntities (entities : List Entity) : Run EntityIndex :=
  entities.foldlM insert {}

end EntityIndex

/-! ## Relation tables -/

/-- Names of relation tables with their join columns. A name may be a number when it is alone. -/
abbrev RelationTables := List (Json × RelationColumns)

namespace RelationTables

/-- Sets the columns of a table, in its place or at the end. -/
def set (name : Json) (columns : RelationColumns) : RelationTables → RelationTables
  | [] => [(name, columns)]
  | (key, old) :: rest => if key.sameKey name then (key, columns) :: rest else (key, old) :: set name columns rest

def put (name : Json) (columns : RelationColumns) (tables : RelationTables) : Except Fault RelationTables :=
  name.checkKey.map fun _ => set name columns tables

/-- The columns of the table of exactly this name. -/
def get? (tables : RelationTables) (name : Json) : Except Fault (Option RelationColumns) :=
  name.checkKey.map fun _ => (tables.find? fun entry => entry.1.sameKey name).map Prod.snd

/-- The declared name of a table, found ignoring case. -/
def find? (tables : RelationTables) (table : String) : Except Fault (Option String) :=
  match tables with
  | [] => .ok none
  | (key, _) :: rest => do
    let name ← key.textFor "lower"
    if sameName name table then return some name else find? rest table

/-- Names are put in order, which numbers and texts together do not have. -/
def checkOrder : RelationTables → Except Fault Unit
  | (a, _) :: (b, columns) :: rest =>
    if (a.kind == .text) == (b.kind == .text) then checkOrder ((b, columns) :: rest)
    else .error (.notOrdered "<" b.kind a.kind)
  | _ => .ok ()

end RelationTables

namespace EntityIndex

def addCollection (a : Attribute) (tables : RelationTables) : Except Fault RelationTables :=
  match a.collection with
  | none => .ok tables
  | some c => tables.put c.name ⟨a.columnName, c.joinColumn⟩

/-- The declared name of a join table without blanks around it, `""` where none is declared. -/
def declaredJoinName (j : JoinTable) : Except Fault String :=
  if j.name.truth then (j.name.textFor "strip").map strip else .ok ""

/-- The name of a join table: the declared one, else owner and target. -/
def joinName? (e : Entity) (a : Attribute) (j : JoinTable) : Except Fault (Option String) := do
  let declared ← declaredJoinName j
  return if !declared.isEmpty then some declared
    else if a.target.truth then some (e.name.toText ++ "_" ++ a.target.toText)
    else none

def addJoin (e : Entity) (a : Attribute) (tables : RelationTables) : Run RelationTables := do
  match a.join with
  | none => return tables
  | some j =>
    match ← Run.lift (joinName? e a j) with
    | some name => Run.lift (tables.put (.str name) ⟨j.joinColumn, j.inverseJoinColumn⟩)
    | none =>
      Run.log .warning ("Cannot name join table of " ++ e.name.toText ++ "." ++ a.name.toText ++
        ": no target entity declared")
      return tables

def addAttribute (e : Entity) (tables : RelationTables) (a : Attribute) : Run RelationTables := do
  if a.basic.truth then return tables
  else addJoin e a (← Run.lift (addCollection a tables))

def relationTables (index : EntityIndex) : Run RelationTables := do
  let tables : RelationTables ←
    index.entities.foldlM (fun tables e => e.attributes.foldlM (addAttribute e) tables) []
  Run.lift tables.checkOrder
  return tables

/-! ## Exported names -/

/-- The name of the entity mapped on a table, else the declared name of the relation table, else the
name of the table. -/
def exportedName (index : EntityIndex) (relations : RelationTables) (table : String) : Except Fault Json :=
  match index.find? table with
  | some entity => .ok entity.name
  | none => do
    let declared ← relations.find? table
    return .str (match declared with
      | some name => if name.isEmpty then table else name
      | none => table)

end EntityIndex
end TableDump
