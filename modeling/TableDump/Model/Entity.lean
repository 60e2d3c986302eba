import TableDump.Json.Basic
import TableDump.Text.LetterCase

/-! # Entity models

What is declared about tables: entities with their attributes, collection tables and join tables.

* Fields hold any JSON value. A name has to be true, and so have the columns of a collection table or a
  join table; `make` refuses what breaks this.
* `Attribute.columnName` is the column override when there is one, else the name.
* `RelationColumns` are the two join columns of a relation table; `RelationColumns.normalize` gives a
  name the letter case in which one of them is declared.
-/

namespace TableDump
open TableDump.Text
set_option autoImplicit false

/-! ## Tables of relations -/

structure CollectionTable where
  name : Json
  joinColumn : Json
deriving Repr

def CollectionTable.make (name joinColumn : Json) : Except Fault CollectionTable :=
  if !name.truth then .error (.emptyField "collection table name")
  else if !joinColumn.truth then .error (.emptyField "collection table join_column")
  else .ok { name, joinColumn }

structure JoinTable where
  joinColumn : Json
  inverseJoinColumn : Json
  name : Json := .null
deriving Repr

def JoinTable.make (joinColumn inverseJoinColumn name : Json) : Except Fault JoinTable :=
  if joinColumn.truth && inverseJoinColumn.truth then .ok { joinColumn, inverseJoinColumn, name }
  else .error .joinColumnsMissing

/-! ## Attributes and entities -/

structure Attribute where
  name : Json
  column : Json := .null
  basic : Json := .bool true
  collection : Option CollectionTable := none
  join : Option JoinTable := none
  target : Json := .null
deriving Repr

def Attribute.make (a : Attribute) : Except Fault Attribute :=
  if a.name.truth then .ok a else .error (.emptyField "attribute name")

def Attribute.columnName (a : Attribute) : Json := a.column.orElse a.name

structure Entity where
  name : Json
  table : Json := .null
  attributes : List Attribute := []
deriving Repr

def Entity.make (e : Entity) : Except Fault Entity :=
  if e.name.truth then .ok e else .error (.emptyField "entity name")

/-! ## Relation columns -/

structure RelationColumns where
  left : Json
  right : Json
deriving Repr

namespace RelationColumns

def normalize (r : RelationColumns) (name : String) : Except Fault String := do
  let left ← r.left.textFor "lower"
  if sameName name left then return left
  let right ← r.right.textFor "lower"
  return if sameName name right then right else name

end RelationColumns
end TableDump
