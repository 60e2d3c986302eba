import TableDump.Model.Entity

/-! # Entity models as JSON

* `readEntities` reads a list of entity models. Tables and attributes are made in the order in which
  they stand, an entity after its attributes; the first fault ends the reading.
* `entitiesJson` writes one; what is null is left out.
-/

namespace TableDump
set_option autoImplicit false

/-! ## Reading -/

def CollectionTable.ofJson (j : Json) : Except Fault (Option CollectionTable) := do
  if j.truth then
    return some (← CollectionTable.make (← j.member "name" (.str "")) (← j.member "join_column" (.str "")))
  else return none

def JoinTable.ofJson : Json → Except Fault (Option JoinTable)
  | .null => .ok none
  | j => do
    let joinColumn ← j.member "join_column" (.str "")
    let inverseJoinColumn ← j.member "inverse_join_column" (.str "")
    return some (← JoinTable.make joinColumn inverseJoinColumn (← j.member "name" .null))

/-- An attribute is basic unless it says otherwise or has a table of its own. -/
def Attribute.ofJson (j : Json) : Except Fault Attribute := do
  let collection ← CollectionTable.ofJson (← j.member "collection_table" .null)
  let join ← JoinTable.ofJson (← j.member "join_table" .null)
  Attribute.make {
    name := ← j.member "name" (.str "")
    column := ← j.member "column" .null
    basic := ← j.member "basic" (.bool (collection.isNone && join.isNone))
    collection
    join
    target := ← j.member "target_entity" .null }

def Entity.ofJson (j : Json) : Except Fault Entity := do
  let attributes ← (← (← j.member "attributes" (.arr [])).items).mapM Attribute.ofJson
  Entity.make {
    name := ← j.member "name" (.str "")
    table := ← j.member "table" .null
    attributes }

def readEntities (j : Json) : Except Fault (List Entity) := do
  (← (← j.member "entities" (.arr [])).items).mapM Entity.ofJson

/-- Entity models read from the file at `path`. -/
def parseEntities (path : String) (j : Json) : Except Fault (List Entity) :=
  match readEntities j with
  | .ok entities => .ok entities
  | .error f => .error (.unparsableModels path f)

/-! ## Writing -/

/-- A member, left out when it is null. -/
def memberUnlessNull (key : String) : Json → List (String × Json)
  | .null => []
  | j => [(key, j)]

def memberOf {α : Type} (key : String) (toJson : α → Json) : Option α → List (String × Json)
  | none => []
  | some a => [(key, toJson a)]

def CollectionTable.toJson (t : CollectionTable) : Json :=
  .obj [("name", t.name), ("join_column", t.joinColumn)]

def JoinTable.toJson (t : JoinTable) : Json :=
  .obj ([("join_column", t.joinColumn), ("inverse_join_column", t.inverseJoinColumn)] ++
    memberUnlessNull "name" t.name)

/-- An attribute, with or without its `basic` member. -/
def Attribute.toJson (withBasic : Bool) (a : Attribute) : Json :=
  .obj ([("name", a.name)] ++ memberUnlessNull "column" a.column ++
    (if withBasic then [("basic", a.basic)] else []) ++
    memberOf "collection_table" CollectionTable.toJson a.collection ++
    memberOf "join_table" JoinTable.toJson a.join ++
    memberUnlessNull "target_entity" a.target)

def Entity.toJson (withBasic : Bool) (e : Entity) : Json :=
  .obj ([("name", e.name)] ++ memberUnlessNull "table" e.table ++
    [("attributes", .arr (e.attributes.map (Attribute.toJson withBasic)))])

def entitiesJson (withBasic : Bool) (entities : List Entity) : Json :=
  .obj [("entities", .arr (entities.map (Entity.toJson withBasic)))]

end TableDump
