import Mathlib.Data.List.Forall2
import TableDump.Model.EntityJson
import TableDump.Proofs.RunFrame

/-! # Written entity models

Entity models written as JSON and read again.

* `Entity.Accepted`: what passes the checks that are made when an entity, its attributes and their tables are made.
* `lookup_memberUnlessNull`, `lookup_memberOf`: a member that is left out is read as what stands for nothing.
* `CollectionTable.ofJson_toJson`, `JoinTable.ofJson_toJson`, `Attribute.ofJson_toJson`, `Entity.ofJson_toJson`: each part is read
  as it was written; what is basic is read as `Attribute.basicRead`.
* `parseEntities_rewritten`: models that were read are accepted, so what is written of them reads the same.
* `parseEntities_written`: accepted models are read as they were written, and without their `basic` members only what is basic
  may differ.
-/

namespace TableDump
set_option autoImplicit false

/-! ## Accepted models -/

def CollectionTable.Accepted (t : CollectionTable) : Prop := CollectionTable.make t.name t.joinColumn = .ok t

def JoinTable.Accepted (t : JoinTable) : Prop := JoinTable.make t.joinColumn t.inverseJoinColumn t.name = .ok t

structure Attribute.Accepted (a : Attribute) : Prop where
  made : a.make = .ok a
  collection : ∀ t, a.collection = some t → t.Accepted
  join : ∀ t, a.join = some t → t.Accepted

structure Entity.Accepted (e : Entity) : Prop where
  made : e.make = .ok e
  attributes : ∀ a ∈ e.attributes, a.Accepted

/-! ## Members -/

namespace Json
variable {key : String}

theorem member_obj (members : List (String × Json)) (default : Json) :
    (obj members).member key default = .ok ((lookup key members).getD default) := rfl

theorem lookup_append (first second : List (String × Json)) :
    lookup key (first ++ second) = (lookup key first).or (lookup key second) := by
  induction first with
  | nil => rfl
  | cons m rest ih =>
    obtain ⟨k, v⟩ := m
    by_cases h : k = key
    · simp only [List.cons_append, lookup, if_pos h, Option.some_or]
    · simp only [List.cons_append, lookup, if_neg h, ih]

end Json

section
variable {α : Type} {key other : String} {toJson : α → Json}

theorem lookup_memberUnlessNull (key : String) (j : Json) : (Json.lookup key (memberUnlessNull key j)).getD .null = j := by
  cases j <;> simp [memberUnlessNull, Json.lookup]

theorem lookup_memberUnlessNull_of_ne (h : key ≠ other) (j : Json) : Json.lookup other (memberUnlessNull key j) = none := by
  cases j <;> simp [memberUnlessNull, Json.lookup, h]

theorem lookup_memberOf (key : String) (toJson : α → Json) (o : Option α) :
    Json.lookup key (memberOf key toJson o) = o.map toJson := by
  cases o <;> simp [memberOf, Json.lookup]

theorem lookup_memberOf_of_ne (h : key ≠ other) (o : Option α) : Json.lookup other (memberOf key toJson o) = none := by
  cases o <;> simp [memberOf, Json.lookup, h]

end

/-! ## Tables of relations -/

theorem CollectionTable.ofJson_toJson {o : Option CollectionTable} (h : ∀ t, o = some t → t.Accepted) :
    CollectionTable.ofJson ((o.map CollectionTable.toJson).getD .null) = .ok o := by
  cases o with
  | none => rfl
  | some t =>
    have hmade : CollectionTable.make t.name t.joinColumn = .ok t := h t rfl
    have hread : CollectionTable.ofJson t.toJson = (CollectionTable.make t.name t.joinColumn).map some := rfl
    rw [Option.map_some, Option.getD_some, hread, hmade]
    rfl

theorem JoinTable.ofJson_toJson {o : Option JoinTable} (h : ∀ t, o = some t → t.Accepted) :
    JoinTable.ofJson ((o.map JoinTable.toJson).getD .null) = .ok o := by
  cases o with
  | none => rfl
  | some t =>
    have hmade : JoinTable.make t.joinColumn t.inverseJoinColumn t.name = .ok t := h t rfl
    have hname := lookup_memberUnlessNull "name" t.name
    have hread : JoinTable.ofJson t.toJson = (JoinTable.make t.joinColumn t.inverseJoinColumn
        ((Json.lookup "name" (memberUnlessNull "name" t.name)).getD .null)).map some := rfl
    rw [Option.map_some, Option.getD_some, hread, hname, hmade]
    rfl

/-! ## Attributes and entities -/

/-- What is read of an attribute: without a `basic` member it is basic where it has no table of its own. -/
def Attribute.basicRead (withBasic : Bool) (a : Attribute) : Attribute :=
  { a with basic := if withBasic then a.basic else .bool (a.collection.isNone && a.join.isNone) }

def Entity.basicRead (withBasic : Bool) (e : Entity) : Entity :=
  { e with attributes := e.attributes.map (Attribute.basicRead withBasic) }

theorem Attribute.basicRead_true (a : Attribute) : a.basicRead true = a := rfl

theorem Entity.map_basicRead_true (entities : List Entity) : entities.map (Entity.basicRead true) = entities := by
  have hsame : ∀ e : Entity, e.basicRead true = e := fun e => by
    rw [Entity.basicRead, List.map_congr_left fun a _ => a.basicRead_true, List.map_id']
  rw [List.map_congr_left fun e _ => hsame e, List.map_id']

theorem Attribute.make_eq_ok_iff {a b : Attribute} : a.make = .ok b ↔ a.name.truth = true ∧ a = b := by
  rw [Attribute.make]
  cases a.name.truth <;> simp

theorem Entity.make_eq_ok_iff {e f : Entity} : e.make = .ok f ↔ e.name.truth = true ∧ e = f := by
  rw [Entity.make]
  cases e.name.truth <;> simp

theorem Attribute.ofJson_toJson (withBasic : Bool) {a : Attribute} (h : a.Accepted) :
    Attribute.ofJson (a.toJson withBasic) = .ok (a.basicRead withBasic) := by
  have hname : a.name.truth = true := (make_eq_ok_iff.1 h.made).1
  have hmade : (a.basicRead withBasic).make = .ok (a.basicRead withBasic) := make_eq_ok_iff.2 ⟨hname, rfl⟩
  have hread : Attribute.ofJson (a.toJson withBasic) = (do
      let collection ← CollectionTable.ofJson ((a.collection.map CollectionTable.toJson).getD .null)
      let join ← JoinTable.ofJson ((a.join.map JoinTable.toJson).getD .null)
      Attribute.make {
        name := a.name
        column := a.column
        basic := if withBasic then a.basic else .bool (collection.isNone && join.isNone)
        collection
        join
        target := a.target }) := by
    rw [Attribute.ofJson, Attribute.toJson]
    cases withBasic <;>
      simp [Json.member_obj, Json.lookup_append, Json.lookup, lookup_memberUnlessNull, lookup_memberUnlessNull_of_ne,
        lookup_memberOf, lookup_memberOf_of_ne, bind, Except.bind]
  rw [hread, CollectionTable.ofJson_toJson h.collection, JoinTable.ofJson_toJson h.join]
  exact hmade

/-- A list of what is written is read item by item. -/
theorem mapM_map_eq_ok {α : Type} {write : α → Json} {read : Json → Except Fault α} {change : α → α} {xs : List α}
    (h : ∀ x ∈ xs, read (write x) = .ok (change x)) : (xs.map write).mapM read = .ok (xs.map change) := by
  refine mapM_eq_ok_of_forall₂ (List.forall₂_map_left_iff.2 (List.forall₂_map_right_iff.2 ?_))
  exact List.forall₂_same.2 h

theorem Entity.ofJson_toJson (withBasic : Bool) {e : Entity} (h : e.Accepted) :
    Entity.ofJson (e.toJson withBasic) = .ok (e.basicRead withBasic) := by
  have hname : e.name.truth = true := (make_eq_ok_iff.1 h.made).1
  have hmade : (e.basicRead withBasic).make = .ok (e.basicRead withBasic) := make_eq_ok_iff.2 ⟨hname, rfl⟩
  have hread : Entity.ofJson (e.toJson withBasic) = (do
      let attributes ← (e.attributes.map (Attribute.toJson withBasic)).mapM Attribute.ofJson
      Entity.make { name := e.name, table := e.table, attributes }) := by
    rw [Entity.ofJson, Entity.toJson]
    simp [Json.member_obj, Json.lookup_append, Json.lookup, Json.items, lookup_memberUnlessNull,
      lookup_memberUnlessNull_of_ne, bind, Except.bind]
  rw [hread, mapM_map_eq_ok fun a ha => Attribute.ofJson_toJson withBasic (h.attributes a ha)]
  exact hmade

theorem parseEntities_entitiesJson (path : String) (withBasic : Bool) {entities : List Entity}
    (h : ∀ e ∈ entities, e.Accepted) :
    parseEntities path (entitiesJson withBasic entities) = .ok (entities.map (Entity.basicRead withBasic)) := by
  have hread : readEntities (entitiesJson withBasic entities) = .ok (entities.map (Entity.basicRead withBasic)) :=
    mapM_map_eq_ok fun e he => Entity.ofJson_toJson withBasic (h e he)
  rw [parseEntities, hread]

/-! ## Models that were read -/

theorem forall_of_mapM_eq_ok {α β : Type} {f : α → Except Fault β} {xs : List α} {ys : List β} {P : β → Prop}
    (h : xs.mapM f = .ok ys) (hf : ∀ x y, f x = .ok y → P y) : ∀ y ∈ ys, P y := by
  intro y hy
  obtain ⟨x, -, hxy⟩ := exists_of_forall₂ (forall₂_of_mapM_ok h) hy
  exact hf x y hxy

theorem CollectionTable.accepted_of_make {name joinColumn : Json} {t : CollectionTable} (h : make name joinColumn = .ok t) :
    t.Accepted := by
  have hmade : t = ⟨name, joinColumn⟩ := by
    unfold make at h
    split at h
    · cases h
    · split at h
      · cases h
      · exact (Except.ok.inj h).symm
  subst hmade
  exact h

theorem JoinTable.accepted_of_make {joinColumn inverseJoinColumn name : Json} {t : JoinTable}
    (h : make joinColumn inverseJoinColumn name = .ok t) : t.Accepted := by
  have hmade : t = ⟨joinColumn, inverseJoinColumn, name⟩ := by
    unfold make at h
    split at h
    · exact (Except.ok.inj h).symm
    · cases h
  subst hmade
  exact h

theorem CollectionTable.accepted_of_ofJson {j : Json} {o : Option CollectionTable} (h : CollectionTable.ofJson j = .ok o) :
    ∀ t, o = some t → t.Accepted := by
  rintro t rfl
  unfold CollectionTable.ofJson at h
  split at h
  · obtain ⟨name, -, h⟩ := outcome_bind_eq_ok_iff.1 h
    obtain ⟨joinColumn, -, h⟩ := outcome_bind_eq_ok_iff.1 h
    obtain ⟨made, hmade, h⟩ := outcome_bind_eq_ok_iff.1 h
    cases h
    exact accepted_of_make hmade
  · cases h

theorem JoinTable.accepted_of_ofJson {j : Json} {o : Option JoinTable} (h : JoinTable.ofJson j = .ok o) :
    ∀ t, o = some t → t.Accepted := by
  rintro t rfl
  unfold JoinTable.ofJson at h
  split at h
  · cases h
  · obtain ⟨joinColumn, -, h⟩ := outcome_bind_eq_ok_iff.1 h
    obtain ⟨inverseJoinColumn, -, h⟩ := outcome_bind_eq_ok_iff.1 h
    obtain ⟨name, -, h⟩ := outcome_bind_eq_ok_iff.1 h
    obtain ⟨made, hmade, h⟩ := outcome_bind_eq_ok_iff.1 h
    cases h
    exact accepted_of_make hmade

theorem Attribute.accepted_of_ofJson {j : Json} {a : Attribute} (h : Attribute.ofJson j = .ok a) : a.Accepted := by
  obtain ⟨_, -, h⟩ := outcome_bind_eq_ok_iff.1 h
  obtain ⟨collection, hcollection, h⟩ := outcome_bind_eq_ok_iff.1 h
  obtain ⟨_, -, h⟩ := outcome_bind_eq_ok_iff.1 h
  obtain ⟨join, hjoin, h⟩ := outcome_bind_eq_ok_iff.1 h
  obtain ⟨name, -, h⟩ := outcome_bind_eq_ok_iff.1 h
  obtain ⟨column, -, h⟩ := outcome_bind_eq_ok_iff.1 h
  obtain ⟨basic, -, h⟩ := outcome_bind_eq_ok_iff.1 h
  obtain ⟨target, -, h⟩ := outcome_bind_eq_ok_iff.1 h
  obtain ⟨-, rfl⟩ := make_eq_ok_iff.1 h
  exact ⟨h, CollectionTable.accepted_of_ofJson hcollection, JoinTable.accepted_of_ofJson hjoin⟩

theorem Entity.accepted_of_ofJson {j : Json} {e : Entity} (h : Entity.ofJson j = .ok e) : e.Accepted := by
  obtain ⟨_, -, h⟩ := outcome_bind_eq_ok_iff.1 h
  obtain ⟨items, -, h⟩ := outcome_bind_eq_ok_iff.1 h
  obtain ⟨attributes, hattributes, h⟩ := outcome_bind_eq_ok_iff.1 h
  obtain ⟨name, -, h⟩ := outcome_bind_eq_ok_iff.1 h
  obtain ⟨table, -, h⟩ := outcome_bind_eq_ok_iff.1 h
  obtain ⟨-, rfl⟩ := make_eq_ok_iff.1 h
  exact ⟨h, forall_of_mapM_eq_ok hattributes fun _ _ => Attribute.accepted_of_ofJson⟩

/-- Models that were read are read again as they are from what is written of them. -/
theorem parseEntities_rewritten {path : String} {j : Json} {entities : List Entity} (h : parseEntities path j = .ok entities)
    (target : String) : parseEntities target (entitiesJson true entities) = .ok entities := by
  have hread : readEntities j = .ok entities := by
    unfold parseEntities at h
    split at h
    · next hread =>
      cases h
      exact hread
    · cases h
  obtain ⟨_, -, hread⟩ := outcome_bind_eq_ok_iff.1 hread
  obtain ⟨items, -, hread⟩ := outcome_bind_eq_ok_iff.1 hread
  have haccepted : ∀ e ∈ entities, e.Accepted := forall_of_mapM_eq_ok hread fun _ _ => Entity.accepted_of_ofJson
  rw [parseEntities_entitiesJson target true haccepted, Entity.map_basicRead_true]

/-! ## Lists of models -/

/-- The same attribute but for what is basic: it is basic exactly where it has no table of its own. -/
structure Attribute.BasicByTables (a b : Attribute) : Prop where
  same : { b with basic := a.basic } = a
  basic : ∃ isBasic : Bool, b.basic = .bool isBasic ∧ (isBasic = true ↔ a.collection = none ∧ a.join = none)

/-- The same entity but for what is basic of its attributes. -/
structure Entity.BasicByTables (e f : Entity) : Prop where
  name : f.name = e.name
  table : f.table = e.table
  attributes : List.Forall₂ Attribute.BasicByTables e.attributes f.attributes

theorem Attribute.basicByTables_basicRead (a : Attribute) : a.BasicByTables (a.basicRead false) where
  same := rfl
  basic := ⟨a.collection.isNone && a.join.isNone, rfl, by
    rw [Bool.and_eq_true, Option.isNone_iff_eq_none, Option.isNone_iff_eq_none]⟩

theorem Entity.basicByTables_basicRead (e : Entity) : e.BasicByTables (e.basicRead false) where
  name := rfl
  table := rfl
  attributes := List.forall₂_map_right_iff.2 (List.forall₂_same.2 fun a _ => a.basicByTables_basicRead)

/-- Accepted models that are written are read as they were. Written without their `basic` members they differ at most in what is
basic, and those attributes are basic that have no table of their own. -/
theorem parseEntities_written (path : String) {entities : List Entity} (h : ∀ e ∈ entities, e.Accepted) :
    parseEntities path (entitiesJson true entities) = .ok entities ∧
    ∃ parsed, parseEntities path (entitiesJson false entities) = .ok parsed ∧
      List.Forall₂ Entity.BasicByTables entities parsed := by
  refine ⟨?_, entities.map (Entity.basicRead false), parseEntities_entitiesJson path false h, ?_⟩
  · rw [parseEntities_entitiesJson path true h, Entity.map_basicRead_true]
  · exact List.forall₂_map_right_iff.2 (List.forall₂_same.2 fun e _ => e.basicByTables_basicRead)

/-- Users with a column override, a join table without a name and a collection that calls itself basic, and an entity that has
only its name. -/
def accountModels : List Entity := [
  { name := .str "User"
    table := .str "SyncopeUser"
    attributes := [
      { name := .str "password", column := .str "password_hash" },
      { name := .str "roles", basic := .bool false, target := .str "Role"
        join := some { joinColumn := .str "user_id", inverseJoinColumn := .str "role_id" } },
      { name := .str "emails"
        collection := some { name := .str "SyncopeUser_emails", joinColumn := .str "user_id" } }] },
  { name := .str "Notification" }]

theorem parseEntities_written_accounts : (∀ e ∈ accountModels, e.Accepted) ∧
    parseEntities "models" (entitiesJson true accountModels) = .ok accountModels ∧
    ∃ parsed, parseEntities "models" (entitiesJson false accountModels) = .ok parsed ∧
      List.Forall₂ Entity.BasicByTables accountModels parsed := by
  have haccepted : ∀ e ∈ accountModels, e.Accepted := by
    intro e he
    obtain rfl | rfl : e = _ ∨ e = _ := by simpa only [accountModels, List.mem_cons, List.not_mem_nil, or_false] using he
    · refine ⟨rfl, fun a ha => ?_⟩
      obtain rfl | rfl | rfl : a = _ ∨ a = _ ∨ a = _ := by simpa only [List.mem_cons, List.not_mem_nil, or_false] using ha
      · exact ⟨rfl, nofun, nofun⟩
      · refine ⟨rfl, nofun, ?_⟩
        rintro t ⟨⟩
        exact rfl
      · refine ⟨rfl, ?_, nofun⟩
        rintro t ⟨⟩
        exact rfl
    · exact ⟨rfl, nofun⟩
  exact ⟨haccepted, parseEntities_written "models" haccepted⟩

end TableDump
