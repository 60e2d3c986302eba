import TableDump.Model.EntityJson
import TableDump.Proofs.RunFrame

/-! # Violations of entity models

What keeps a JSON value from standing for entity models, and which violation is told.

* `FailsBy violations r`: `r` fails by the first of the violations, and has a value if there are none. What follows a
  computation adds its violations behind (`FailsBy.bind`, `failsBy_mapM`).
* `Json.AreModels`: the values that stand for entity models, part by part.
* `Json.modelViolations`: every violation in a value, in the order of the file: those of a collection table, of a join table, of
  the attribute that has them, of the next attribute, and of the entity last. There are none exactly in models
  (`Json.modelViolations_eq_nil_iff`).
* `parseEntities_refuses_first`: models are read, and any other value is refused by its first violation.
-/

namespace TableDump
set_option autoImplicit false

/-! ## Failing by the first violation -/

/-- An outcome that is the first of the violations, or a value where there are none. -/
def FailsBy {α : Type} (violations : List Fault) : Except Fault α → Prop
  | .ok _ => violations = []
  | .error f => violations.head? = some f

section
variable {α β : Type} {violations next : List Fault} {r : Except Fault α}

theorem FailsBy.exists_ok_iff (h : FailsBy violations r) : (∃ a, r = .ok a) ↔ violations = [] := by
  cases r with
  | ok a => exact iff_of_true ⟨a, rfl⟩ h
  | error f =>
    refine iff_of_false nofun ?_
    rintro rfl
    cases h

theorem FailsBy.bind {k : α → Except Fault β} (hr : FailsBy violations r) (hk : ∀ a, r = .ok a → FailsBy next (k a)) :
    FailsBy (violations ++ next) (r >>= k) := by
  cases r with
  | ok a =>
    obtain rfl : violations = [] := hr
    exact hk a rfl
  | error f =>
    cases violations with
    | nil => cases hr
    | cons first rest => exact hr

theorem FailsBy.bind_pure {g : α → β} (h : FailsBy violations r) : FailsBy violations (r >>= fun a => pure (g a)) := by
  have hbind : FailsBy (violations ++ []) (r >>= fun a => pure (g a)) := h.bind fun a _ => rfl
  rwa [List.append_nil] at hbind

theorem failsBy_mapM {g : α → Except Fault β} {violations : α → List Fault} (h : ∀ x, FailsBy (violations x) (g x))
    (xs : List α) : FailsBy (xs.flatMap violations) (xs.mapM g) := by
  induction xs with
  | nil => exact rfl
  | cons x rest ih =>
    rw [List.mapM_cons, List.flatMap_cons]
    exact (h x).bind fun y _ => ih.bind_pure

end

namespace Json

/-! ## Models -/

def HasTrue (members : List (String × Json)) (key : String) : Prop := ∃ v, lookup key members = some v ∧ v.truth = true

/-- What may stand for a list: a list, an empty text, an empty object, or nothing at all. -/
inductive Lists : Option Json → List Json → Prop
  | absent : Lists none []
  | emptyText : Lists (some (str "")) []
  | emptyObject : Lists (some (obj [])) []
  | items (items : List Json) : Lists (some (arr items)) items

def IsCollectionTable (j : Json) : Prop :=
  ∃ members, j = obj members ∧ HasTrue members "name" ∧ HasTrue members "join_column"

def IsJoinTable (j : Json) : Prop :=
  ∃ members, j = obj members ∧ HasTrue members "join_column" ∧ HasTrue members "inverse_join_column"

/-- A collection table that is false counts as none, a join table only when it is null. -/
def IsAttribute (j : Json) : Prop :=
  ∃ members, j = obj members ∧ HasTrue members "name" ∧
    (∀ c, lookup "collection_table" members = some c → c.truth = true → c.IsCollectionTable) ∧
    ∀ t, lookup "join_table" members = some t → t ≠ null → t.IsJoinTable

def IsEntity (j : Json) : Prop :=
  ∃ members attributes, j = obj members ∧ HasTrue members "name" ∧ Lists (lookup "attributes" members) attributes ∧
    ∀ a ∈ attributes, a.IsAttribute

def AreModels (j : Json) : Prop :=
  ∃ members entities, j = obj members ∧ Lists (lookup "entities" members) entities ∧ ∀ e ∈ entities, e.IsEntity

/-! ## Violations -/

/-- The violations of something that has to be an object. -/
def objectViolations (ofMembers : List (String × Json) → List Fault) : Json → List Fault
  | obj members => ofMembers members
  | j => [.noMember j.kind "get"]

def hasTrue (members : List (String × Json)) (key : String) : Bool := (lookup key members).any truth

def fieldViolations (key field : String) (members : List (String × Json)) : List Fault :=
  if hasTrue members key then [] else [.emptyField field]

/-- The violations of all that a value is gone through for: the characters of a text and the keys of an object are texts. -/
def itemViolations (ofItem : Json → List Fault) : Option Json → List Fault
  | none => []
  | some (arr items) => items.flatMap ofItem
  | some (str s) => s.toList.flatMap fun c => ofItem (str (String.singleton c))
  | some (obj members) => members.flatMap fun m => ofItem (str m.1)
  | some j => [.notIterable j.kind]

def collectionFieldViolations (members : List (String × Json)) : List Fault :=
  fieldViolations "name" "collection table name" members ++ fieldViolations "join_column" "collection table join_column" members

def collectionViolations : Option Json → List Fault
  | none => []
  | some c => if c.truth then objectViolations collectionFieldViolations c else []

def joinColumnViolations (members : List (String × Json)) : List Fault :=
  if hasTrue members "join_column" && hasTrue members "inverse_join_column" then [] else [.joinColumnsMissing]

def joinViolations : Option Json → List Fault
  | none | some null => []
  | some t => objectViolations joinColumnViolations t

def attributeViolations : Json → List Fault :=
  objectViolations fun members => collectionViolations (lookup "collection_table" members) ++
    (joinViolations (lookup "join_table" members) ++ fieldViolations "name" "attribute name" members)

def entityViolations : Json → List Fault :=
  objectViolations fun members => itemViolations attributeViolations (lookup "attributes" members) ++
    fieldViolations "name" "entity name" members

def modelViolations : Json → List Fault :=
  objectViolations fun members => itemViolations entityViolations (lookup "entities" members)

/-! ## Values without violations -/

section
variable {j : Json} {members : List (String × Json)}

theorem hasTrue_iff {key : String} : hasTrue members key = true ↔ HasTrue members key := by
  rw [hasTrue, Option.any_eq_true]
  rfl

theorem objectViolations_eq_nil_iff {ofMembers : List (String × Json) → List Fault} :
    objectViolations ofMembers j = [] ↔ ∃ members, j = obj members ∧ ofMembers members = [] := by
  cases j <;> simp [objectViolations]

theorem fieldViolations_eq_nil_iff {key field : String} : fieldViolations key field members = [] ↔ HasTrue members key := by
  rw [← hasTrue_iff, fieldViolations]
  cases hasTrue members key <;> simp

theorem itemViolations_eq_nil_iff {ofItem : Json → List Fault} (htext : ∀ s, ofItem (str s) ≠ []) {o : Option Json} :
    itemViolations ofItem o = [] ↔ ∃ items, Lists o items ∧ ∀ item ∈ items, ofItem item = [] := by
  cases o with
  | none => exact iff_of_true rfl ⟨[], .absent, List.forall_mem_nil _⟩
  | some j =>
    cases j with
    | arr items =>
      rw [itemViolations, List.flatMap_eq_nil_iff]
      constructor
      · exact fun h => ⟨items, .items items, h⟩
      · rintro ⟨_, ⟨⟩, h⟩
        exact h
    | str s =>
      constructor
      · intro h
        obtain rfl : s = "" := String.toList_eq_nil_iff.1 (List.eq_nil_iff_forall_not_mem.2 fun c hc =>
          htext _ (List.flatMap_eq_nil_iff.1 h c hc))
        exact ⟨[], .emptyText, List.forall_mem_nil _⟩
      · rintro ⟨_, ⟨⟩, -⟩
        rfl
    | obj members =>
      constructor
      · intro h
        obtain rfl : members = [] := List.eq_nil_iff_forall_not_mem.2 fun m hm =>
          htext _ (List.flatMap_eq_nil_iff.1 h m hm)
        exact ⟨[], .emptyObject, List.forall_mem_nil _⟩
      · rintro ⟨_, ⟨⟩, -⟩
        rfl
    | _ =>
      refine iff_of_false (List.cons_ne_nil _ _) ?_
      rintro ⟨_, ⟨⟩, -⟩

theorem collectionViolations_eq_nil_iff {o : Option Json} :
    collectionViolations o = [] ↔ ∀ c, o = some c → c.truth = true → c.IsCollectionTable := by
  cases o with
  | none => exact iff_of_true rfl nofun
  | some c =>
    cases htruth : c.truth <;>
      simp [collectionViolations, htruth, objectViolations_eq_nil_iff, collectionFieldViolations, fieldViolations_eq_nil_iff,
        IsCollectionTable]

theorem joinViolations_of_ne_null (h : j ≠ null) : joinViolations (some j) = objectViolations joinColumnViolations j := by
  cases j <;> first | rfl | exact absurd rfl h

theorem joinColumnViolations_eq_nil_iff :
    joinColumnViolations members = [] ↔ HasTrue members "join_column" ∧ HasTrue members "inverse_join_column" := by
  rw [← hasTrue_iff, ← hasTrue_iff, ← Bool.and_eq_true, joinColumnViolations]
  cases hasTrue members "join_column" && hasTrue members "inverse_join_column" <;> simp

theorem joinViolations_eq_nil_iff {o : Option Json} :
    joinViolations o = [] ↔ ∀ t, o = some t → t ≠ null → t.IsJoinTable := by
  cases o with
  | none => exact iff_of_true rfl nofun
  | some t =>
    by_cases hnull : t = null
    · subst hnull
      exact iff_of_true rfl fun t ht hne => absurd (Option.some.inj ht).symm hne
    · simp [joinViolations_of_ne_null hnull, objectViolations_eq_nil_iff, joinColumnViolations_eq_nil_iff, IsJoinTable, hnull]

theorem attributeViolations_eq_nil_iff : attributeViolations j = [] ↔ j.IsAttribute := by
  simp only [attributeViolations, objectViolations_eq_nil_iff, List.append_eq_nil_iff, collectionViolations_eq_nil_iff,
    joinViolations_eq_nil_iff, fieldViolations_eq_nil_iff, IsAttribute]
  refine exists_congr fun members => and_congr_right fun _ => ?_
  rw [← and_assoc, and_comm]

theorem entityViolations_eq_nil_iff : entityViolations j = [] ↔ j.IsEntity := by
  have htext (s : String) : attributeViolations (str s) ≠ [] := List.cons_ne_nil _ _
  simp only [entityViolations, objectViolations_eq_nil_iff, List.append_eq_nil_iff, itemViolations_eq_nil_iff htext,
    attributeViolations_eq_nil_iff, fieldViolations_eq_nil_iff, IsEntity]
  constructor
  · rintro ⟨members, rfl, ⟨attributes, hlists, hall⟩, hname⟩
    exact ⟨members, attributes, rfl, hname, hlists, hall⟩
  · rintro ⟨members, attributes, rfl, hname, hlists, hall⟩
    exact ⟨members, rfl, ⟨attributes, hlists, hall⟩, hname⟩

/-- Only models have no violation. -/
theorem modelViolations_eq_nil_iff : modelViolations j = [] ↔ j.AreModels := by
  have htext (s : String) : entityViolations (str s) ≠ [] := List.cons_ne_nil _ _
  simp only [modelViolations, objectViolations_eq_nil_iff, itemViolations_eq_nil_iff htext, entityViolations_eq_nil_iff,
    AreModels, exists_and_left]

end

/-! ## Kinds of violations -/

def Unusable (violations : List Fault) : Prop := ∀ f ∈ violations, f.kind.isUnusable = true

theorem Unusable.append {violations next : List Fault} (h : Unusable violations) (hnext : Unusable next) :
    Unusable (violations ++ next) := List.forall_mem_append.2 ⟨h, hnext⟩

theorem unusable_objectViolations {ofMembers : List (String × Json) → List Fault}
    (h : ∀ members, Unusable (ofMembers members)) (j : Json) : Unusable (objectViolations ofMembers j) := by
  cases j with
  | obj members => exact h members
  | _ => exact List.forall_mem_singleton.2 rfl

theorem unusable_itemViolations {ofItem : Json → List Fault} (h : ∀ j, Unusable (ofItem j)) (o : Option Json) :
    Unusable (itemViolations ofItem o) := by
  cases o with
  | none => exact List.forall_mem_nil _
  | some j =>
    cases j with
    | arr items => exact fun f hf => (List.mem_flatMap.1 hf).elim fun item hitem => h item f hitem.2
    | str s => exact fun f hf => (List.mem_flatMap.1 hf).elim fun c hc => h _ f hc.2
    | obj members => exact fun f hf => (List.mem_flatMap.1 hf).elim fun m hm => h _ f hm.2
    | _ => exact List.forall_mem_singleton.2 rfl

theorem unusable_fieldViolations (key field : String) (members : List (String × Json)) :
    Unusable (fieldViolations key field members) := by
  rw [fieldViolations]
  split
  · exact List.forall_mem_nil _
  · exact List.forall_mem_singleton.2 rfl

theorem unusable_collectionViolations (o : Option Json) : Unusable (collectionViolations o) := by
  cases o with
  | none => exact List.forall_mem_nil _
  | some c =>
    rw [collectionViolations]
    split
    · refine unusable_objectViolations (fun members => ?_) c
      exact (unusable_fieldViolations _ _ members).append (unusable_fieldViolations _ _ members)
    · exact List.forall_mem_nil _

theorem unusable_joinViolations (o : Option Json) : Unusable (joinViolations o) := by
  unfold joinViolations
  split
  · exact List.forall_mem_nil _
  · exact List.forall_mem_nil _
  · refine unusable_objectViolations (fun members => ?_) _
    rw [joinColumnViolations]
    split
    · exact List.forall_mem_nil _
    · exact List.forall_mem_singleton.2 rfl

theorem unusable_attributeViolations (j : Json) : Unusable (attributeViolations j) :=
  unusable_objectViolations (fun members => (unusable_collectionViolations _).append
    ((unusable_joinViolations _).append (unusable_fieldViolations _ _ members))) j

theorem unusable_entityViolations (j : Json) : Unusable (entityViolations j) :=
  unusable_objectViolations (fun members => (unusable_itemViolations unusable_attributeViolations _).append
    (unusable_fieldViolations _ _ members)) j

theorem unusable_modelViolations (j : Json) : Unusable (modelViolations j) :=
  unusable_objectViolations (fun _ => unusable_itemViolations unusable_entityViolations _) j

end Json

/-! ## Reading -/

section
variable {members : List (String × Json)}

theorem truth_getD (key : String) : ((Json.lookup key members).getD (.str "")).truth = Json.hasTrue members key := by
  rw [Json.hasTrue]
  cases Json.lookup key members <;> rfl

theorem failsBy_collectionTable (o : Option Json) :
    FailsBy (Json.collectionViolations o) (CollectionTable.ofJson (o.getD .null)) := by
  cases o with
  | none => exact rfl
  | some c =>
    rw [Option.getD_some, Json.collectionViolations, CollectionTable.ofJson]
    cases c.truth with
    | false => exact rfl
    | true =>
      cases c with
      | obj members =>
        refine FailsBy.bind_pure (r := CollectionTable.make ((Json.lookup "name" members).getD (.str ""))
          ((Json.lookup "join_column" members).getD (.str ""))) ?_
        rw [CollectionTable.make, truth_getD, truth_getD, Json.objectViolations, Json.collectionFieldViolations,
          Json.fieldViolations, Json.fieldViolations]
        cases Json.hasTrue members "name" <;> cases Json.hasTrue members "join_column" <;> exact rfl
      | _ => exact rfl

theorem failsBy_joinTable (o : Option Json) : FailsBy (Json.joinViolations o) (JoinTable.ofJson (o.getD .null)) := by
  cases o with
  | none => exact rfl
  | some t =>
    cases t with
    | obj members =>
      refine FailsBy.bind_pure (r := JoinTable.make ((Json.lookup "join_column" members).getD (.str ""))
        ((Json.lookup "inverse_join_column" members).getD (.str "")) ((Json.lookup "name" members).getD .null)) ?_
      rw [JoinTable.make, truth_getD, truth_getD, Json.joinViolations, Json.objectViolations, Json.joinColumnViolations]
      · cases Json.hasTrue members "join_column" && Json.hasTrue members "inverse_join_column" <;> exact rfl
      · nofun
    | _ => exact rfl

/-- Only the name of an attribute or an entity is checked when it is made. -/
theorem failsBy_named {α : Type} {a : α} {key field : String} :
    FailsBy (Json.fieldViolations key field members)
      (if ((Json.lookup key members).getD (.str "")).truth then .ok a else .error (.emptyField field)) := by
  rw [truth_getD, Json.fieldViolations]
  cases Json.hasTrue members key <;> exact rfl

theorem failsBy_attribute (j : Json) : FailsBy j.attributeViolations (Attribute.ofJson j) := by
  cases j with
  | obj members =>
    refine FailsBy.bind (r := CollectionTable.ofJson _) (failsBy_collectionTable _) fun collection _ => ?_
    exact FailsBy.bind (r := JoinTable.ofJson _) (failsBy_joinTable _) fun join _ => failsBy_named
  | _ => exact rfl

/-- What is gone through fails by the violations of its items. -/
theorem failsBy_items {α : Type} {ofItem : Json → List Fault} {read : Json → Except Fault α}
    (h : ∀ j, FailsBy (ofItem j) (read j)) (o : Option Json) :
    FailsBy (Json.itemViolations ofItem o) ((o.getD (.arr [])).items >>= fun items => items.mapM read) := by
  cases o with
  | none => exact rfl
  | some j =>
    cases j with
    | arr items => exact failsBy_mapM h items
    | str s =>
      have hchars := failsBy_mapM h (s.toList.map fun c => .str (String.singleton c))
      rwa [List.flatMap_map] at hchars
    | obj members =>
      have hkeys := failsBy_mapM h (members.map fun m => .str m.1)
      rwa [List.flatMap_map] at hkeys
    | _ => exact rfl

theorem failsBy_entity (j : Json) : FailsBy j.entityViolations (Entity.ofJson j) := by
  cases j with
  | obj members =>
    have hentity := (failsBy_items failsBy_attribute (Json.lookup "attributes" members)).bind (k := fun attributes =>
      Entity.make ⟨(Json.lookup "name" members).getD (.str ""), (Json.lookup "table" members).getD .null, attributes⟩)
      fun attributes _ => failsBy_named
    rwa [bind_assoc] at hentity
  | _ => exact rfl

theorem failsBy_entities (j : Json) : FailsBy j.modelViolations (readEntities j) := by
  cases j with
  | obj members => exact failsBy_items failsBy_entity (Json.lookup "entities" members)
  | _ => exact rfl

end

/-- Models are read, and nothing else is. Another value is refused by its first violation in the order of the file, which is one of a
value that cannot be used where it stands. -/
theorem parseEntities_refuses_first (path : String) (j : Json) :
    ((∃ entities, parseEntities path j = .ok entities) ↔ j.AreModels) ∧
    ∀ {f}, parseEntities path j = .error f → f.kind = .configuration ∧ ∃ first, j.modelViolations.head? = some first ∧
      first.kind.isUnusable = true ∧ f.message = "Failed to parse entity model from " ++ path ++ ": " ++ first.message := by
  have hfails := failsBy_entities j
  rw [← Json.modelViolations_eq_nil_iff, ← hfails.exists_ok_iff, parseEntities]
  cases hread : readEntities j with
  | ok entities => exact ⟨Iff.rfl, nofun⟩
  | error first =>
    rw [hread] at hfails
    have hfirst : j.modelViolations.head? = some first := hfails
    refine ⟨iff_of_false nofun nofun, ?_⟩
    rintro f ⟨⟩
    exact ⟨rfl, first, hfirst, Json.unusable_modelViolations j first (List.mem_of_head? hfirst), rfl⟩

-- an attribute comes behind its join table, and the entity behind them all
example : Json.modelViolations (.obj [("entities", .arr [.obj [("attributes", .arr [
      .obj [("name", .str "id")], .obj [("join_table", .bool false)]])]])]) =
    [.noMember .boolean "get", .emptyField "attribute name", .emptyField "entity name"] := by decide

end TableDump
