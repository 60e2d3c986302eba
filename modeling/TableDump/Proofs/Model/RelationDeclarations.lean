import TableDump.Proofs.Export.RefusedModels
import TableDump.Proofs.Model.SettledColumn
import TableDump.Proofs.Model.SurvivingModels

/-! # Declarations of relation tables

Which of several declarations decides the columns of a relation table.

* `relationsOf`: all that entities declare about relation tables, in order. The relation tables of an index are these
  declarations, set one after the other (`ends_relationTables_eq`).
* `declarationsOf`: the declarations that resolve to a table, names compared ignoring case. Its rows are exported under the
  first of them, with the columns of the last one that is spelled like the first (`exportNaming_of_declared`).
* `EntityIndex.Derives`: an index and relation tables that come from some models. An index goes through the declarations of
  a table in the order of the models, where no model that declares it took the place of another (`Derives.declarationsOf_eq`).
* The last declaration decides where the first one is spelled like it and the order is that of the models
  (`exportNaming_last_declared`); it can fail to where one of the two is missing (`exportNaming_passes_over_last`).
-/

namespace TableDump
open TableDump.Text
set_option autoImplicit false

/-! ## Keys -/

namespace Json
variable {a b : Json} {s : String}

theorem sameKey_str_iff : a.sameKey (.str s) = true ↔ a = .str s := by
  cases a with
  | float x => cases x <;> simp [sameKey, fraction?]
  | _ => simp [sameKey, fraction?]

theorem str_sameKey_iff : (str s).sameKey b = true ↔ b = .str s := by
  cases b with
  | str t => rw [sameKey, beq_iff_eq, str.injEq, eq_comm]
  | float x => cases x <;> simp [sameKey, fraction?]
  | _ => simp [sameKey, fraction?]

theorem sameKey_congr (h : a.sameKey b = true) : a.sameKey (.str s) = b.sameKey (.str s) := by
  rw [Bool.eq_iff_iff, sameKey_str_iff, sameKey_str_iff]
  constructor
  · rintro rfl
    exact str_sameKey_iff.1 h
  · rintro rfl
    exact sameKey_str_iff.1 h

/-- The value is a text, and names the table. -/
def names (table : String) : Json → Bool
  | str name => sameName name table
  | _ => false

theorem isText_of_kind (h : (a.kind == .text) = true) : a.IsText := by
  cases a with
  | str s => exact ⟨s, rfl⟩
  | _ => cases h

theorem isText_of_names {table : String} (h : a.names table = true) : a.IsText := by
  cases a with
  | str s => exact ⟨s, rfl⟩
  | _ => cases h

theorem names_congr (h : a.sameKey b = true) (table : String) : a.names table = b.names table := by
  cases a with
  | str s => rw [str_sameKey_iff.1 h]
  | _ =>
    cases b with
    | str s => cases sameKey_str_iff.1 h
    | _ => rfl

end Json

/-! ## Setting columns -/

namespace RelationTables

/-- Sets the columns of tables, one after the other. -/
def setAll (tables declared : RelationTables) : RelationTables := declared.foldl (fun tables d => tables.set d.1 d.2) tables

theorem setAll_concat (tables declared : RelationTables) (d : Json × RelationColumns) :
    tables.setAll (declared ++ [d]) = (tables.setAll declared).set d.1 d.2 :=
  List.foldl_concat _ _ _ _

theorem find?_names_set (table : String) (name : Json) (columns : RelationColumns) (tables : RelationTables) :
    ((tables.set name columns).map Prod.fst).find? (Json.names table) =
      ((tables.map Prod.fst).find? (Json.names table)).or ([name].find? (Json.names table)) := by
  induction tables with
  | nil => rfl
  | cons entry rest ih =>
    obtain ⟨key, old⟩ := entry
    rw [RelationTables.set]
    split
    · next hkey =>
      rw [List.map_cons, List.map_cons, List.find?_cons, List.find?_singleton, ← Json.names_congr hkey table]
      cases key.names table <;> simp
    · rw [List.map_cons, List.map_cons, List.find?_cons, List.find?_cons, ih]
      cases key.names table <;> simp

/-- A table keeps the spelling of its first declaration. -/
theorem find?_names_setAll (table : String) (declared : RelationTables) :
    ((setAll [] declared).map Prod.fst).find? (Json.names table) = (declared.map Prod.fst).find? (Json.names table) := by
  induction declared using List.reverseRecOn with
  | nil => rfl
  | append_singleton declared d ih => rw [setAll_concat, find?_names_set, ih, List.map_append, List.find?_append, List.map_singleton]

theorem get?_set (name : String) (key : Json) (columns : RelationColumns) (tables : RelationTables) :
    (tables.set key columns).get? (.str name) = if key.sameKey (.str name) then .ok (some columns) else tables.get? (.str name) := by
  simp only [get?, Json.checkKey, Except.map]
  induction tables with
  | nil => cases hkey : key.sameKey (.str name) <;> simp [RelationTables.set, hkey]
  | cons entry rest ih =>
    obtain ⟨other, old⟩ := entry
    rw [RelationTables.set]
    split
    · next hother =>
      rw [List.find?_cons, List.find?_cons, Json.sameKey_congr hother]
      cases key.sameKey (.str name) <;> simp
    · next hother =>
      rw [List.find?_cons, List.find?_cons]
      cases hname : other.sameKey (.str name) with
      | false => exact ih
      | true =>
        have hkey : key.sameKey (.str name) = false := by
          refine Bool.eq_false_iff.2 fun hkey => hother ?_
          rw [Json.sameKey_str_iff.1 hname, Json.sameKey_str_iff.1 hkey]
          exact Json.sameKey_str_iff.2 rfl
        simp [hkey]

/-- The last columns that are declared under exactly a name count. -/
theorem get?_setAll (name : String) (declared : RelationTables) : (setAll [] declared).get? (.str name) =
    .ok ((declared.filter fun d => d.1.sameKey (.str name)).getLast?.map Prod.snd) := by
  induction declared using List.reverseRecOn with
  | nil => rfl
  | append_singleton declared d ih =>
    rw [setAll_concat, get?_set, ih, List.filter_append, List.filter_singleton]
    cases d.1.sameKey (.str name) <;> simp

theorem kind_of_checkOrder {entry : Json × RelationColumns} {rest : RelationTables} (h : checkOrder (entry :: rest) = .ok ()) :
    ∀ other ∈ rest, (other.1.kind == .text) = (entry.1.kind == .text) := by
  induction rest generalizing entry with
  | nil => exact List.forall_mem_nil _
  | cons next rest ih =>
    rw [checkOrder] at h
    split at h
    · next hkind =>
      have hkind := beq_iff_eq.1 hkind
      exact List.forall_mem_cons.2 ⟨hkind.symm, fun other hother => (ih h other hother).trans hkind.symm⟩
    · cases h

/-- Names that can be put in order beside a text are texts. -/
theorem isText_of_checkOrder {tables : RelationTables} (h : tables.checkOrder = .ok ()) {key : Json} (hkey : key ∈ tables.map Prod.fst)
    (htext : key.IsText) : ∀ entry ∈ tables, entry.1.IsText := by
  obtain ⟨name, rfl⟩ := htext
  cases tables with
  | nil => exact List.forall_mem_nil _
  | cons entry rest =>
    have hkinds := kind_of_checkOrder h
    have hentry : (entry.1.kind == .text) = true := by
      rcases List.mem_cons.1 hkey with hkey | hkey
      · rw [← hkey]
        rfl
      · obtain ⟨other, hother, hname⟩ := List.mem_map.1 hkey
        rw [← hkinds other hother, hname]
        rfl
    refine List.forall_mem_cons.2 ⟨Json.isText_of_kind hentry, fun other hother => Json.isText_of_kind ?_⟩
    rw [hkinds other hother, hentry]

theorem find?_of_names {tables : RelationTables} (htexts : ∀ entry ∈ tables, entry.1.IsText) {table name : String}
    (h : (tables.map Prod.fst).find? (Json.names table) = some (.str name)) : tables.find? table = .ok (some name) := by
  induction tables with
  | nil => cases h
  | cons entry rest ih =>
    obtain ⟨⟨text, htext⟩, hrest⟩ := List.forall_mem_cons.1 htexts
    obtain ⟨key, columns⟩ := entry
    obtain rfl : key = .str text := htext
    rw [List.map_cons, List.find?_cons] at h
    simp only [find?, Json.textFor, bind, Except.bind]
    cases hsame : sameName text table with
    | true =>
      simp only [Json.names, hsame] at h
      cases h
      rfl
    | false =>
      simp only [Json.names, hsame] at h
      exact ih hrest h

end RelationTables

/-! ## Declarations -/

/-- A join table is declared where it has a name. -/
def JoinTable.relations (e : Entity) (a : Attribute) (j : JoinTable) : RelationTables :=
  match EntityIndex.joinName? e a j with
  | .ok (some name) => [(.str name, ⟨j.joinColumn, j.inverseJoinColumn⟩)]
  | _ => []

def Attribute.relations (e : Entity) (a : Attribute) : RelationTables :=
  if a.basic.truth then []
  else (a.collection.toList.map fun c => (c.name, ⟨a.columnName, c.joinColumn⟩)) ++
    a.join.toList.flatMap (JoinTable.relations e a)

def relationsOf (entities : List Entity) : RelationTables :=
  entities.flatMap fun e => e.attributes.flatMap (Attribute.relations e)

def declarationsOf (table : String) (entities : List Entity) : RelationTables :=
  (relationsOf entities).filter fun d => d.1.names table

namespace EntityIndex

theorem ends_addCollection_eq (a : Attribute) (tables : RelationTables) : Run.Ends (fun _ => True)
    (fun tables' => tables' = tables.setAll (a.collection.toList.map fun c => (c.name, ⟨a.columnName, c.joinColumn⟩)))
    (Run.lift (addCollection a tables)) := by
  refine Run.ends_lift (fun _ _ => trivial) fun tables' h => ?_
  rw [addCollection] at h
  split at h
  · next hnone =>
    rw [hnone, ← Except.ok.inj h]
    rfl
  · next c hc =>
    obtain ⟨-, -, rfl⟩ := outcome_map_eq_ok_iff.1 h
    rw [hc]
    rfl

theorem ends_addJoin_eq (e : Entity) (a : Attribute) (tables : RelationTables) : Run.Ends (fun _ => True)
    (fun tables' => tables' = tables.setAll (a.join.toList.flatMap (JoinTable.relations e a))) (addJoin e a tables) := by
  unfold addJoin
  cases a.join with
  | none => exact Run.ends_pure rfl
  | some j =>
    have hjoin : (some j).toList.flatMap (JoinTable.relations e a) = j.relations e a := List.append_nil _
    rw [hjoin, JoinTable.relations]
    simp only
    cases joinName? e a j with
    | error f => exact Run.ends_throw trivial
    | ok name =>
      rw [Run.lift_ok_bind]
      cases name with
      | none => exact (Run.ends_record _).bind fun _ _ => Run.ends_pure rfl
      | some name => exact Run.ends_pure rfl

theorem ends_addAttribute_eq (e : Entity) (tables : RelationTables) (a : Attribute) :
    Run.Ends (fun _ => True) (fun tables' => tables' = tables.setAll (a.relations e)) (addAttribute e tables a) := by
  unfold addAttribute Attribute.relations
  split
  · exact Run.ends_pure rfl
  · refine (ends_addCollection_eq a tables).bind fun tables' htables => ?_
    rw [RelationTables.setAll, List.foldl_append, htables]
    exact ends_addJoin_eq e a _

theorem ends_relationTables_eq (index : EntityIndex) : Run.Ends (fun _ => True)
    (fun tables => tables = RelationTables.setAll [] (relationsOf index.entities) ∧ tables.checkOrder = .ok ())
    index.relationTables := by
  have hattributes : ∀ (tables : RelationTables) (e : Entity), Run.Ends (fun _ => True)
      (fun tables' => tables' = tables.setAll (e.attributes.flatMap (Attribute.relations e)))
      (e.attributes.foldlM (addAttribute e) tables) := by
    intro tables e
    refine (Run.ends_foldlM_foldl (fun b a => ends_addAttribute_eq e b a) e.attributes tables).mono (fun _ _ => trivial) ?_
    rintro _ rfl
    rw [RelationTables.setAll, List.foldl_flatMap]
    rfl
  refine (Run.ends_foldlM_foldl hattributes index.entities []).bind fun tables htables => ?_
  refine (Run.ends_lift (G := fun _ => tables.checkOrder = .ok ()) (fun _ _ => trivial) fun _ h => h).bind fun _ horder => ?_
  refine Run.ends_pure ⟨?_, horder⟩
  rw [htables, RelationTables.setAll, relationsOf, List.foldl_flatMap]
  rfl

end EntityIndex

/-! ## Exported names -/

theorem exportedName_of_find? {index : EntityIndex} {relations : RelationTables} {table name : String}
    (hunmapped : index.find? table = none) (h : relations.find? table = .ok (some name)) :
    index.exportedName relations table = .ok (.str name) := by
  have hname : (if name.isEmpty then table else name) = name := by
    split
    · next hempty =>
      have htable : table.isEmpty = true := isEmpty_congr (RelationTables.sameName_of_find? h) ▸ hempty
      rw [String.isEmpty_iff.1 hempty, String.isEmpty_iff.1 htable]
    · rfl
  rw [EntityIndex.exportedName, hunmapped]
  simp only [h, bind, Except.bind, hname]
  rfl

/-- A table is exported under its first declaration, with the columns of the last one that is spelled like it. -/
theorem exportNaming_of_declared {index : EntityIndex} {relations : RelationTables}
    (hrelations : relations = RelationTables.setAll [] (relationsOf index.entities)) (horder : relations.checkOrder = .ok ())
    {table : String} (hunmapped : index.find? table = none) {first : Json × RelationColumns}
    (hfirst : (declarationsOf table index.entities).head? = some first) : exportNaming index relations table =
      .ok (first.1, ((declarationsOf table index.entities).filter fun d => d.1.sameKey first.1).getLast?.map Prod.snd) := by
  obtain ⟨key, columns⟩ := first
  have hmem := (List.mem_filter.1 (List.mem_of_head? hfirst)).2
  obtain ⟨name, rfl⟩ := Json.isText_of_names hmem
  rw [declarationsOf, List.head?_filter] at hfirst
  have hnames : (relations.map Prod.fst).find? (Json.names table) = some (.str name) := by
    rw [hrelations, RelationTables.find?_names_setAll, List.find?_map]
    exact congrArg (Option.map Prod.fst) hfirst
  have htexts := RelationTables.isText_of_checkOrder horder (List.mem_of_find?_eq_some hnames) ⟨name, rfl⟩
  have hexported := exportedName_of_find? hunmapped (RelationTables.find?_of_names htexts hnames)
  -- columns are looked up by the exact name, and all declarations of that name are some of the table
  have hspelled : (declarationsOf table index.entities).filter (fun d => d.1.sameKey (.str name)) =
      (relationsOf index.entities).filter fun d => d.1.sameKey (.str name) := by
    rw [declarationsOf, List.filter_filter]
    refine List.filter_congr fun d _ => ?_
    cases hd : d.1.sameKey (.str name) with
    | false => rfl
    | true => rw [Json.sameKey_str_iff.1 hd, hmem, Bool.and_self]
  rw [exportNaming, hexported]
  simp only [bind, Except.bind, hrelations, RelationTables.get?_setAll, hspelled]
  rfl

/-! ## The last declaration -/

theorem declarationsOf_filter (table : String) (entities : List Entity) :
    declarationsOf table (entities.filter fun e => !(declarationsOf table [e]).isEmpty) = declarationsOf table entities := by
  induction entities with
  | nil => rfl
  | cons e rest ih =>
    have hcons : ∀ others, declarationsOf table (e :: others) = declarationsOf table [e] ++ declarationsOf table others := by
      intro others
      simp [declarationsOf, relationsOf]
    rw [List.filter_cons, hcons rest]
    cases hnone : (declarationsOf table [e]).isEmpty with
    | true =>
      rw [List.isEmpty_iff.1 hnone]
      exact ih
    | false => exact (hcons _).trans (congrArg (declarationsOf table [e] ++ ·) ih)

namespace EntityIndex

/-- The index and the relation tables that come from some models. -/
def Derives (s : Session) (models : List Entity) (index : EntityIndex) (relations : RelationTables) : Prop :=
  ∃ t u, (ofEntities models).result s = (.ok index, t) ∧ index.relationTables.result t = (.ok relations, u)

variable {models : List Entity} {index : EntityIndex} {relations : RelationTables} {s : Session} {table : String}

/-- An index goes through the declarations of a table in order, where no model that declares it takes the place of another. -/
theorem Derives.declarationsOf_eq (h : Derives s models index relations)
    (hplaces : keepPlaces (fun e => !(declarationsOf table [e]).isEmpty) [] models = true) :
    declarationsOf table index.entities = declarationsOf table (surviving models) := by
  obtain ⟨t, u, hindex, -⟩ := h
  have hfilter := (ends_ofEntities_filter hplaces).value hindex
  rw [← declarationsOf_filter table index.entities, hfilter, declarationsOf_filter]

theorem exists_derives (htables : NamesTables models) (hrelations : NamesRelations models) (s : Session) :
    ∃ index relations, Derives s models index relations := by
  rcases hindex : (ofEntities models).result s with ⟨f | index, t⟩
  · exact absurd htables ((ends_ofEntities_names models).fault hindex)
  · have hends := hrelations.ends_relationTables ((ends_ofEntities models).value hindex) (Q := fun _ => False)
    rcases hderived : index.relationTables.result t with ⟨f | relations, u⟩
    · exact (hends.fault hderived).elim
    · exact ⟨index, relations, t, u, hindex, hderived⟩

theorem Derives.exportNaming_eq (h : Derives s models index relations) (hunmapped : index.find? table = none)
    {first last : Json × RelationColumns} (hfirst : (declarationsOf table index.entities).head? = some first)
    (hlast : (declarationsOf table index.entities).getLast? = some last) (hspelled : first.1 = last.1) :
    exportNaming index relations table = .ok (last.1, some last.2) := by
  obtain ⟨t, u, -, hderived⟩ := h
  obtain ⟨hrelations, horder⟩ := (ends_relationTables_eq index).value hderived
  obtain ⟨others, hothers⟩ := List.getLast?_eq_some_iff.1 hlast
  obtain ⟨name, hname⟩ := Json.isText_of_names (List.mem_filter.1 (List.mem_of_getLast? hlast)).2
  have hlast' : ((declarationsOf table index.entities).filter fun d => d.1.sameKey last.1).getLast? = some last := by
    have hself : last.1.sameKey last.1 = true := hname ▸ Json.sameKey_str_iff.2 rfl
    rw [hothers, List.filter_append, List.filter_singleton, hself]
    exact List.getLast?_concat
  rw [exportNaming_of_declared hrelations horder hunmapped hfirst, hspelled, hlast']
  rfl

/-- The last declaration decides, where the first one is spelled like it and the index does not change their order. -/
theorem exportNaming_last_declared (models : List Entity) (s : Session) :
    (NamesTables models → NamesRelations models → ∃ index relations, Derives s models index relations) ∧
      ∀ index relations, Derives s models index relations → index.entities.Perm (surviving models) ∧
        ∀ table first last, index.find? table = none → (declarationsOf table (surviving models)).head? = some first →
          (declarationsOf table (surviving models)).getLast? = some last → first.1 = last.1 →
          declarationsOf table index.entities = declarationsOf table (surviving models) →
          exportNaming index relations table = .ok (last.1, some last.2) := by
  refine ⟨fun htables hrelations => exists_derives htables hrelations s, fun index relations h => ⟨?_, ?_⟩⟩
  · obtain ⟨t, u, hindex, -⟩ := h
    exact (ends_ofEntities_perm models).value hindex
  · intro table first last hunmapped hfirst hlast hspelled horder
    rw [← horder] at hfirst hlast
    exact h.exportNaming_eq hunmapped hfirst hlast hspelled

/-- An entity that declares a join table. -/
def joining (name table link left right : String) : Entity where
  name := .str name
  table := .str table
  attributes := [{ name := .str "links", basic := .bool false, join := some ⟨.str left, .str right, .str link⟩ }]

theorem relates_joining {name table link left right : String} : ∀ a ∈ (joining name table link left right).attributes,
    a.basic.truth = false → a.Relates (fun key => (key.kind == .text) = true) (fun _ => True) := by
  refine List.forall_mem_singleton.2 fun _ => ⟨nofun, ?_, ?_⟩
  · rintro _ ⟨⟩ _
    exact ⟨link, rfl⟩
  · rintro _ ⟨⟩
    exact ⟨fun _ => rfl, trivial⟩

/-- One of three declarations is spelled in capitals, and one model takes the place of another that declares nothing. -/
def agreeingModels : List Entity :=
  [{ name := .str "Legacy", table := .str "notes" }, joining "User" "users" "links" "user_id" "role_id",
    joining "Group" "groups" "LINKS" "GROUP_ID" "ROLE_ID", { name := .str "Note", table := .str "NOTES" },
    joining "Role" "roles" "links" "role_id" "user_id"]

theorem exportNaming_last_declared_agreeing : ∃ index relations, NamesTables agreeingModels ∧ NamesRelations agreeingModels ∧
    Derives {} agreeingModels index relations ∧ index.find? "Links" = none ∧ (declarationsOf "Links" agreeingModels).length = 3 ∧
    (declarationsOf "Links" (surviving agreeingModels)).head? = some (.str "links", ⟨.str "user_id", .str "role_id"⟩) ∧
    (declarationsOf "Links" (surviving agreeingModels)).getLast? = some (.str "links", ⟨.str "role_id", .str "user_id"⟩) ∧
    declarationsOf "Links" index.entities = declarationsOf "Links" (surviving agreeingModels) ∧
    exportNaming index relations "Links" = .ok (.str "links", some ⟨.str "role_id", .str "user_id"⟩) := by
  have htables : NamesTables agreeingModels := by
    simp only [NamesTables, agreeingModels, List.forall_mem_cons, joining]
    exact ⟨fun _ => ⟨_, rfl⟩, fun _ => ⟨_, rfl⟩, fun _ => ⟨_, rfl⟩, fun _ => ⟨_, rfl⟩, fun _ => ⟨_, rfl⟩, List.forall_mem_nil _⟩
  have hrelations : NamesRelations agreeingModels := by
    refine ⟨true, ?_⟩
    simp only [agreeingModels, List.forall_mem_cons]
    exact ⟨nofun, fun _ => relates_joining, fun _ => relates_joining, nofun, fun _ => relates_joining, List.forall_mem_nil _⟩
  obtain ⟨hexists, hall⟩ := exportNaming_last_declared agreeingModels {}
  obtain ⟨index, relations, hderives⟩ := hexists htables hrelations
  have hunmapped : index.find? "Links" = none := by
    obtain ⟨t, u, hindex, -⟩ := hderives
    cases hindex
    rfl
  have horder : declarationsOf "Links" index.entities = declarationsOf "Links" (surviving agreeingModels) :=
    hderives.declarationsOf_eq rfl
  refine ⟨index, relations, htables, hrelations, hderives, hunmapped, rfl, rfl, rfl, horder, ?_⟩
  exact (hall index relations hderives).2 "Links" _ _ hunmapped rfl rfl rfl horder

/-- Two spellings of one table. -/
def respelledModels : List Entity :=
  [joining "User" "users" "links" "user_id" "role_id", joining "Group" "groups" "LINKS" "GROUP_ID" "USER_ID"]

/-- The last model takes the place of the first one. -/
def replacingModels : List Entity :=
  [{ name := .str "Legacy", table := .str "accounts" }, joining "Group" "groups" "links" "group_id" "role_id",
    joining "Account" "ACCOUNTS" "links" "Account_Id" "Role_Id"]

theorem exportNaming_passes_over_last :
    (∃ index relations, Derives {} respelledModels index relations ∧ index.find? "links" = none ∧
      (declarationsOf "links" (surviving respelledModels)).getLast? = some (.str "LINKS", ⟨.str "GROUP_ID", .str "USER_ID"⟩) ∧
      exportNaming index relations "links" = .ok (.str "links", some ⟨.str "user_id", .str "role_id"⟩)) ∧
    ∃ index relations, Derives {} replacingModels index relations ∧ index.find? "links" = none ∧
      (declarationsOf "links" (surviving replacingModels)).getLast? = some (.str "links", ⟨.str "Account_Id", .str "Role_Id"⟩) ∧
      exportNaming index relations "links" = .ok (.str "links", some ⟨.str "group_id", .str "role_id"⟩) :=
  ⟨⟨_, _, ⟨_, _, rfl, rfl⟩, rfl, rfl, rfl⟩, _, _, ⟨_, _, rfl, rfl⟩, rfl, rfl, rfl⟩

end EntityIndex
end TableDump
