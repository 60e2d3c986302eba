import TableDump.Config.Manager
import TableDump.Proofs.RunBounds

/-! # Loading of entity models

What the index and the relation tables of a domain take from its models.

* `Event.IsNotice`: records that tell no error. Nothing else comes from indexing entities and deriving relation
  tables.
* `EntityIndex.Of`: every entry of an index is an entity of the models, under the text of its table
  (`ends_ofEntities`).
* `Attribute.Relates`: the names and columns of the relation tables that an attribute stands for. Where names can be
  keys and be put in order, every table can be derived, and holds them (`ends_relationTables`).
* `Domain.LoadsApart`: models are loaded apart from tables and document.
-/

namespace TableDump
set_option autoImplicit false

/-! ## Notices -/

def Event.IsNotice (e : Event) : Prop := ∃ record : Record, e = .logged record ∧ record.level ≠ .error

theorem Event.IsNotice.isRecord {e : Event} (h : e.IsNotice) : e.IsRecord := h.imp fun _ hrecord => hrecord.1

theorem Event.IsRecord.table?_eq {e : Event} (h : e.IsRecord) : e.table? = none := by
  obtain ⟨record, rfl⟩ := h
  rfl

theorem isNotice_warning (text : String) : Event.IsNotice (.logged ⟨.warning, text⟩) := ⟨_, rfl, by simp⟩

theorem isNotice_info (text : String) : Event.IsNotice (.logged ⟨.info, text⟩) := ⟨_, rfl, by simp⟩

namespace EntityIndex

theorem confined_insert (index : EntityIndex) (e : Entity) : Run.Confined Event.IsNotice (index.insert e) := by
  unfold insert
  split
  · refine (Run.confined_lift _).bind fun table => ?_
    simp only
    split
    · exact (Run.confined_log (isNotice_warning _)).bind fun _ => Run.confined_pure _
    · exact Run.confined_pure _
  · exact Run.confined_pure _

theorem confined_ofEntities (models : List Entity) : Run.Confined Event.IsNotice (ofEntities models) :=
  Run.confined_foldlM confined_insert models {}

theorem confined_addAttribute (e : Entity) (tables : RelationTables) (a : Attribute) :
    Run.Confined Event.IsNotice (addAttribute e tables a) := by
  unfold addAttribute
  split
  · exact Run.confined_pure _
  · refine (Run.confined_lift _).bind fun tables => ?_
    unfold addJoin
    split
    · exact Run.confined_pure _
    · refine (Run.confined_lift _).bind fun name => ?_
      cases name with
      | some name => exact Run.confined_lift _
      | none => exact (Run.confined_log (isNotice_warning _)).bind fun _ => Run.confined_pure _

theorem confined_relationTables (index : EntityIndex) : Run.Confined Event.IsNotice index.relationTables := by
  refine (Run.confined_foldlM (fun tables e => ?_) _ _).bind fun tables => ?_
  · exact Run.confined_foldlM (confined_addAttribute e) e.attributes tables
  · exact (Run.confined_lift _).bind fun _ => Run.confined_pure _

/-! ## Entries -/

def Of (models : List Entity) (index : EntityIndex) : Prop :=
  ∀ entry ∈ index.entries, entry.entity ∈ models ∧ entry.entity.table.truth = true ∧ entry.entity.table = .str entry.table

theorem mem_putEntry {entry other : IndexEntry} {entries : List IndexEntry} (h : other ∈ putEntry entry entries) :
    other = entry ∨ other ∈ entries := by
  induction entries with
  | nil => exact .inl (List.mem_singleton.1 h)
  | cons old rest ih =>
    rw [putEntry] at h
    split at h
    · exact (List.mem_cons.1 h).imp_right (List.mem_cons_of_mem old)
    · rcases List.mem_cons.1 h with rfl | h
      · exact .inr List.mem_cons_self
      · exact (ih h).imp_right (List.mem_cons_of_mem old)

theorem ends_insert {models : List Entity} {index : EntityIndex} (hindex : index.Of models) {e : Entity} (he : e ∈ models) :
    Run.Ends (fun f => f.kind = .member) (fun index => index.Of models) (index.insert e) := by
  unfold insert
  split
  · next htruth =>
    cases htable : e.table with
    | str table =>
      have hput : Of models ⟨putEntry ⟨table, e⟩ index.entries⟩ := by
        intro entry hentry
        rcases mem_putEntry hentry with rfl | hentry
        · exact ⟨he, htruth, htable⟩
        · exact hindex entry hentry
      rw [Json.textFor, Run.lift_ok_bind]
      simp only
      split
      · exact (Run.ends_record _).bind fun _ _ => Run.ends_pure hput
      · exact Run.ends_pure hput
    | _ => exact Run.ends_throw rfl
  · exact Run.ends_pure hindex

/-- Only a table whose name is no text keeps entities from being indexed. -/
theorem ends_ofEntities (models : List Entity) :
    Run.Ends (fun f => f.kind = .member) (fun index => index.Of models) (ofEntities models) :=
  Run.ends_foldlM (fun _ he _ hindex => ends_insert hindex he) (by simp [Of])

theorem Of.mem {models : List Entity} {index : EntityIndex} (h : index.Of models) {e : Entity} (he : e ∈ index.entities) :
    e ∈ models ∧ e.table.truth = true := by
  obtain ⟨entry, hentry, rfl⟩ := List.mem_map.1 he
  exact ⟨(h entry hentry).1, (h entry hentry).2.1⟩

end EntityIndex

/-! ## Relation tables -/

def Json.IsText (j : Json) : Prop := ∃ s, j = .str s

section
variable {K : Json → Prop} {C : RelationColumns → Prop}

structure Attribute.Relates (K : Json → Prop) (C : RelationColumns → Prop) (a : Attribute) : Prop where
  collection : ∀ c, a.collection = some c → c.name.checkKey = .ok () ∧ K c.name ∧ C ⟨a.columnName, c.joinColumn⟩
  joinName : ∀ j, a.join = some j → j.name.truth = true → j.name.IsText
  join : ∀ j, a.join = some j → (∀ name, K (.str name)) ∧ C ⟨j.joinColumn, j.inverseJoinColumn⟩

/-- Names and columns of relation tables. -/
def RelationTables.Hold (K : Json → Prop) (C : RelationColumns → Prop) (tables : RelationTables) : Prop :=
  ∀ entry ∈ tables, K entry.1 ∧ C entry.2

namespace RelationTables

theorem Hold.set {tables : RelationTables} (h : tables.Hold K C) {name : Json} {columns : RelationColumns} (hname : K name)
    (hcolumns : C columns) : (tables.set name columns).Hold K C := by
  induction tables with
  | nil => exact List.forall_mem_singleton.2 ⟨hname, hcolumns⟩
  | cons entry rest ih =>
    obtain ⟨hentry, hrest⟩ := List.forall_mem_cons.1 h
    rw [RelationTables.set]
    split
    · exact List.forall_mem_cons.2 ⟨⟨hentry.1, hcolumns⟩, hrest⟩
    · exact List.forall_mem_cons.2 ⟨hentry, ih hrest⟩

theorem Hold.put {tables : RelationTables} (h : tables.Hold K C) {name : Json} {columns : RelationColumns}
    (hkey : name.checkKey = .ok ()) (hname : K name) (hcolumns : C columns) :
    ∃ tables', tables.put name columns = .ok tables' ∧ tables'.Hold K C :=
  ⟨_, by rw [RelationTables.put, hkey]; rfl, h.set hname hcolumns⟩

theorem checkOrder_eq_ok {tables : RelationTables} (h : tables.Hold K C)
    (hK : ∀ a b, K a → K b → (a.kind == .text) = (b.kind == .text)) : tables.checkOrder = .ok () := by
  induction tables with
  | nil => rfl
  | cons a rest ih =>
    obtain ⟨ha, hrest⟩ := List.forall_mem_cons.1 h
    cases rest with
    | nil => rfl
    | cons b rest =>
      have hkind := hK a.1 b.1 ha.1 (List.forall_mem_cons.1 hrest).1.1
      rw [checkOrder, if_pos (beq_iff_eq.2 hkind)]
      exact ih hrest

end RelationTables

namespace EntityIndex
variable {Q : Fault → Prop} {tables : RelationTables}

theorem joinName?_eq_ok {e : Entity} {a : Attribute} {j : JoinTable} (h : j.name.truth = true → j.name.IsText) :
    ∃ name, joinName? e a j = .ok name := by
  have hdeclared : ∃ declared, declaredJoinName j = .ok declared := by
    rw [declaredJoinName]
    split
    · next htruth =>
      obtain ⟨name, hname⟩ := h htruth
      exact ⟨_, by rw [hname]; rfl⟩
    · exact ⟨"", rfl⟩
  obtain ⟨declared, hdeclared⟩ := hdeclared
  exact ⟨_, by rw [joinName?, hdeclared]; rfl⟩

theorem ends_addJoin {a : Attribute} (ha : a.Relates K C) (h : tables.Hold K C) (e : Entity) :
    Run.Ends Q (fun tables => tables.Hold K C) (addJoin e a tables) := by
  unfold addJoin
  cases hjoin : a.join with
  | none => exact Run.ends_pure h
  | some j =>
    obtain ⟨name, hname⟩ := joinName?_eq_ok (e := e) (a := a) (ha.joinName j hjoin)
    simp only
    rw [hname, Run.lift_ok_bind]
    cases name with
    | none => exact (Run.ends_record _).bind fun _ _ => Run.ends_pure h
    | some name =>
      have hkey : (Json.str name).checkKey = .ok () := rfl
      obtain ⟨tables', hput, hheld⟩ := h.put hkey ((ha.join j hjoin).1 name) (ha.join j hjoin).2
      simp only
      rw [hput]
      exact Run.ends_pure hheld

theorem ends_addAttribute {e : Entity} {a : Attribute} (ha : a.basic.truth = false → a.Relates K C) (h : tables.Hold K C) :
    Run.Ends Q (fun tables => tables.Hold K C) (addAttribute e tables a) := by
  unfold addAttribute
  split
  · exact Run.ends_pure h
  · next hbasic =>
    have ha := ha (Bool.eq_false_iff.2 hbasic)
    have hcollected : ∃ tables', addCollection a tables = .ok tables' ∧ tables'.Hold K C := by
      unfold addCollection
      split
      · exact ⟨tables, rfl, h⟩
      · next c hc =>
        obtain ⟨hkey, hname, hcolumns⟩ := ha.collection c hc
        exact h.put hkey hname hcolumns
    obtain ⟨tables', hadded, hheld⟩ := hcollected
    rw [hadded, Run.lift_ok_bind]
    exact ends_addJoin ha hheld e

/-- Nothing keeps tables from being derived whose names can be keys and be put in order. -/
theorem ends_relationTables {index : EntityIndex}
    (h : ∀ e ∈ index.entities, ∀ a ∈ e.attributes, a.basic.truth = false → a.Relates K C)
    (hK : ∀ a b, K a → K b → (a.kind == .text) = (b.kind == .text)) :
    Run.Ends Q (fun tables => tables.Hold K C) index.relationTables := by
  have hnone : RelationTables.Hold K C [] := List.forall_mem_nil _
  refine (Run.ends_foldlM (fun e he tables htables => ?_) hnone).bind fun tables htables => ?_
  · exact Run.ends_foldlM (fun a ha _ hheld => ends_addAttribute (h e he a ha) hheld) htables
  · rw [RelationTables.checkOrder_eq_ok htables hK, Run.lift_ok_bind]
    exact Run.ends_pure htables

end EntityIndex
end

/-! ## Domains -/

namespace Domain

structure LoadsApart (d : Domain) : Prop where
  leaves : ∀ load, d.models = some load → Run.Leaves (fun e => e.table? = none) load
  silent : ∀ load, d.models = some load → Run.Silent load

variable {d : Domain}

theorem loadsApart_of_confined (h : ∀ load, d.models = some load → Run.Confined Event.IsNotice load) : d.LoadsApart where
  leaves load hload := (h load hload).leaves.mono fun _ he => he.isRecord.table?_eq
  silent load hload := (h load hload).silent

theorem LoadsApart.leaves_index (h : d.LoadsApart) : Run.Leaves (fun e => e.table? = none) d.index := by
  unfold index
  split
  · next load hload =>
    refine (h.leaves load hload).bind fun models _ _ _ => ?_
    exact (EntityIndex.confined_ofEntities models).leaves.mono fun _ he => he.isRecord.table?_eq
  · exact (Run.confined_pure _).leaves

theorem LoadsApart.silent_index (h : d.LoadsApart) : Run.Silent d.index := by
  unfold index
  split
  · next load hload => exact (h.silent load hload).bind fun models => (EntityIndex.confined_ofEntities models).silent
  · exact (Run.confined_pure _ : Run.Confined (fun _ => True) _).silent

/-- Faults of models are told in records only. -/
theorem confined_modelsFault (name : String) (f : Fault) : Run.Confined Event.IsRecord (modelsFault name f) := by
  have hlog : ∀ level text, Run.Confined Event.IsRecord (Run.log level text) := fun _ _ => Run.confined_log ⟨_, rfl⟩
  unfold modelsFault
  split
  · exact (hlog _ _).bind fun _ => Run.confined_throw _
  · split
    · exact (hlog _ _).bind fun _ => Run.confined_throw _
    · exact Run.confined_throw _

theorem LoadsApart.leaves_loadEntities (h : d.LoadsApart) (name : String) :
    Run.Leaves (fun e => e.table? = none) (d.loadEntities name) := by
  have hfault : ∀ f, Run.Leaves (fun e => e.table? = none) (modelsFault name f) := fun f =>
    (confined_modelsFault name f).leaves.mono fun _ he => he.table?_eq
  refine (h.leaves_index.recover hfault).bind fun index _ _ _ => ?_
  refine Run.Leaves.bind ?_ fun _ _ _ _ => (Run.confined_pure _).leaves
  exact index.confined_relationTables.leaves.mono fun _ he => he.isRecord.table?_eq

theorem confined_index (hmodels : ∀ load, d.models = some load → Run.Confined Event.IsNotice load) :
    Run.Confined Event.IsNotice d.index := by
  unfold index
  split
  · next load hload => exact (hmodels load hload).bind EntityIndex.confined_ofEntities
  · exact Run.confined_pure _

/-- Where models are loaded with notices only, nothing but records comes of putting them into an index. -/
theorem confined_loadEntities (hmodels : ∀ load, d.models = some load → Run.Confined Event.IsNotice load) (name : String) :
    Run.Confined Event.IsRecord (d.loadEntities name) := by
  have hindex := (confined_index hmodels).mono fun _ he => he.isRecord
  refine (hindex.recover (confined_modelsFault name)).bind fun index => ?_
  exact (index.confined_relationTables.mono fun _ he => he.isRecord).bind fun _ => Run.confined_pure _

theorem LoadsApart.silent_loadEntities (h : d.LoadsApart) (name : String) : Run.Silent (d.loadEntities name) := by
  refine (h.silent_index.recover fun f => (confined_modelsFault name f).silent).bind fun index => ?_
  exact (index.confined_relationTables.bind fun _ => Run.confined_pure _).silent

end Domain

namespace Manager

variable (m : Manager) (libraries : Libraries) (files : FileTree)

theorem confined_loadEntities (name : Option String) : Run.Confined Event.IsNotice (m.loadEntities libraries files name) :=
  (Run.confined_lift _).bind fun _ => (Run.confined_log (isNotice_info _)).bind fun _ => Run.confined_pure _

/-- The models of a configured domain come from a file. -/
theorem confined_models (engine : Engine) (modelFile : Option String) (load : Run (List Entity))
    (h : (m.domain libraries files engine modelFile).models = some load) : Run.Confined Event.IsNotice load := by
  obtain ⟨name, -, rfl⟩ := Option.map_eq_some_iff.1 h
  exact m.confined_loadEntities libraries files (some name)

theorem loadsApart_domain (engine : Engine) (modelFile : Option String) :
    (m.domain libraries files engine modelFile).LoadsApart :=
  Domain.loadsApart_of_confined (m.confined_models libraries files engine modelFile)

end Manager
end TableDump
