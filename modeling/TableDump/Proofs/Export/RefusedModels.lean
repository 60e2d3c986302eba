import TableDump.Proofs.Export.ExportRun

/-! # Exports and their entity models

What an export makes of a JSON value that stands for the entity models of its domain.

* `LoadsJson`: models that are read from a JSON value; so are those of a file (`loadsJson_loadEntities`).
* `NamesRelations`: the names of relation tables that can be told apart and put in order. `Indexable`: an answer with models
  that can be put into an index.
* `Domain.Refused`: loading ends in a configuration fault, told in one record of an error. It ends so, or the models are
  loaded, where the names of relation tables are sound (`loads_or_refused`); they are loaded when they are indexable
  (`ends_loadEntities`).
* `Exporter.serve_passes_or_refuses`: what an export then does. Other names of relation tables end it in faults of other
  families (`serve_neither_passes_nor_refuses`).
-/

namespace TableDump
set_option autoImplicit false

/-! ## Models from JSON -/

def LoadsJson (load : Run (List Entity)) (path : String) (j : Json) : Prop :=
  ∃ added : List Event, (∀ e ∈ added, e.IsNotice) ∧ ∀ s, load.result s = (parseEntities path j, s.extend added)

theorem kind_parseEntities {path : String} {j : Json} {f : Fault} (h : parseEntities path j = .error f) :
    f.kind = .configuration := by
  rw [parseEntities] at h
  split at h
  · cases h
  · cases h
    rfl

theorem loadsJson_lift (path : String) (j : Json) : LoadsJson (Run.lift (parseEntities path j)) path j :=
  ⟨[], List.forall_mem_nil _, fun s => by rw [Run.result_lift, Session.extend_nil]⟩

theorem LoadsJson.confined {load : Run (List Entity)} {path : String} {j : Json} (h : LoadsJson load path j) :
    Run.Confined Event.IsNotice load := by
  obtain ⟨added, hadded, hresult⟩ := h
  exact Run.Blind.confined ⟨_, added, hadded, hresult⟩

theorem LoadsJson.ends {load : Run (List Entity)} {path : String} {j : Json} (h : LoadsJson load path j) :
    Run.Ends (fun f => f.kind = .configuration ∧ parseEntities path j = .error f) (fun models => parseEntities path j = .ok models)
      load := by
  obtain ⟨added, -, hresult⟩ := h
  intro s
  rw [hresult]
  cases hparsed : parseEntities path j with
  | error f => exact ⟨kind_parseEntities hparsed, rfl⟩
  | ok models => exact rfl

/-- What is false in a file stands for no entities. -/
theorem loadsJson_loadEntities {m : Manager} {libraries : Libraries} {files : FileTree} {name : String} {entry : FileEntry}
    {j : Json} (hfound : files.look (m.modelPath name) = .ok (some entry))
    (hread : Manager.readModelFile libraries files (m.modelPath name) entry = .ok j) :
    LoadsJson (m.loadEntities libraries files (some name)) name (j.orElse (.obj [])) := by
  have hentities : Manager.readModels libraries files (m.modelPath name) name = parseEntities name (j.orElse (.obj [])) := by
    rw [Manager.readModels, hfound]
    simp only [hread, bind, Except.bind]
    rfl
  unfold Manager.loadEntities
  simp only [Option.getD_some, hentities]
  cases hparsed : parseEntities name (j.orElse (.obj [])) with
  | error f => exact ⟨[], List.forall_mem_nil _, fun s => by simp [Run.lift_error_bind, hparsed]⟩
  | ok models => exact ⟨_, List.forall_mem_singleton.2 (isNotice_info _), fun s => by rw [hparsed]; rfl⟩

/-- The relation tables that entities stand for have names that can be keys, all of them texts or none. -/
def NamesRelations (models : List Entity) : Prop :=
  ∃ texts : Bool, ∀ e ∈ models, e.table.truth = true → ∀ a ∈ e.attributes, a.basic.truth = false →
    a.Relates (fun name => (name.kind == .text) = texts) (fun _ => True)

theorem NamesRelations.ends_relationTables {models : List Entity} (h : NamesRelations models) {index : EntityIndex}
    (hindex : index.Of models) {Q : Fault → Prop} : Run.Ends Q (fun _ => True) index.relationTables := by
  obtain ⟨texts, htexts⟩ := h
  have hrelates := fun e he => htexts e (hindex.mem he).1 (hindex.mem he).2
  exact (EntityIndex.ends_relationTables hrelates fun a b ha hb => ha.trans hb.symm).mono (fun _ hf => hf) fun _ _ => trivial

/-- The tables of entities that have one are named by texts. -/
def NamesTables (models : List Entity) : Prop := ∀ e ∈ models, e.table.truth = true → e.table.IsText

/-- An answer with models that can be put into an index. -/
def Indexable (answer : Except Fault (List Entity)) : Prop := ∃ models, answer = .ok models ∧ NamesTables models

theorem EntityIndex.ends_ofEntities_names (models : List Entity) :
    Run.Ends (fun _ => ¬ NamesTables models) (fun _ => NamesTables models) (ofEntities models) := by
  refine Run.ends_foldlM_forall (fun e _ index => ?_) _
  unfold insert
  split
  · next htruth =>
    cases htable : e.table with
    | str table =>
      rw [Json.textFor, Run.lift_ok_bind]
      simp only
      split
      · exact (Run.ends_record _).bind fun _ _ => Run.ends_pure fun _ => ⟨table, rfl⟩
      · exact Run.ends_pure fun _ => ⟨table, rfl⟩
    | _ =>
      refine Run.ends_throw fun hnamed => ?_
      obtain ⟨text, htext⟩ := hnamed (htable ▸ htruth)
      cases htext
  · next htruth => exact Run.ends_pure fun h => absurd h htruth

/-! ## Loading -/

def errorRecords (events : List Event) : List Record :=
  (events.filterMap Event.record?).filter fun record => record.level == .error

theorem errorRecords_append (first next : List Event) :
    errorRecords (first ++ next) = errorRecords first ++ errorRecords next := recordsWhere_append _ first next

theorem errorRecords_notices {events : List Event} (h : ∀ e ∈ events, e.IsNotice) : errorRecords events = [] := by
  apply recordsWhere_eq_nil
  rintro _ he r rfl
  obtain ⟨record, hrecord, hlevel⟩ := h _ he
  cases hrecord
  simpa using hlevel

namespace Domain
variable {d : Domain} {load : Run (List Entity)} {path name : String} {j : Json} {s : Session} {f : Fault}

/-- Loading ends in a configuration fault. One record of an error tells it, and nothing happens beside records. -/
structure Refused (f : Fault) (added : List Event) : Prop where
  kind : f.kind = .configuration
  told : ∀ e ∈ added, ∃ record, e = .logged record
  error : ∃ text, errorRecords added = [⟨.error, text⟩] ∧ f.message.toList <:+ text.toList

theorem refused_append {notices : List Event} (hnotices : ∀ e ∈ notices, e.IsNotice) (hkind : f.kind = .configuration)
    {text : String} (htext : f.message.toList <:+ text.toList) : Refused f (notices ++ [.logged ⟨.error, text⟩]) where
  kind := hkind
  told := by
    refine List.forall_mem_append.2 ⟨fun e he => ?_, List.forall_mem_singleton.2 ⟨_, rfl⟩⟩
    obtain ⟨record, hrecord, -⟩ := hnotices e he
    exact ⟨record, hrecord⟩
  error := by
    refine ⟨text, ?_, htext⟩
    rw [errorRecords_append, errorRecords_notices hnotices]
    rfl

theorem loadEntities_of_fault {t : Session} (h : d.index.result s = (.error f, t)) :
    (d.loadEntities name).result s = match (modelsFault name f).result t with
      | (.error g, u) => (.error g, u)
      | (.ok index, u) => (index.relationTables >>= fun relations => pure (index, relations)).result u := by
  rw [loadEntities, Run.result_bind, Run.result_recover, h]
  simp only [if_true]
  rcases (modelsFault name f).result t with ⟨g | index, u⟩ <;> rfl

/-- A configuration fault and a fault of what values can do are both refusals. -/
theorem refused_of_fault (hf : f.kind = .configuration ∨ f.kind = .member) {notices : List Event}
    (hnotices : ∀ e ∈ notices, e.IsNotice) (h : d.index.result s = (.error f, s.extend notices)) :
    ∃ g added, (d.loadEntities name).result s = (.error g, s.extend added) ∧ Refused g added := by
  rw [loadEntities_of_fault h, modelsFault]
  rcases hf with hkind | hkind
  · refine ⟨f, notices ++ [.logged ⟨.error, "Could not load entity models of domain " ++ name ++ ": " ++ f.message⟩], ?_,
      refused_append hnotices hkind ?_⟩
    · rw [hkind]
      simp [Run.result_bind, Session.extend]
    · rw [String.toList_append]
      exact List.suffix_append _ _
  · refine ⟨.invalidModels name f, notices ++ [.logged ⟨.error, (Fault.invalidModels name f).message⟩], ?_,
      refused_append hnotices rfl (List.suffix_refl _)⟩
    rw [hkind]
    simp [Run.result_bind, Session.extend, FaultKind.isUnusable]

/-- Only models that cannot be put into an index keep a domain from being indexed. -/
theorem ends_index {answer : Except Fault (List Entity)} (hmodels : d.models = some load)
    (hload : Run.Ends (fun f => f.kind = .configuration ∧ answer = .error f) (fun models => answer = .ok models) load) :
    Run.Ends (fun f => (f.kind = .configuration ∨ f.kind = .member) ∧ ¬ Indexable answer)
      (fun index => ∃ models, answer = .ok models ∧ NamesTables models ∧ index.Of models) d.index := by
  rw [index, hmodels]
  have hloaded : Run.Ends (fun f => (f.kind = .configuration ∨ f.kind = .member) ∧ ¬ Indexable answer)
      (fun models => answer = .ok models) load := by
    refine hload.mono (fun f hf => ⟨.inl hf.1, ?_⟩) fun _ hanswer => hanswer
    rintro ⟨models, hanswer, -⟩
    cases hf.2.symm.trans hanswer
  refine hloaded.bind fun models hanswer => ?_
  refine ((EntityIndex.ends_ofEntities models).and (EntityIndex.ends_ofEntities_names models)).mono ?_ ?_
  · rintro f ⟨hkind, hnames⟩
    refine ⟨.inr hkind, ?_⟩
    rintro ⟨models', hanswer', hnames'⟩
    cases hanswer.symm.trans hanswer'
    exact hnames hnames'
  · rintro index ⟨hof, hnames⟩
    exact ⟨models, hanswer, hnames, hof⟩

theorem loads_or_refused (hmodels : d.models = some load) (hload : LoadsJson load path j)
    (hnames : ∀ models, parseEntities path j = .ok models → NamesRelations models) (name : String) (s : Session) :
    (∃ loading notices, (∀ e ∈ notices, e.IsNotice) ∧ (d.loadEntities name).result s = (.ok loading, s.extend notices)) ∨
      ∃ f added, (d.loadEntities name).result s = (.error f, s.extend added) ∧ Refused f added := by
  have hends := ends_index hmodels hload.ends
  have hconfined : ∀ own, d.models = some own → Run.Confined Event.IsNotice own := by
    rintro own hown
    cases hmodels.symm.trans hown
    exact hload.confined
  obtain ⟨notices, hnotices, hindexed⟩ := (confined_index hconfined).result_eq s
  cases houtcome : d.index.outcomeAt s.openedCount with
  | error f =>
    rw [houtcome] at hindexed
    exact .inr (refused_of_fault (hends.fault hindexed).1 hnotices hindexed)
  | ok index =>
    rw [houtcome] at hindexed
    obtain ⟨models, hparsed, -, hof⟩ := hends.value hindexed
    obtain ⟨told, htold, hderived⟩ := index.confined_relationTables.result_eq (s.extend notices)
    have hsound := (hnames models hparsed).ends_relationTables hof (Q := fun _ => False)
    cases hrelations : index.relationTables.outcomeAt (s.extend notices).openedCount with
    | error f =>
      rw [hrelations] at hderived
      exact (hsound.fault hderived).elim
    | ok relations =>
      rw [hrelations] at hderived
      refine .inl ⟨(index, relations), notices ++ told, List.forall_mem_append.2 ⟨hnotices, htold⟩, ?_⟩
      rw [loadEntities, Run.result_bind, Run.result_recover, hindexed]
      simp only
      rw [Run.result_bind, hderived, Session.extend_extend]
      rfl

/-! ### Outcomes -/

section
variable {answer : Except Fault (List Entity)}

theorem ends_modelsFault (hf : f.kind = .configuration ∨ f.kind = .member) (name : String) {G : EntityIndex → Prop} :
    Run.Ends (fun g => g.kind = .configuration) G (modelsFault name f) := by
  unfold modelsFault
  rcases hf with hkind | hkind
  · rw [hkind]
    exact (Run.ends_record _).bind fun _ _ => Run.ends_throw hkind
  · rw [hkind]
    exact (Run.ends_record _).bind fun _ _ => Run.ends_throw rfl

/-- Models whose relation tables have sound names are loaded exactly when they can be put into an index. -/
theorem ends_loadEntities (hmodels : d.models = some load)
    (hload : Run.Ends (fun f => f.kind = .configuration ∧ answer = .error f) (fun models => answer = .ok models) load)
    (hnames : ∀ models, answer = .ok models → NamesTables models → NamesRelations models) (name : String) :
    Run.Ends (fun f => f.kind = .configuration ∧ ¬ Indexable answer) (fun _ => Indexable answer) (d.loadEntities name) := by
  rw [loadEntities]
  refine Run.Ends.bind ((ends_index hmodels hload).recover (fun _ _ hpass => nomatch hpass) fun f hf _ => ?_) fun index hindex => ?_
  · exact (ends_modelsFault hf.1 name).mono (fun _ hkind => ⟨hkind, hf.2⟩) fun _ h => h
  · obtain ⟨models, hanswer, hnamed, hof⟩ := hindex
    exact ((hnames models hanswer hnamed).ends_relationTables hof).bind fun _ _ => Run.ends_pure ⟨models, hanswer, hnamed⟩

theorem ends_loadEntities_of_none (hmodels : d.models = none) (name : String) {Q : Fault → Prop} :
    Run.Ends Q (fun _ => True) (d.loadEntities name) := by
  rw [loadEntities, index, hmodels]
  exact fun _ => trivial

end

end Domain

/-! ## Exports -/

namespace Exporter
variable {x : Exporter} {r : Request} {d : Domain} {s : Session}

/-- The models are loaded without an error, and then a connection is opened. -/
def PassesModels (x : Exporter) (r : Request) (d : Domain) (s : Session) : Prop :=
  ∃ loading notices rest, (∀ e ∈ notices, e.IsNotice) ∧ (d.loadEntities r.domain).result s = (.ok loading, s.extend notices) ∧
    ((x.serve r).result s).2.events = s.events ++ notices ++ .opened :: rest

/-- The export ends in a refusal of its models, and has written nothing. -/
def RefusesModels (x : Exporter) (r : Request) (s : Session) : Prop :=
  ∃ f added, (x.serve r).result s = (.error f, s.extend added) ∧ Domain.Refused f added

theorem serve_passes_or_refuses (hd : x.domain r.domain = .ok d) (hout : r.hasOutput = true) {load : Run (List Entity)}
    (hmodels : d.models = some load) {path : String} {j : Json} (hload : LoadsJson load path j)
    (hnames : ∀ models, parseEntities path j = .ok models → NamesRelations models) :
    x.PassesModels r d s ∨ x.RefusesModels r s := by
  have hserve : x.serve r = d.loadEntities r.domain >>= fun loading => x.exportLoaded r.domain d.store (x.planFor r d loading) := by
    rw [serve, if_pos hout, exportDomain_eq hd]
  rcases Domain.loads_or_refused hmodels hload hnames r.domain s with ⟨loading, notices, hnotices, hloaded⟩ | ⟨f, added, hfault, hrefused⟩
  · obtain ⟨rest, hrest⟩ := opens_exportLoaded x r.domain d.store (x.planFor r d loading) (s.extend notices)
    refine .inl ⟨loading, notices, rest, hnotices, hloaded, ?_⟩
    rw [hserve, Run.result_bind, hloaded]
    exact hrest
  · refine .inr ⟨f, added, ?_, hrefused⟩
    rw [hserve, Run.result_bind, hfault]

def emptyStore : Store where
  tables _ := .ok []
  references _ _ := .ok []
  key _ _ := .ok []
  columns _ _ := .ok []
  rows _ := .ok []

/-- A domain without tables whose models are read from a JSON value. -/
def modelled (j : Json) : Domain where
  store := emptyStore
  models := some (Run.lift (parseEntities "models.json" j))

def exporterOf (j : Json) : Exporter := { domains := [("Master", modelled j)] }

/-- An entity with a join table, and one whose table is a number. -/
def numberedTable : Json := .obj [("entities", .arr [
  .obj [("name", .str "User"), ("table", .str "users"), ("attributes", .arr [.obj [("name", .str "roles"),
    ("join_table", .obj [("name", .str "user_roles"), ("join_column", .str "user"), ("inverse_join_column", .str "role")])]])],
  .obj [("name", .str "Role"), ("table", .int 5)]])]

theorem serve_passes_or_refuses_numberedTable : (exporterOf numberedTable).domain "Master" = .ok (modelled numberedTable) ∧
    LoadsJson (Run.lift (parseEntities "models.json" numberedTable)) "models.json" numberedTable ∧
    (∀ models, parseEntities "models.json" numberedTable = .ok models → NamesRelations models) ∧
    ((exporterOf numberedTable).PassesModels { domain := "Master" } (modelled numberedTable) {} ∨
      (exporterOf numberedTable).RefusesModels { domain := "Master" } {}) := by
  have hnames : ∀ models, parseEntities "models.json" numberedTable = .ok models → NamesRelations models := by
    rintro _ ⟨⟩
    refine ⟨true, List.forall_mem_cons.2 ⟨fun _ => List.forall_mem_singleton.2 fun _ => ?_, ?_⟩⟩
    · exact ⟨nofun, fun j hj => by cases hj; exact fun _ => ⟨_, rfl⟩, fun _ _ => ⟨fun _ => rfl, trivial⟩⟩
    · exact List.forall_mem_singleton.2 fun _ => List.forall_mem_nil _
  exact ⟨rfl, loadsJson_lift _ _, hnames, serve_passes_or_refuses rfl rfl rfl (loadsJson_lift _ _) hnames⟩

/-- A join table that is named by a number. -/
def numberedJoin : Json := .obj [("entities", .arr [
  .obj [("name", .str "A"), ("table", .str "T"), ("attributes", .arr [.obj [("name", .str "x"),
    ("join_table", .obj [("name", .int 5), ("join_column", .str "a"), ("inverse_join_column", .str "b")])]])]])]

/-- The names of relation tables are looked at when nothing watches over the models any more. -/
theorem serve_neither_passes_nor_refuses :
    (exporterOf numberedJoin).domain "Master" = .ok (modelled numberedJoin) ∧
      LoadsJson (Run.lift (parseEntities "models.json" numberedJoin)) "models.json" numberedJoin ∧
      ((exporterOf numberedJoin).serve { domain := "Master" }).result {} = (.error (.noMember .integer "strip"), {}) ∧
      ¬ (exporterOf numberedJoin).PassesModels { domain := "Master" } (modelled numberedJoin) {} ∧
      ¬ (exporterOf numberedJoin).RefusesModels { domain := "Master" } {} := by
  have hserve : ((exporterOf numberedJoin).serve { domain := "Master" }).result {} = (.error (.noMember .integer "strip"), {}) := rfl
  refine ⟨rfl, loadsJson_lift _ _, hserve, ?_, ?_⟩
  · rintro ⟨loading, notices, rest, -, -, hopened⟩
    rw [hserve] at hopened
    simp at hopened
  · rintro ⟨f, added, hresult, hrefused⟩
    cases hserve.symm.trans hresult
    cases hrefused.kind

end Exporter
end TableDump
