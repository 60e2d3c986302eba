import TableDump.Proofs.Export.FailureIsolation
import TableDump.Proofs.Model.SettledColumn
import TableDump.Proofs.Store.RespelledStore

/-! # Exports of stores under other spellings

* `SettledTable`: a table that models name together with all of its columns.
* A settled table has the same elements whichever way the store spells it and its columns
  (`parallel_tableElements`).
* A store under other spellings is exported into the same document (`serve_respelled`).
* Where the join columns of a link table are all that names a column, its spelling may show
  (`serve_shows_spelling`).
-/

namespace TableDump
open TableDump.Markup TableDump.Schema TableDump.Text
set_option autoImplicit false

/-! ## Values and rows -/

theorem parallel_encodeBinary (e : Encoding) (column column' : String) (v : Value) :
    Run.Parallel Eq (v.encodeBinary e column) (v.encodeBinary e column') := by
  rw [Value.encodeBinary, Value.encodeBinary]
  split
  · exact Run.parallel_lift (Agree.refl _)
  · split
    · exact (Run.parallel_log _ _ _ _).bind fun _ _ _ => Run.parallel_pure rfl
    · exact Run.parallel_throw rfl

theorem parallel_encode (e : Encoding) {column column' : Column} (htype : column.type = column'.type) (v : Value) :
    Run.Parallel Eq (v.encode e column) (v.encode e column') := by
  rw [Value.encode, Value.encode, htype, Value.encodeAs, Value.encodeAs]
  split
  · exact Run.parallel_pure rfl
  · split
    · exact parallel_encodeBinary e _ _ v
    · split
      · exact Run.parallel_lift (Agree.refl _)
      · exact Run.parallel_pure rfl

section
variable {n : Naming} {f : Column → Column}

theorem parallel_mapColumns (e : Encoding) {columns : List Column}
    (hname : ∀ c ∈ columns, n.columnName c.name = n.columnName (f c).name) (htype : ∀ c, (f c).type = c.type) (row : Row) (values : List Value) :
    Run.Parallel Eq (mapColumns e n row columns values) (mapColumns e n row (columns.map f) values) := by
  induction columns generalizing row values with
  | nil => exact Run.parallel_pure rfl
  | cons c columns ih =>
    obtain ⟨hc, hcolumns⟩ := List.forall_mem_cons.1 hname
    cases values with
    | nil => exact Run.parallel_throw rfl
    | cons v values =>
      refine Run.Parallel.bind (R := Eq) ?_ fun row' _ heq => heq ▸ ih hcolumns row' values
      refine (parallel_encode e (htype c).symm v).bind fun text _ heq => ?_
      cases heq
      cases text with
      | none => exact Run.parallel_pure rfl
      | some text =>
        refine (Run.parallel_lift (Agree.of_eq hc)).bind fun name _ heq => ?_
        cases heq
        exact Run.parallel_pure rfl

end

/-! ## Tables -/

/-- Models name the table and all of its columns. -/
structure SettledTable (loading : EntityIndex × RelationTables) (store : Store) (schema : Option String) (table : String) :
    Prop where
  named : IsNamed loading.1 loading.2 table
  columns : ∀ name relation columns, exportNaming loading.1 loading.2 table = .ok (name, relation) →
    store.columns schema table = .ok columns → ∀ c ∈ columns, Naming.Settles ⟨loading.1.find? table, relation⟩ c.name

namespace Extractor
variable {x : Extractor} {ρ : Respelling} {other : Store}

theorem isHierarchyTable_congr {table table' : String} (h : sameName table table' = true) :
    x.isHierarchyTable table = x.isHierarchyTable table' := by
  have hsame : sameName table = sameName table' := funext fun name => sameName_congr h (sameName_refl name)
  rw [isHierarchyTable, isHierarchyTable, hsame]

theorem parallel_followHierarchy (table table' : String) (rows : List Row) :
    Run.Parallel Eq (x.followHierarchy table rows) (x.followHierarchy table' rows) := by
  rw [followHierarchy, followHierarchy]
  split
  · exact (Run.parallel_log _ _ _ _).bind fun _ _ _ => Run.parallel_pure rfl
  · refine (Run.parallel_record rfl).bind fun _ _ _ => (Run.parallel_lift (Agree.refl _)).bind fun keys _ heq => ?_
    cases heq
    simp only
    split
    · exact (Run.parallel_log _ _ _ _).bind fun _ _ _ => Run.parallel_pure rfl
    · exact Run.parallel_pure rfl

theorem parallel_mapRecords (table table' : String) {n : Naming} {columns : List Column} {f : Column → Column}
    (hname : ∀ c ∈ columns, n.columnName c.name = n.columnName (f c).name) (htype : ∀ c, (f c).type = c.type)
    (records : List (List Value)) : Run.Parallel Eq (x.mapRecords table n columns records)
      (({ x with store := other } : Extractor).mapRecords table' n (columns.map f) records) := by
  have hrecords : Run.Parallel (List.Forall₂ Eq) (records.mapM (mapRecord x.encoding n columns))
      (records.mapM (mapRecord x.encoding n (columns.map f))) :=
    Run.parallel_mapM (List.forall₂_same.2 fun record _ => parallel_mapColumns _ hname htype [] record)
  rw [List.forall₂_eq_eq_eq] at hrecords
  exact hrecords.wrap (byKind FaultKind.isUnusable) fun _ _ => rfl

theorem parallel_mapRead {entities : EntityIndex} {table : String} {named : Json × Option RelationColumns}
    {columns : List Column} (hsettled : ∀ c ∈ columns, Naming.Settles ⟨entities.find? table, named.2⟩ c.name)
    (records : List (List Value)) :
    Run.Parallel (fun extracted extracted' => extracted'.exportedName = extracted.exportedName ∧
      extracted'.rows = extracted.rows) (x.mapRead entities table named (columns, records))
      (({ x with store := other } : Extractor).mapRead entities (ρ.table table) named
        (columns.map (ρ.renamed table), records)) := by
  have hname : ∀ c ∈ columns, Naming.columnName ⟨entities.find? table, named.2⟩ c.name =
      Naming.columnName ⟨entities.find? table, named.2⟩ (ρ.renamed table c).name :=
    fun c hc => (hsettled c hc).columnName_congr (ρ.sameName_column table c.name)
  have hfollows : Agree Eq (x.isHierarchyTable table)
      (({ x with store := other } : Extractor).isHierarchyTable (ρ.table table)) :=
    Agree.of_eq (isHierarchyTable_congr (ρ.sameName_table table))
  rw [mapRead, mapRead, ← entities.find?_congr (ρ.sameName_table table)]
  refine (parallel_mapRecords table (ρ.table table) hname (fun _ => rfl) records).bind fun rows _ heq => ?_
  cases heq
  refine (Run.parallel_lift hfollows).bind fun follows _ heq => ?_
  cases heq
  cases follows with
  | true => exact (parallel_followHierarchy _ _ rows).bind fun ordered _ heq => Run.parallel_pure ⟨rfl, heq.symm⟩
  | false => exact Run.parallel_pure ⟨rfl, rfl⟩

theorem parallel_extract (h : ρ.Respells (schemaName x.schema) x.store other)
    (hnames : x.store.WellNamed (schemaName x.schema)) {loading : EntityIndex × RelationTables} {table : String}
    (htable : x.store.Lists (schemaName x.schema) table)
    (hsettled : SettledTable loading x.store (schemaName x.schema) table) (threshold : Json) :
    Run.Parallel (fun extracted extracted' => extracted'.exportedName = extracted.exportedName ∧
      extracted'.rows = extracted.rows) (x.extract loading.1 loading.2 threshold table)
      (({ x with store := other } : Extractor).extract loading.1 loading.2 threshold (ρ.table table)) := by
  have hnaming := exportNaming_congr hsettled.named (ρ.sameName_table table)
  rw [extract_eq, extract_eq, ← hnaming]
  refine (Run.parallel_lift ((Agree.refl (exportNaming loading.1 loading.2 table)).mono
    fun named named' hnamed _ heq => And.intro hnamed heq)).bind fun named named' hnamed => ?_
  obtain ⟨hnamed, rfl⟩ := hnamed
  refine (parallel_readTable h hnames htable threshold).bind fun read read' hread => ?_
  obtain ⟨hcolumns, rfl⟩ := hread
  exact parallel_mapRead (hsettled.columns named.1 named.2 read.1 hnamed hcolumns) read.2

end Extractor

/-! ## Elements -/

theorem kind_refusedBy {change change' : Fault → Fault} (hchange : ∀ f g, (change f).kind = (change' g).kind) {f g : Fault}
    (h : f.kind = g.kind) : (refusedBy change f).kind = (refusedBy change' g).kind := by
  rw [refusedBy, refusedBy, h]
  split
  · exact hchange f g
  · exact h

theorem agree_buildElement (table table' : String) (name : Json) (row : Row) :
    Agree Eq (buildElement table name row) (buildElement table' name row) := by
  have hset : ∀ e entry, Agree Eq (setColumn table e entry) (setColumn table' e entry) := by
    refine fun e entry => (Agree.refl _).mapError fun f g hkind => kind_refusedBy ?_ hkind
    exact fun _ _ => rfl
  have hmake : Agree Eq ((Element.make name).mapError (refusedBy (.unwritableElement table name.toText)))
      ((Element.make name).mapError (refusedBy (.unwritableElement table' name.toText))) := by
    refine (Agree.refl _).mapError fun f g hkind => kind_refusedBy ?_ hkind
    exact fun _ _ => rfl
  rw [buildElement, buildElement]
  refine hmake.bind fun e _ heq => ?_
  cases heq
  induction row generalizing e with
  | nil => exact .ok rfl
  | cons entry row ih =>
    rw [List.foldlM_cons, List.foldlM_cons]
    exact (hset e entry).bind fun next _ heq => heq ▸ ih next

theorem parallel_tableElements {p : ExportPlan} {ρ : Respelling} {other : Store}
    (h : ρ.Respells (schemaName p.extractor.schema) p.extractor.store other)
    (hnames : p.extractor.store.WellNamed (schemaName p.extractor.schema)) {table : String}
    (htable : p.extractor.store.Lists (schemaName p.extractor.schema) table)
    (hsettled : SettledTable (p.entities, p.relations) p.extractor.store (schemaName p.extractor.schema) table) :
    Run.Parallel Eq (tableElements p table) (tableElements (p.withStore other) (ρ.table table)) := by
  refine (Extractor.parallel_extract h hnames htable hsettled p.threshold).bind fun extracted extracted' hextracted => ?_
  rw [hextracted.1, hextracted.2]
  have hrows := Agree.mapM (List.forall₂_same.2 fun row (_ : row ∈ extracted.rows) =>
    agree_buildElement table (ρ.table table) extracted.exportedName row)
  rw [List.forall₂_eq_eq_eq] at hrows
  exact Run.parallel_lift hrows

/-! ## Reports -/

/-- Outcomes that give the same elements, or none for faults of one kind. -/
def TableOutcome.Tallies (o o' : TableOutcome) : Prop := Agree Eq o.outcome o'.outcome

theorem TableOutcome.Tallies.elements_eq {o o' : TableOutcome} (h : o.Tallies o') : o.elements = o'.elements := by
  obtain ⟨_, outcome⟩ := o
  obtain ⟨_, outcome'⟩ := o'
  cases h with
  | ok heq => exact heq
  | error hkind => rfl

theorem parallel_exportTable {p q : ExportPlan} {table table' : String}
    (h : Run.Parallel Eq (tableElements p table) (tableElements q table')) :
    Run.Parallel TableOutcome.Tallies (exportTable p table) (exportTable q table') := by
  refine h.attempt.bind fun outcome outcome' houtcome => ?_
  cases houtcome with
  | ok heq => exact Run.parallel_pure (Agree.ok heq)
  | error hkind => exact (Run.parallel_log _ _ _ _).bind fun _ _ _ => Run.parallel_pure (Agree.error hkind)

/-- Reports of the same elements. -/
def Report.SameElements (r r' : Report) : Prop := r.elements = r'.elements

theorem parallel_stopAt (n n' : Nat) (f f' : Fault) : Run.Parallel Report.SameElements (stopAt n f) (stopAt n' f') :=
  (Run.parallel_log _ _ _ _).bind fun _ _ _ => Run.parallel_pure rfl

theorem sameElements_of_forall₂ {outcomes outcomes' : List TableOutcome} (h : List.Forall₂ TableOutcome.Tallies outcomes outcomes')
    (n n' : Nat) : Report.SameElements { discovered := n, outcomes } { discovered := n', outcomes := outcomes' } := by
  have hflat : outcomes.flatMap TableOutcome.elements = outcomes'.flatMap TableOutcome.elements := by
    induction h with
    | nil => rfl
    | cons ho _ ih => rw [List.flatMap_cons, List.flatMap_cons, ho.elements_eq, ih]
  exact hflat

section
variable {p : ExportPlan} {ρ : Respelling} {other : Store} {settings : Settings}
  (h : ρ.Respells (schemaName p.extractor.schema) p.extractor.store other)
  (hnames : p.extractor.store.WellNamed (schemaName p.extractor.schema))
include h hnames

theorem parallel_exportInOrder {tables : List String}
    (hlisted : ∀ table ∈ tables, p.extractor.store.Lists (schemaName p.extractor.schema) table)
    (hsettled : ∀ table ∈ tables, SettledTable (p.entities, p.relations) p.extractor.store (schemaName p.extractor.schema) table) :
    Run.Parallel Report.SameElements (exportInOrder p tables) (exportInOrder (p.withStore other) (tables.map ρ.table)) := by
  have hsorted := ρ.parallel_sortTables fun table htable => h.parallel_imports (hlisted table htable)
  refine Run.Parallel.recover (byKind (· == .metadata)) (hsorted.bind fun order order' horder => ?_) fun f g _ =>
    parallel_stopAt _ _ f g
  obtain ⟨rfl, hmem⟩ := horder
  have hall : List.Forall₂ (fun table table' => Run.Parallel TableOutcome.Tallies (exportTable p table)
      (exportTable (p.withStore other) table')) order (order.map ρ.table) := by
    rw [List.forall₂_map_right_iff, List.forall₂_same]
    exact fun table htable => parallel_exportTable (parallel_tableElements h hnames (hlisted table (hmem table htable))
      (hsettled table (hmem table htable)))
  exact (Run.parallel_mapM hall).bind fun outcomes outcomes' houtcomes =>
    Run.parallel_pure (sameElements_of_forall₂ houtcomes _ _)

theorem parallel_exportTables (hsettled : ∀ table, p.extractor.store.Lists (schemaName p.extractor.schema) table →
      settings.allows table = .ok true →
      SettledTable (p.entities, p.relations) p.extractor.store (schemaName p.extractor.schema) table) :
    Run.Parallel Report.SameElements (exportTables settings p) (exportTables settings (p.withStore other)) := by
  refine h.parallel_tables.attempt.bind fun outcome outcome' houtcome => ?_
  cases houtcome with
  | @ok listed listed' hlisted =>
    have hdistinct := hnames.tables listed hlisted.1
    have hdiscover : Agree (fun tables tables' => settings.discover listed = .ok tables ∧ tables' = tables.map ρ.table)
        (settings.discover listed) (settings.discover listed') := by
      rw [ρ.discover_eq hdistinct hlisted.2]
      cases hd : settings.discover listed with
      | error f => exact .error rfl
      | ok tables => exact .ok ⟨rfl, rfl⟩
    refine (Run.parallel_lift hdiscover).bind fun tables tables' htables => ?_
    obtain ⟨htables, rfl⟩ := htables
    have hmem := fun table htable => Settings.mem_of_discover htables (t := table) htable
    exact parallel_exportInOrder h hnames (fun table htable => ⟨listed, hlisted.1, (hmem table htable).1⟩)
      fun table htable => hsettled table ⟨listed, hlisted.1, (hmem table htable).1⟩ (hmem table htable).2
  | @error f g hkind =>
    have hsame : isCatalogFault f = isCatalogFault g := byKind (· == .metadata) f g hkind
    simp only [hsame]
    by_cases hcatalog : isCatalogFault g = true
    · rw [if_pos hcatalog, if_pos hcatalog]
      exact parallel_stopAt _ _ f g
    · rw [if_neg hcatalog, if_neg hcatalog]
      exact Run.parallel_throw hkind

end

theorem Exports.elements_eq {p : ExportPlan} {s t : Session} {r : Report} (h : Exports p s r.outcomes t)
    (es : String → List Element) (hes : ∀ table ∈ r.outcomes.map TableOutcome.table, ∀ u,
      ((tableElements p table).result u).1 = .ok (es table)) :
    r.elements = (r.outcomes.map TableOutcome.table).flatMap es := by
  rw [Report.elements, List.flatMap_map]
  refine List.flatMap_congr fun o ho => ?_
  obtain ⟨u, v, htable, _⟩ := h.of_mem ho
  have hok := hes o.table (List.mem_map_of_mem ho) u
  rw [htable] at hok
  simp only at hok
  rw [TableOutcome.elements, hok]

/-! ## Documents -/

theorem parallel_writeDocument {body body' : Run Report} (h : Run.Parallel Report.SameElements body body') (root : Json) :
    Run.Parallel Report.SameElements (writeDocument root body) (writeDocument root body') := by
  refine (Run.parallel_write _).bind fun _ _ _ => (Run.parallel_lift (Agree.refl _)).bind fun root _ heq => ?_
  cases heq
  refine (Run.parallel_write _).bind fun _ _ _ => h.attempt.bind fun outcome outcome' houtcome => ?_
  cases houtcome with
  | @ok report report' hreport =>
    have htext : rowLines report.elements ++ "\n" ++ endTag root = rowLines report'.elements ++ "\n" ++ endTag root := by
      rw [show report.elements = report'.elements from hreport]
    simp only [htext]
    exact (Run.parallel_write _).bind fun _ _ _ => Run.parallel_pure hreport
  | error hkind => exact (Run.parallel_write _).bind fun _ _ _ => Run.parallel_throw hkind

namespace Exporter
variable {x y : Exporter} {r : Request} {d : Domain} {s : Session} {ρ : Respelling} {other : Store}

theorem parallel_document {p : ExportPlan} (name : String) (settings : Settings)
    (h : ρ.Respells (schemaName p.extractor.schema) p.extractor.store other)
    (hnames : p.extractor.store.WellNamed (schemaName p.extractor.schema))
    (hsettled : ∀ table, p.extractor.store.Lists (schemaName p.extractor.schema) table → settings.allows table = .ok true →
      SettledTable (p.entities, p.relations) p.extractor.store (schemaName p.extractor.schema) table) :
    Run.Parallel Report.SameElements
      (Run.recover isConnectionFault (connectionLost name)
        (p.extractor.store.withConnection (writeDocument settings.rootElement (exportTables settings p))))
      (Run.recover isConnectionFault (connectionLost name)
        (other.withConnection (writeDocument settings.rootElement (exportTables settings (p.withStore other))))) := by
  have hwritten := parallel_writeDocument (parallel_exportTables h hnames hsettled) settings.rootElement
  refine (Store.parallel_withConnection h.connect h.close hwritten).recover (byKind (· == .connection)) fun f g hkind => ?_
  exact (Run.parallel_log _ _ _ _).bind fun _ _ _ => Run.parallel_throw hkind

/-- A store under other spellings is exported into the same document, when models name every allowed table
and all of its columns. -/
theorem serve_respelled (hsettings : y.settings = x.settings) (hmachine : y.toMachine = x.toMachine)
    (hx : x.domain r.domain = .ok d) (hy : y.domain r.domain = .ok { d with store := other })
    (hnames : d.store.WellNamed (schemaName d.schema)) (h : ρ.Respells (schemaName d.schema) d.store other)
    (hsettled : ∀ loading loaded, (d.loadEntities r.domain).result s = (.ok loading, loaded) → ∀ table,
      d.store.Lists (schemaName d.schema) table → x.settings.allows table = .ok true →
      SettledTable loading d.store (schemaName d.schema) table) :
    Agree Report.SameElements ((x.serve r).result s).1 ((y.serve r).result s).1 ∧
      ((y.serve r).result s).2.written = ((x.serve r).result s).2.written := by
  have hload : ({ d with store := other } : Domain).loadEntities r.domain = d.loadEntities r.domain := rfl
  rw [serve, serve]
  cases r.hasOutput with
  | false =>
    rw [if_neg Bool.false_ne_true, if_neg Bool.false_ne_true, Run.result_throw]
    exact ⟨.error rfl, rfl⟩
  | true =>
    rw [if_pos rfl, if_pos rfl, exportDomain_eq hx, exportDomain_eq hy, hload, Run.result_bind, Run.result_bind]
    rcases hresult : (d.loadEntities r.domain).result s with ⟨f | loading, loaded⟩
    · exact ⟨.error rfl, rfl⟩
    · have hexport : Run.Parallel Report.SameElements (x.exportLoaded r.domain d.store (x.planFor r d loading))
          (y.exportLoaded r.domain other (y.planFor r { d with store := other } loading)) := by
        rw [exportLoaded, exportLoaded, planFor_withStore hsettings hmachine r d h.driverFaults loading, hsettings]
        have hdocument := parallel_document (p := x.planFor r d loading) r.domain x.settings h hnames
          (hsettled loading loaded hresult)
        refine hdocument.bind fun report report' hreport => ?_
        exact (Run.parallel_log _ _ _ _).bind fun _ _ _ => Run.parallel_pure hreport
      obtain ⟨hagree, habreast⟩ := hexport loaded loaded (.refl loaded)
      simp only
      exact ⟨hagree, habreast.written.symm⟩

/-- Members with their owners, and the table that links members. -/
def rosterStore : DeclaredStore where
  tables := [
    { name := "members", columns := [⟨"id", .untyped⟩, ⟨"owner_id", .untyped⟩], rows := [[.integer 1, .integer 2]],
      key := [some "id"] },
    { name := "member_links", columns := [⟨"member", .untyped⟩, ⟨"link", .untyped⟩], rows := [[.integer 1, .integer 2]],
      references := [some "Members"] }]

def rosterEntity : Entity where
  name := .str "Member"
  table := .str "members"
  attributes := [{ name := .str "id" }, {
    name := .str "owner"
    basic := .bool false
    join := some { joinColumn := .str "member", inverseJoinColumn := .str "link", name := .str "member_links" } }]

def rosterDomain (store : Store) : Domain := { store, models := some (pure [rosterEntity]) }

def roster (store : Store) : Exporter := { domains := [("roster", rosterDomain store)] }

def rosterModels : EntityIndex × RelationTables :=
  (⟨[⟨"members", rosterEntity⟩]⟩, [(.str "member_links", ⟨.str "member", .str "link"⟩)])

theorem loads_roster (store : Store) : ((rosterDomain store).loadEntities "roster").result {} = (.ok rosterModels, {}) := rfl

theorem wellNamed_roster : rosterStore.toStore.WellNamed none :=
  DeclaredStore.wellNamed (by decide +kernel) (by decide +kernel) (by decide +kernel)

theorem settled_roster {table : String} (h : rosterStore.toStore.Lists none table) :
    SettledTable rosterModels rosterStore.toStore none table := by
  obtain rfl | rfl := List.mem_pair.1 (DeclaredStore.mem_names_of_lists h)
  · refine ⟨.inl ⟨rosterEntity, rfl⟩, fun name relation columns hnaming hcolumns => ?_⟩
    cases hnaming
    cases hcolumns
    refine List.forall_mem_cons.2 ⟨?_, List.forall_mem_singleton.2 ?_⟩
    · exact .declared rfl List.mem_cons_self ⟨"id", .inl rfl, sameName_refl _⟩
    · exact .prefixed rfl (List.mem_cons_of_mem _ List.mem_cons_self) rfl (by decide) (by decide)
  · refine ⟨.inr ⟨_, _, List.mem_cons_self, sameName_refl _⟩, fun name relation columns hnaming hcolumns => ?_⟩
    cases hnaming
    cases hcolumns
    refine List.forall_mem_cons.2 ⟨?_, List.forall_mem_singleton.2 ?_⟩
    · exact .side rfl rfl (.inl rfl) (sameName_refl _)
    · exact .side rfl rfl (.inr rfl) (sameName_refl _)

theorem serve_respelled_roster :
    rosterStore.toStore.WellNamed none ∧
      Respelling.inCapitals.Respells none rosterStore.toStore (rosterStore.respelled .inCapitals).toStore ∧
      (∀ table, rosterStore.toStore.Lists none table → SettledTable rosterModels rosterStore.toStore none table) ∧
      (((roster (rosterStore.respelled .inCapitals).toStore).serve { domain := "roster" }).result {}).2.written =
        (((roster rosterStore.toStore).serve { domain := "roster" }).result {}).2.written := by
  have hrespells : Respelling.inCapitals.Respells none rosterStore.toStore (rosterStore.respelled .inCapitals).toStore :=
    DeclaredStore.respells_of_pairwise rfl (wellNamed_roster.tables _ rfl)
  have hx : (roster rosterStore.toStore).domain "roster" = .ok (rosterDomain rosterStore.toStore) := rfl
  have hy : (roster (rosterStore.respelled .inCapitals).toStore).domain "roster" =
      .ok { rosterDomain rosterStore.toStore with store := (rosterStore.respelled .inCapitals).toStore } := rfl
  have hsettled : ∀ loading loaded, ((rosterDomain rosterStore.toStore).loadEntities "roster").result {} = (.ok loading, loaded) →
      ∀ table, rosterStore.toStore.Lists none table → (roster rosterStore.toStore).settings.allows table = .ok true →
      SettledTable loading rosterStore.toStore none table := by
    intro loading loaded hload table htable _
    cases (loads_roster _).symm.trans hload
    exact settled_roster htable
  have hserve := serve_respelled (x := roster rosterStore.toStore) (y := roster (rosterStore.respelled .inCapitals).toStore)
    (r := { domain := "roster" }) (s := {}) rfl rfl hx hy wellNamed_roster hrespells hsettled
  exact ⟨wellNamed_roster, hrespells, fun table htable => settled_roster htable, hserve.2⟩

/-- A link table that is mapped under its own name, and one that is mapped under another name. -/
def linkStore : DeclaredStore where
  tables := [
    { name := "links", columns := [⟨"from_ref_id", .untyped⟩], rows := [[.integer 1]] },
    { name := "members", columns := [⟨"owner", .untyped⟩], rows := [[.integer 1]] }]

def linkEntity (name table left right : String) : Entity where
  name := .str name
  table := .str table
  attributes := [{
    name := .str "peers"
    basic := .bool false
    join := some { joinColumn := .str left, inverseJoinColumn := .str right, name := .str table } }]

def linkDomain (store : Store) : Domain where
  store := store
  models := some (pure [linkEntity "links" "links" "from_ref_id" "to_ref_id", linkEntity "Member" "members" "owner" "target"])

def links (store : Store) : Exporter := { domains := [("links", linkDomain store)] }

def linkModels : EntityIndex × RelationTables :=
  (⟨[⟨"links", linkEntity "links" "links" "from_ref_id" "to_ref_id"⟩, ⟨"members", linkEntity "Member" "members" "owner" "target"⟩]⟩,
    [(.str "links", ⟨.str "from_ref_id", .str "to_ref_id"⟩), (.str "members", ⟨.str "owner", .str "target"⟩)])

theorem loads_links (store : Store) : ((linkDomain store).loadEntities "links").result {} = (.ok linkModels, {}) := by
  rfl

theorem written_links {store : Store} {a b : String} {ea eb : List Element} (hab : a ≠ b)
    (horder : ∀ u, ((tableOrder {} ⟨store, none⟩).result u).1 = .ok [b, a])
    (hopening : store.opening 1 = .ok ()) (hclosing : store.closing = .ok ())
    (hea : ∀ u, ((tableElements ((links store).planFor { domain := "links" } (linkDomain store) linkModels) a).result u).1 = .ok ea)
    (heb : ∀ u, ((tableElements ((links store).planFor { domain := "links" } (linkDomain store) linkModels) b).result u).1 = .ok eb) :
    (((links store).serve { domain := "links" }).result {}).2.written = document ⟨none, "dataset"⟩ (eb ++ ea) := by
  obtain ⟨report, t, ⟨c⟩⟩ := exists_course (x := links store) (r := { domain := "links" }) (d := linkDomain store) (u := {})
    rfl (loads_links store) hopening hclosing rfl (horder {})
  have hserve : ((links store).serve { domain := "links" }).result {} = (.ok report, t) := c.serves rfl
  have hloading := c.loading_eq (loads_links store)
  have hloaded : c.loaded = {} := (Prod.mk.inj (c.loads.symm.trans (loads_links store))).2
  have hroot : c.root = ⟨none, "dataset"⟩ := (Except.ok.inj c.readsRoot).symm
  have hexports := c.exports
  rw [hloading] at hexports
  have helements := hexports.elements_eq (fun table => if table = a then ea else eb) fun table htable u => by
    rw [c.tables] at htable
    rcases List.mem_cons.1 htable with rfl | htable
    · rw [if_neg hab.symm]
      exact heb u
    · rw [List.mem_singleton.1 htable, if_pos rfl]
      exact hea u
  rw [c.tables, List.flatMap_cons, List.flatMap_singleton, if_neg hab.symm, if_pos rfl] at helements
  rw [hserve]
  simp only
  rw [c.written, hloaded, hroot, helements]
  simp

theorem wellNamed_links : linkStore.toStore.WellNamed none :=
  DeclaredStore.wellNamed (by decide +kernel) (by decide +kernel) (by decide +kernel)

/-- The column is a side of the pair that is declared under the name of the table. -/
def RelationTables.HasSide (relations : RelationTables) (table column : String) : Prop :=
  ∃ name pair side, (.str name, pair) ∈ relations ∧ sameName name table = true ∧
    (pair.left = .str side ∨ pair.right = .str side) ∧ sameName side column = true

theorem hasSide_links {table : String} (h : linkStore.toStore.Lists none table) :
    IsNamed linkModels.1 linkModels.2 table ∧ ∀ columns, linkStore.toStore.columns none table = .ok columns →
      ∀ c ∈ columns, RelationTables.HasSide linkModels.2 table c.name := by
  obtain rfl | rfl := List.mem_pair.1 (DeclaredStore.mem_names_of_lists h)
  · refine ⟨.inl ⟨_, rfl⟩, fun columns hcolumns => ?_⟩
    cases hcolumns
    exact List.forall_mem_singleton.2 ⟨_, _, _, List.mem_cons_self, sameName_refl _, .inl rfl, sameName_refl _⟩
  · refine ⟨.inl ⟨_, rfl⟩, fun columns hcolumns => ?_⟩
    cases hcolumns
    exact List.forall_mem_singleton.2 ⟨_, _, _, List.mem_cons_of_mem _ List.mem_cons_self, sameName_refl _, .inl rfl,
      sameName_refl _⟩

def rowElement (name column : String) : Element := { name := ⟨none, name⟩, attributes := [(⟨none, column⟩, "1")] }

theorem written_linkStore : (((links linkStore.toStore).serve { domain := "links" }).result {}).2.written =
    document ⟨none, "dataset"⟩ [rowElement "Member" "owner", rowElement "links" "from_id"] := by
  have horder : ∀ u, ((tableOrder {} ⟨linkStore.toStore, none⟩).result u).1 = .ok ["members", "links"] :=
    outcome_tableOrder (fun _ => []) (fun _ => rfl) (Settings.discover_eq_ok rfl (by decide) (by decide))
      (List.forall_mem_cons.2 ⟨fun _ => rfl, List.forall_mem_singleton.2 fun _ => rfl⟩) (by decide +kernel)
  have hopening : linkStore.toStore.opening 1 = .ok () := rfl
  have hclosing : linkStore.toStore.closing = .ok () := rfl
  have hlinks : ∀ u, ((tableElements ((links linkStore.toStore).planFor { domain := "links" } (linkDomain linkStore.toStore)
      linkModels) "links").result u).1 = .ok [rowElement "links" "from_id"] := fun _ => rfl
  have hmembers : ∀ u, ((tableElements ((links linkStore.toStore).planFor { domain := "links" } (linkDomain linkStore.toStore)
      linkModels) "members").result u).1 = .ok [rowElement "Member" "owner"] := fun _ => rfl
  have hwritten := written_links (by decide) horder hopening hclosing hlinks hmembers
  exact hwritten

def linkStoreInCapitals : Store := (linkStore.respelled .inCapitals).toStore

theorem written_linkStoreInCapitals : (((links linkStoreInCapitals).serve { domain := "links" }).result {}).2.written =
    document ⟨none, "dataset"⟩ [rowElement "Member" "OWNER", rowElement "links" "FROM_id"] := by
  have horder : ∀ u, ((tableOrder {} ⟨linkStoreInCapitals, none⟩).result u).1 = .ok ["MEMBERS", "LINKS"] :=
    outcome_tableOrder (fun _ => []) (fun _ => rfl) (Settings.discover_eq_ok rfl (by decide) (by decide))
      (List.forall_mem_cons.2 ⟨fun _ => rfl, List.forall_mem_singleton.2 fun _ => rfl⟩) (by decide +kernel)
  have hopening : linkStoreInCapitals.opening 1 = .ok () := rfl
  have hclosing : linkStoreInCapitals.closing = .ok () := rfl
  have hlinks : ∀ u, ((tableElements ((links linkStoreInCapitals).planFor { domain := "links" } (linkDomain linkStoreInCapitals)
      linkModels) "LINKS").result u).1 = .ok [rowElement "links" "FROM_id"] := fun _ => rfl
  have hmembers : ∀ u, ((tableElements ((links linkStoreInCapitals).planFor { domain := "links" } (linkDomain linkStoreInCapitals)
      linkModels) "MEMBERS").result u).1 = .ok [rowElement "Member" "OWNER"] := fun _ => rfl
  have hwritten := written_links (by decide) horder hopening hclosing hlinks hmembers
  exact hwritten

/-- Two stores of the same tables under two spellings are exported into two documents: the join columns of a link
table are compared with the names that attributes have resolved, and only under the name that the table is exported by. -/
theorem serve_shows_spelling :
    linkStore.toStore.WellNamed none ∧
      Respelling.inCapitals.Respells none linkStore.toStore linkStoreInCapitals ∧
      (∀ store, ((linkDomain store).loadEntities "links").result {} = (.ok linkModels, {})) ∧
      (∀ table, linkStore.toStore.Lists none table → IsNamed linkModels.1 linkModels.2 table ∧
        ∀ columns, linkStore.toStore.columns none table = .ok columns →
          ∀ c ∈ columns, RelationTables.HasSide linkModels.2 table c.name) ∧
      (((links linkStoreInCapitals).serve { domain := "links" }).result {}).2.written ≠
        (((links linkStore.toStore).serve { domain := "links" }).result {}).2.written := by
  have hrespells : Respelling.inCapitals.Respells none linkStore.toStore linkStoreInCapitals :=
    DeclaredStore.respells_of_pairwise rfl (wellNamed_links.tables _ rfl)
  refine ⟨wellNamed_links, hrespells, loads_links, fun table => hasSide_links, ?_⟩
  rw [written_linkStore, written_linkStoreInCapitals]
  decide +kernel

end Exporter
end TableDump
