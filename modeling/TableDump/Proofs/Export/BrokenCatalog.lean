import TableDump.Proofs.Export.RefusedModels
import TableDump.Proofs.Export.WholeDocument
import TableDump.Store.Declared

/-! # Broken catalogs

Exports whose metadata cannot be read.

* `Catalog.Breaks`: the listing fails with a fault of the database layer, or the references of a discovered table do.
* `Catalog.FirstFault`: the fault that an export comes upon, with the table that was asked for and the number of tables
  discovered by then. A catalog that breaks has one (`Breaks.exists_firstFault`).
* Such an export returns. Its document has no rows, and it reports and logs that fault alone
  (`serve_stops_at_catalog`). Faults that are not the database layer's are not caught (`serve_passes_foreign_faults`).
-/

namespace TableDump
open TableDump.Markup TableDump.Schema TableDump.Text
set_option autoImplicit false

/-! ## First faults -/

namespace Catalog
variable {settings : Settings} {c : Catalog}

/-- What the inspector answers when it is asked for the tables. -/
def listing (c : Catalog) : Except Fault (List String) := do
  c.store.inspect
  c.store.tables c.schema

/-- What the inspector answers when it is asked for the foreign keys of a table. -/
def referencesOf (c : Catalog) (table : String) : Except Fault (List (Option String)) := do
  c.store.inspect
  c.store.references c.schema table

/-- The listing fails with a fault of the database layer, or the references of a discovered table do, and those of no table
before it fail with another one. -/
inductive Breaks (settings : Settings) (c : Catalog) : Prop
  | listing {f : Fault} (hlisting : c.listing = .error f) (hkind : f.kind.isDatabase = true)
  | references {listed before after : List String} {table : String} {f : Fault} (hlisting : c.listing = .ok listed)
    (hdiscover : settings.discover listed = .ok (before ++ table :: after))
    (hbefore : ∀ other ∈ before, ∀ g, c.referencesOf other = .error g → g.kind.isDatabase = true)
    (hreferences : c.referencesOf table = .error f) (hkind : f.kind.isDatabase = true)

/-- The first fault that an export comes upon, the table that was asked for, and the number of tables discovered. -/
inductive FirstFault (settings : Settings) (c : Catalog) : Option String → Fault → Nat → Prop
  | listing {f : Fault} (hlisting : c.listing = .error f) (hkind : f.kind.isDatabase = true) : FirstFault settings c none f 0
  | references {listed before after : List String} {table : String} {f : Fault} (hlisting : c.listing = .ok listed)
    (hdiscover : settings.discover listed = .ok (before ++ table :: after))
    (hbefore : ∀ other ∈ before, ∃ names, c.referencesOf other = .ok names)
    (hreferences : c.referencesOf table = .error f) (hkind : f.kind.isDatabase = true) :
    FirstFault settings c (some table) f (before ++ table :: after).length

theorem Breaks.exists_firstFault (h : c.Breaks settings) : ∃ asked f n, c.FirstFault settings asked f n := by
  cases h with
  | listing hlisting hkind => exact ⟨none, _, 0, .listing hlisting hkind⟩
  | references hlisting hdiscover hbefore hreferences hkind =>
    obtain ⟨first, y, last, e, hsplit, hfirst, hy, he⟩ := exists_first_fault hbefore hreferences hkind
    rw [hsplit] at hdiscover
    exact ⟨some y, e, _, .references hlisting hdiscover hfirst hy he⟩

/-! ## Reading -/

variable {α : Type} {table : Option String} {answer : Except Fault α} {f : Fault}

theorem guarded_of_ok {a : α} (h : (c.store.inspect >>= fun _ => answer) = .ok a) : c.guarded table answer = .ok a := by
  unfold guarded
  rw [h]

theorem guarded_of_database (h : (c.store.inspect >>= fun _ => answer) = .error f) (hkind : f.kind.isDatabase = true) :
    c.guarded table answer = .error (.unreadableCatalog table f) := by
  unfold guarded
  rw [h]
  simp [hkind]

theorem guarded_of_foreign (h : (c.store.inspect >>= fun _ => answer) = .error f) (hkind : f.kind.isDatabase = false) :
    c.guarded table answer = .error f := by
  unfold guarded
  rw [h]
  simp [hkind]

theorem outcome_tables (c : Catalog) (s : Session) : (c.tables.result s).1 = c.guarded none (c.store.tables c.schema) := by
  rw [tables, Run.result_bind, Run.result_record]
  simp

theorem outcome_readReferences (c : Catalog) (table : String) (s : Session) :
    ((readReferences c.imports table).result s).1 =
      (c.guarded (some table) (c.store.references c.schema table)).map fun names =>
        (table, (distinctNames (presentNames names)).filter fun r => !sameName r table) := by
  rw [readReferences, imports, Run.result_bind, Run.result_bind, Run.result_record]
  simp only [Run.result_lift]
  cases c.guarded (some table) (c.store.references c.schema table) <;> rfl

/-- The first table whose references cannot be read ends the sorting. -/
theorem outcome_sortTables_error {before after : List String} {table : String}
    (hdistinct : (before ++ table :: after).Pairwise fun a b => sameName a b = false)
    (hbefore : ∀ other ∈ before, ∃ names, c.referencesOf other = .ok names)
    (hfault : c.guarded (some table) (c.store.references c.schema table) = .error f) (s : Session) :
    ((sortTables c.imports (before ++ table :: after)).result s).1 = .error f := by
  have hread : ∀ other ∈ before, ∀ s, ∃ b, ((readReferences c.imports other).result s).1 = .ok b := by
    intro other hother s
    obtain ⟨names, hnames⟩ := hbefore other hother
    exact ⟨_, by rw [outcome_readReferences, guarded_of_ok hnames]; rfl⟩
  have hfails : ∀ s, ((readReferences c.imports table).result s).1 = .error f := by
    intro s
    rw [outcome_readReferences, hfault]
    rfl
  rw [sortTables, distinctNames_eq_self hdistinct]
  exact Run.outcome_bind_of_error (Run.outcome_mapM_error hread hfails s) _

end Catalog

/-! ## Exports of tables -/

/-- How an export tells of the fault that ended it. -/
def stopRecord (f : Fault) : Record := ⟨.error, "While exporting database content: " ++ f.message⟩

theorem result_stopAt (n : Nat) (f : Fault) (s : Session) :
    (stopAt n f).result s = (.ok { discovered := n, stopped := some f }, s.extend [.logged (stopRecord f)]) := rfl

section
variable {settings : Settings} {p : ExportPlan} {f : Fault} {s : Session}

theorem exportTables_of_unlisted (h : (p.extractor.catalog.tables.result s).1 = .error f) (hf : isCatalogFault f = true) :
    ∃ read, (∀ e ∈ read, e.OfCatalog) ∧ (exportTables settings p).result s =
      (.ok { discovered := 0, stopped := some f }, s.extend (read ++ [.logged (stopRecord f)])) := by
  obtain ⟨outcome, read, hread, hresult⟩ := blind_catalogTables p.extractor.catalog
  rw [hresult s] at h
  cases h
  refine ⟨read, hread, ?_⟩
  rw [exportTables, Run.result_attempt_bind, hresult s]
  simp only [hf, if_true]
  rw [result_stopAt, Session.extend_extend]

theorem exportInOrder_of_unsorted {tables : List String}
    (h : ((sortTables p.extractor.catalog.imports tables).result s).1 = .error f) (hf : isCatalogFault f = true) :
    ∃ read, (∀ e ∈ read, e.OfCatalog) ∧ (exportInOrder p tables).result s =
      (.ok { discovered := tables.length, stopped := some f }, s.extend (read ++ [.logged (stopRecord f)])) := by
  obtain ⟨outcome, read, hread, hresult⟩ := blind_sortTables p.extractor.catalog tables
  rw [hresult s] at h
  cases h
  refine ⟨read, hread, ?_⟩
  rw [exportInOrder, Run.result_recover, Run.result_bind, hresult s]
  simp only [hf, if_true]
  rw [result_stopAt, Session.extend_extend]

/-- An export of tables stops at the first fault of the catalog, whatever it could read before. -/
theorem exportTables_of_firstFault {asked : Option String} {n : Nat} (h : p.extractor.catalog.FirstFault settings asked f n)
    (s : Session) : ∃ read, (∀ e ∈ read, e.OfCatalog) ∧ (exportTables settings p).result s =
      (.ok { discovered := n, stopped := some (.unreadableCatalog asked f) },
        s.extend (read ++ [.logged (stopRecord (.unreadableCatalog asked f))])) := by
  cases h with
  | listing hlisting hkind =>
    apply exportTables_of_unlisted _ rfl
    rw [Catalog.outcome_tables, Catalog.guarded_of_database hlisting hkind]
  | @references listed before after table f hlisting hdiscover hbefore hreferences hkind =>
    obtain ⟨outcome, first, hfirst, hresult⟩ := blind_catalogTables p.extractor.catalog
    have hlisted := Catalog.outcome_tables p.extractor.catalog s
    rw [hresult s, Catalog.guarded_of_ok hlisting] at hlisted
    cases hlisted
    have hunsorted := p.extractor.catalog.outcome_sortTables_error (pairwise_discover hdiscover) hbefore
      (Catalog.guarded_of_database hreferences hkind) (s.extend first)
    obtain ⟨next, hnext, hstopped⟩ := exportInOrder_of_unsorted hunsorted rfl
    refine ⟨first ++ next, List.forall_mem_append.2 ⟨hfirst, hnext⟩, ?_⟩
    rw [exportTables, Run.result_attempt_bind, hresult s]
    simp only
    rw [hdiscover, Run.lift_ok_bind, hstopped, Session.extend_extend, List.append_assoc]

/-- A fault that is neither the database layer's nor the catalog's is not caught. -/
theorem exportTables_of_foreignFault {listed before after : List String} {table : String}
    (hlisting : p.extractor.catalog.listing = .ok listed) (hdiscover : settings.discover listed = .ok (before ++ table :: after))
    (hbefore : ∀ other ∈ before, ∃ names, p.extractor.catalog.referencesOf other = .ok names)
    (hreferences : p.extractor.catalog.referencesOf table = .error f) (hkind : f.kind.isDatabase = false)
    (hcatalog : isCatalogFault f = false) (s : Session) : ((exportTables settings p).result s).1 = .error f := by
  have hlisted := Catalog.outcome_tables p.extractor.catalog s
  rw [Catalog.guarded_of_ok hlisting] at hlisted
  rw [exportTables, Run.result_attempt_bind, hlisted]
  simp only
  rw [hdiscover, Run.lift_ok_bind, exportInOrder]
  have hunsorted := p.extractor.catalog.outcome_sortTables_error (pairwise_discover hdiscover) hbefore
    (Catalog.guarded_of_foreign hreferences hkind) (p.extractor.catalog.tables.result s).2
  exact Run.outcome_recover_of_error (Run.outcome_bind_of_error hunsorted _) hcatalog

end

theorem errorRecords_catalog {read : List Event} (h : ∀ e ∈ read, e.OfCatalog) : errorRecords read = [] := by
  apply recordsWhere_eq_nil
  rintro _ he r rfl
  exact (h _ he).elim

theorem errorRecords_stopped {notices read : List Event} (hnotices : ∀ e ∈ notices, e.IsNotice) (hread : ∀ e ∈ read, e.OfCatalog)
    (f : Fault) (text : String) :
    errorRecords (notices ++ ([.opened] ++ (read ++ ([.logged (stopRecord f)] ++ [.closed, .logged ⟨.info, text⟩])))) =
      [stopRecord f] := by
  rw [errorRecords_append, errorRecords_append, errorRecords_append, errorRecords_append, errorRecords_notices hnotices,
    errorRecords_catalog hread]
  rfl

theorem countP_isOpened_notices {notices : List Event} (h : ∀ e ∈ notices, e.IsNotice) :
    notices.countP Event.isOpened = 0 := by
  apply List.countP_eq_zero.2
  intro e he
  obtain ⟨record, rfl, -⟩ := h e he
  exact Bool.false_ne_true

/-! ## Exports -/

namespace Exporter
variable {x : Exporter} {r : Request} {d : Domain} {s t : Session} {report : Report}

/-- An export that the catalog stopped reports and logs that fault and nothing else, and leaves a document without rows. -/
structure StopsAt (x : Exporter) (n : Nat) (f : Fault) (s t : Session) (report : Report) : Prop where
  discovered : report.discovered = n
  exported : report.exported = []
  failed : report.failed = []
  rowCount : report.rowCount = 0
  errors : report.errors = [f.message]
  records : errorRecords (t.since s) = [stopRecord f]
  document : ∃ root text, readRoot x.settings.rootElement = .ok root ∧ t.written = s.written ++ text ∧ HoldsRows root text []

/-- Models that load leave no errors. Over a catalog that breaks, the export then returns, and tells of the first fault. -/
theorem serve_stops_at_catalog (hd : x.domain r.domain = .ok d) (houtput : r.hasOutput = true) (hroot : x.settings.NamesRoot)
    {loading : EntityIndex × RelationTables} {notices : List Event}
    (hload : (d.loadEntities r.domain).result s = (.ok loading, s.extend notices)) (hnotices : ∀ e ∈ notices, e.IsNotice)
    (hopening : d.store.opening (s.openedCount + 1) = .ok ())
    (hclose : ∀ f, d.store.close = .error f → f.kind.isDatabase = true)
    (hbreaks : (Catalog.make d.store d.schema).Breaks x.settings) :
    ∃ asked f n report t, (Catalog.make d.store d.schema).FirstFault x.settings asked f n ∧
      (x.serve r).result s = (.ok report, t) ∧ x.StopsAt n (.unreadableCatalog asked f) s t report := by
  obtain ⟨asked, f, n, hfault⟩ := hbreaks.exists_firstFault
  obtain ⟨root, hread, hname⟩ := hroot
  obtain ⟨read, hcatalog, hbody⟩ :=
    exportTables_of_firstFault (p := x.planFor r d loading) hfault (begun (s.extend notices) root)
  have hopens : d.store.opening ((s.extend notices).openedCount + 1) = .ok () := by
    rw [Session.openedCount_extend, countP_isOpened_notices hnotices]
    exact hopening
  have hdocument := writeDocument_eq_ok_iff.2 ⟨root, _, hread, hbody, rfl⟩
  have hwritten := withConnection_eq_ok_iff.2 ⟨hopens, Store.closing_eq_ok hclose, _, hdocument, rfl⟩
  have hserve := (serve_eq_ok_iff hd).2 ⟨loading, _, _, houtput, hload, hwritten, rfl⟩
  refine ⟨asked, f, n, _, _, hfault, hserve, rfl, rfl, rfl, rfl, rfl, ?_, root, document root [], hread, ?_, ?_⟩
  · rw [← errorRecords_stopped hnotices hcatalog _ (summary r.domain { discovered := n, stopped := some (.unreadableCatalog asked f) })]
    congr 1
    apply Session.since_eq
    simp [begun, Session.extend, Session.wrote]
  · simp only [begun, Session.extend, Session.wrote, document, String.append_assoc]
    rfl
  · exact holdsRows_document (Element.wellFormed_of_name hname (QualifiedName.declarable_of_readRoot hread)).readable
      (List.forall_mem_nil _)

/-- Three tables of a ledger. The second one cannot be asked for its references, nor can the third. -/
def lockedLedger : DeclaredStore where
  tables := [{ name := "accounts", columns := [] },
    { name := "bookings", columns := [], referencesFault := some (.reported .database "locked") },
    { name := "charges", columns := [], referencesFault := some (.reported .runtime "broken") }]
  closeFault := some (.reported .operational "gone")

def ledgerDomain (store : DeclaredStore) : Domain := { store := store.toStore }

def ledgerExporter (store : DeclaredStore) : Exporter := { domains := [("ledger", ledgerDomain store)] }

theorem discover_ledger : (ledgerExporter lockedLedger).settings.discover ["accounts", "bookings", "charges"] =
    .ok (["accounts"] ++ "bookings" :: ["charges"]) :=
  Settings.discover_eq_ok rfl (by decide) (by decide)

theorem serve_stops_at_catalog_ledger : (ledgerExporter lockedLedger).settings.NamesRoot ∧
    (Catalog.make lockedLedger.toStore none).Breaks (ledgerExporter lockedLedger).settings ∧
    ∃ asked f n report t, (Catalog.make lockedLedger.toStore none).FirstFault (ledgerExporter lockedLedger).settings asked f n ∧
      ((ledgerExporter lockedLedger).serve { domain := "ledger" }).result {} = (.ok report, t) ∧
      (ledgerExporter lockedLedger).StopsAt n (.unreadableCatalog asked f) {} t report := by
  have hroot : (ledgerExporter lockedLedger).settings.NamesRoot := ⟨_, readRoot_name (by decide +kernel), by decide +kernel⟩
  have hbefore : ∀ other ∈ ["accounts"], ∀ g, (Catalog.make lockedLedger.toStore none).referencesOf other = .error g →
      g.kind.isDatabase = true := by
    refine List.forall_mem_singleton.2 ?_
    rintro g ⟨⟩
  have hbreaks : (Catalog.make lockedLedger.toStore none).Breaks (ledgerExporter lockedLedger).settings :=
    .references rfl discover_ledger hbefore rfl rfl
  have hclose : ∀ f, lockedLedger.toStore.close = .error f → f.kind.isDatabase = true := by
    rintro f ⟨⟩
    rfl
  have hd : (ledgerExporter lockedLedger).domain "ledger" = .ok (ledgerDomain lockedLedger) := rfl
  have hload : ((ledgerDomain lockedLedger).loadEntities "ledger").result {} = (.ok ({}, []), ({} : Session).extend []) := rfl
  have hopening : (ledgerDomain lockedLedger).store.opening (({} : Session).openedCount + 1) = .ok () := rfl
  have hserve := serve_stops_at_catalog (r := { domain := "ledger" }) hd rfl hroot hload (List.forall_mem_nil _) hopening hclose hbreaks
  exact ⟨hroot, hbreaks, hserve⟩

theorem outcome_exportLoaded_error {name : String} {store : Store} {p : ExportPlan} {root : QualifiedName} {f : Fault}
    (hroot : readRoot x.settings.rootElement = .ok root) (hopening : store.opening (s.openedCount + 1) = .ok ())
    (hclosing : store.closing = .ok ()) (hbody : ∀ s, ((exportTables x.settings p).result s).1 = .error f) :
    ((x.exportLoaded name store p).result s).1 = .error f := by
  obtain ⟨told, -, hresult⟩ := result_exportLoaded x name store p s
  have hends := hbody ((s.extend [.opened]).wrote (declaration ++ startTag root))
  rw [hresult, Store.result_withConnection, hopening]
  simp only
  rw [hclosing, result_writeDocument, hroot]
  simp only
  rcases hr : (exportTables x.settings p).result ((s.extend [.opened]).wrote (declaration ++ startTag root)) with ⟨o, t⟩
  rw [hr] at hends
  cases hends
  rfl

/-- Nothing can be listed, and closing fails for a reason of its own. -/
def unlistedLedger : DeclaredStore where
  tables := []
  listingFault := some (.reported .database "locked")
  closeFault := some (.reported .runtime "broken")

/-- The first table fails for a reason of its own, the second one in the database layer. -/
def mixedLedger : DeclaredStore where
  tables := [{ name := "accounts", columns := [], referencesFault := some (.reported .runtime "broken") },
    { name := "bookings", columns := [], referencesFault := some (.reported .database "locked") }]

/-- Only faults of the database layer are caught when a connection is closed and when references are read. -/
theorem serve_passes_foreign_faults :
    ((Catalog.make unlistedLedger.toStore none).listing = .error (.reported .database "locked") ∧
      unlistedLedger.toStore.opening 1 = .ok () ∧ (ledgerExporter unlistedLedger).settings.NamesRoot ∧
      (((ledgerExporter unlistedLedger).serve { domain := "ledger" }).result {}).1 = .error (.reported .runtime "broken")) ∧
    ((Catalog.make mixedLedger.toStore none).listing = .ok ["accounts", "bookings"] ∧
      (ledgerExporter mixedLedger).settings.discover ["accounts", "bookings"] = .ok ["accounts", "bookings"] ∧
      (Catalog.make mixedLedger.toStore none).referencesOf "bookings" = .error (.reported .database "locked") ∧
      mixedLedger.toStore.opening 1 = .ok () ∧ mixedLedger.toStore.closing = .ok () ∧
      (((ledgerExporter mixedLedger).serve { domain := "ledger" }).result {}).1 = .error (.reported .runtime "broken")) := by
  have hread : readRoot (.str defaultRootElement) = .ok ⟨none, "dataset"⟩ := readRoot_name (by decide +kernel)
  have hroot : (ledgerExporter unlistedLedger).settings.NamesRoot := ⟨_, hread, by decide +kernel⟩
  have hdiscover : (ledgerExporter mixedLedger).settings.discover ["accounts", "bookings"] = .ok ["accounts", "bookings"] :=
    Settings.discover_eq_ok rfl (by decide) (by decide)
  have hsplit : (ledgerExporter mixedLedger).settings.discover ["accounts", "bookings"] =
      .ok ([] ++ "accounts" :: ["bookings"]) := hdiscover
  have hlisting : (Catalog.make mixedLedger.toStore none).listing = .ok ["accounts", "bookings"] := rfl
  have haccounts : (Catalog.make mixedLedger.toStore none).referencesOf "accounts" = .error (.reported .runtime "broken") := rfl
  have hbookings : (Catalog.make mixedLedger.toStore none).referencesOf "bookings" = .error (.reported .database "locked") := rfl
  have hopening : mixedLedger.toStore.opening (({} : Session).openedCount + 1) = .ok () := rfl
  have hclosing : mixedLedger.toStore.closing = .ok () := rfl
  have hbody : ∀ s, ((exportTables (ledgerExporter mixedLedger).settings
      ((ledgerExporter mixedLedger).planFor { domain := "ledger" } (ledgerDomain mixedLedger) ({}, []))).result s).1 =
        .error (.reported .runtime "broken") :=
    exportTables_of_foreignFault hlisting hsplit (List.forall_mem_nil _) haccounts rfl rfl
  have hd : (ledgerExporter mixedLedger).domain "ledger" = .ok (ledgerDomain mixedLedger) := rfl
  have hload : (((ledgerDomain mixedLedger).loadEntities "ledger").result {}).1 = .ok ({}, []) := rfl
  refine ⟨⟨rfl, rfl, hroot, rfl⟩, hlisting, hdiscover, hbookings, hopening, hclosing, ?_⟩
  rw [serve, if_pos rfl, exportDomain_eq (r := { domain := "ledger" }) hd, Run.outcome_bind_of_ok hload]
  exact outcome_exportLoaded_error hread hopening hclosing hbody

end Exporter
end TableDump
