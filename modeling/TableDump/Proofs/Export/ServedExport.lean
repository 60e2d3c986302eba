import TableDump.Proofs.Export.ExportLoop
import TableDump.Proofs.Schema.RecursiveTraversal
import TableDump.Proofs.Schema.ReferenceOrder

/-! # Exports that were served

An export that returned, taken apart.

* `tableOrder`: the tables of a catalog that settings allow, in the order of reference. What it gives does
  not depend on the session; where all can be read, it is the recursion over the references (`outcome_tableOrder`).
* An export of tables whose order can be found goes through all of them (`exports_of_tableOrder`); one that
  has an outcome for some table has found the order (`tableOrder_of_outcomes`).
* `serve_eq_ok_iff`: the models are loaded, one connection is opened and closed around the document, and a
  summary is logged.
-/

namespace TableDump
open TableDump.Markup TableDump.Schema TableDump.Text
set_option autoImplicit false

/-! ## Order of tables -/

namespace Event

def OfCatalog : Event → Prop
  | tablesListed | importsRead _ => True
  | _ => False

end Event

def tableOrder (settings : Settings) (c : Catalog) : Run (List String) := do
  let listed ← c.tables
  sortTables c.imports (← Run.lift (settings.discover listed))

section
variable {settings : Settings} {c : Catalog} {s t : Session}

theorem blind_catalogTables (c : Catalog) : Run.Blind Event.OfCatalog c.tables :=
  (Run.blind_record trivial).bind fun _ => Run.blind_lift _

theorem blind_imports (c : Catalog) (table : String) : Run.Blind Event.OfCatalog (c.imports table) :=
  (Run.blind_record trivial).bind fun _ => Run.blind_lift _

theorem blind_sortTables (c : Catalog) (tables : List String) :
    Run.Blind Event.OfCatalog (sortTables c.imports tables) := by
  refine Run.Blind.bind (Run.blind_mapM _ fun table _ => ?_) fun _ => Run.blind_pure _
  exact (blind_imports c table).bind fun _ => Run.blind_pure _

theorem blind_tableOrder (settings : Settings) (c : Catalog) : Run.Blind Event.OfCatalog (tableOrder settings c) :=
  (blind_catalogTables c).bind fun _ => (Run.blind_lift _).bind fun tables => blind_sortTables c tables

theorem pairwise_discover {listed tables : List String} (h : settings.discover listed = .ok tables) :
    tables.Pairwise fun a b => sameName a b = false := by
  rw [Settings.discover] at h
  cases hallowed : settings.allowed listed with
  | error f =>
    rw [hallowed] at h
    cases h
  | ok names =>
    rw [hallowed] at h
    cases h
    refine (pairwise_distinctNames names).perm (List.mergeSort_perm _ _).symm fun {a b} hab => ?_
    rw [sameName_comm]
    exact hab

/-- Allowed tables of different names are discovered in their order. -/
theorem Settings.discover_eq_ok {listed tables : List String} (hallowed : settings.allowed listed = .ok tables)
    (hdistinct : tables.Pairwise fun a b => sameName a b = false)
    (hsorted : tables.Pairwise fun a b => decide (lower a ≤ lower b) = true) : settings.discover listed = .ok tables := by
  rw [discover, hallowed, Except.map, distinctNames_eq_self hdistinct, sortByLower, List.mergeSort_of_pairwise hsorted]

theorem outcome_tableOrder {listed tables order : List String} (referenced : String → List String)
    (hlisted : ∀ s, (c.tables.result s).1 = .ok listed) (hdiscover : settings.discover listed = .ok tables)
    (hread : ∀ t ∈ tables, ∀ s, ((c.imports t).result s).1 = .ok (referenced t))
    (horder : recursiveOrder (withoutSelf (referencesOf referenced tables)) = order) (s : Session) :
    ((tableOrder settings c).result s).1 = .ok order := by
  rw [tableOrder, Run.outcome_bind_of_ok (hlisted s), hdiscover, Run.lift_ok_bind,
    outcome_sortTables c.imports referenced tables hread, sortReferences_eq_recursiveOrder, horder]

/-- An order comes from a listing and the tables that are allowed of it, which it rearranges. -/
theorem steps_of_tableOrder {order : List String} (h : (tableOrder settings c).result s = (.ok order, t)) :
    ∃ listed tables u, c.tables.result s = (.ok listed, u) ∧ settings.discover listed = .ok tables ∧
      (sortTables c.imports tables).result u = (.ok order, t) ∧ order.Perm tables := by
  obtain ⟨listed, u, hlisted, h⟩ := Run.bind_eq_ok_iff.1 h
  obtain ⟨tables, v, htables, hsorted⟩ := Run.bind_eq_ok_iff.1 h
  obtain ⟨hallowed, rfl⟩ := Run.lift_eq_ok_iff.1 htables
  exact ⟨listed, tables, v, hlisted, hallowed, hsorted, perm_sortTables (pairwise_discover hallowed) hsorted⟩

end

/-! ## Tables in order -/

section
variable {settings : Settings} {p : ExportPlan} {s t : Session}

theorem result_exportInOrder {tables order : List String} {u : Session}
    (h : (sortTables p.extractor.catalog.imports tables).result s = (.ok order, u)) {outcomes : List TableOutcome}
    (htables : outcomes.map TableOutcome.table = order) (hexports : Exports p u outcomes t) :
    (exportInOrder p tables).result s = (.ok { discovered := tables.length, outcomes }, t) := by
  have hloop := hexports.result
  rw [htables] at hloop
  rw [exportInOrder, Run.result_recover, Run.result_bind, h]
  simp only
  rw [Run.result_bind, hloop]
  rfl

theorem exports_of_tableOrder {order : List String} {u : Session}
    (h : (tableOrder settings p.extractor.catalog).result s = (.ok order, u)) {outcomes : List TableOutcome}
    (htables : outcomes.map TableOutcome.table = order) (hexports : Exports p u outcomes t) :
    (exportTables settings p).result s = (.ok { discovered := order.length, outcomes }, t) := by
  obtain ⟨listed, tables, v, hlisted, hallowed, hsorted, hperm⟩ := steps_of_tableOrder h
  rw [exportTables, Run.result_attempt_bind, hlisted]
  simp only
  rw [hallowed, Run.lift_ok_bind, result_exportInOrder hsorted htables hexports, hperm.length_eq]

theorem outcomes_stopAt {n : Nat} {f : Fault} {report : Report} (h : (stopAt n f).result s = (.ok report, t)) :
    report.outcomes = [] := by
  cases h
  rfl

/-- An export of tables with some outcome has found their order. -/
theorem tableOrder_of_outcomes {report : Report} (h : (exportTables settings p).result s = (.ok report, t))
    (houtcomes : report.outcomes ≠ []) :
    ∃ order u, (tableOrder settings p.extractor.catalog).result s = (.ok order, u) := by
  rw [exportTables, Run.result_attempt_bind] at h
  cases hlisted : (p.extractor.catalog.tables.result s).1 with
  | error f =>
    rw [hlisted] at h
    simp only at h
    split at h
    · exact absurd (outcomes_stopAt h) houtcomes
    · cases h
  | ok listed =>
    rw [hlisted] at h
    obtain ⟨tables, v, hallowed, h⟩ := Run.bind_eq_ok_iff.1 h
    rcases Run.recover_eq_ok_iff.1 h with hsorted | ⟨f, w, _, _, hstopped⟩
    · obtain ⟨order, w, hsorted, _⟩ := Run.bind_eq_ok_iff.1 hsorted
      refine ⟨order, w, Run.bind_eq_ok_iff.2 ⟨listed, _, Prod.ext hlisted rfl, ?_⟩⟩
      exact Run.bind_eq_ok_iff.2 ⟨tables, v, hallowed, hsorted⟩
    · exact absurd (outcomes_stopAt hstopped) houtcomes

theorem course_of_tableOrder {order : List String}
    (h : ((tableOrder settings p.extractor.catalog).result s).1 = .ok order) :
    ∃ read outcomes t, (∀ e ∈ read, e.OfCatalog) ∧ outcomes.map TableOutcome.table = order ∧
      (tableOrder settings p.extractor.catalog).result s = (.ok order, s.extend read) ∧
      Exports p (s.extend read) outcomes t := by
  obtain ⟨outcome, read, hread, hresult⟩ := blind_tableOrder settings p.extractor.catalog
  have horder := hresult s
  rw [hresult s] at h
  cases h
  obtain ⟨outcomes, t, htables, hexports⟩ := exists_exports p order (s.extend read)
  exact ⟨read, outcomes, t, hread, htables, horder, hexports⟩

end

/-! ## Documents -/

theorem writeDocument_eq_ok_iff {name : Json} {body : Run Report} {s t : Session} {report : Report} :
    (writeDocument name body).result s = (.ok report, t) ↔ ∃ root u, readRoot name = .ok root ∧
      body.result (s.wrote (declaration ++ startTag root)) = (.ok report, u) ∧
      t = u.wrote (rowLines report.elements ++ "\n" ++ endTag root) := by
  have hbegun : ∀ root, { { s with written := s.written ++ declaration } with
      written := s.written ++ declaration ++ startTag root } = s.wrote (declaration ++ startTag root) := by
    intro root
    rw [Session.wrote, String.append_assoc]
  rw [writeDocument, Run.result_bind, Run.result_write]
  simp only
  rw [Run.bind_eq_ok_iff]
  constructor
  · rintro ⟨root, v, hread, h⟩
    obtain ⟨hroot, rfl⟩ := Run.lift_eq_ok_iff.1 hread
    rw [Run.result_bind, Run.result_write] at h
    simp only at h
    rw [hbegun, Run.result_attempt_bind] at h
    rcases hbody : body.result (s.wrote (declaration ++ startTag root)) with ⟨f | made, u⟩
    · rw [hbody] at h
      cases h
    · rw [hbody] at h
      cases h
      exact ⟨root, u, hroot, hbody, rfl⟩
  · rintro ⟨root, u, hroot, hbody, rfl⟩
    refine ⟨root, _, Run.lift_eq_ok_iff.2 ⟨hroot, rfl⟩, ?_⟩
    rw [Run.result_bind, Run.result_write]
    simp only
    rw [hbegun, Run.result_attempt_bind, hbody]
    rfl

theorem withConnection_eq_ok_iff {α : Type} {store : Store} {body : Run α} {s t : Session} {a : α} :
    (store.withConnection body).result s = (.ok a, t) ↔
      store.opening (s.openedCount + 1) = .ok () ∧ store.closing = .ok () ∧
        ∃ u, body.result (s.extend [.opened]) = (.ok a, u) ∧ t = u.extend [.closed] := by
  rw [Store.result_withConnection]
  cases hopening : store.opening (s.openedCount + 1) with
  | error f => simp
  | ok _ =>
    cases hclosing : store.closing with
    | error f => simp
    | ok _ =>
      rcases hbody : body.result (s.extend [.opened]) with ⟨f | b, u⟩
      · simp
      · simp [eq_comm]

/-! ## Exports -/

namespace Exporter

/-- The plan by which a request is served. -/
def planFor (x : Exporter) (r : Request) (d : Domain) (loading : EntityIndex × RelationTables) : ExportPlan :=
  x.plan d (r.threshold.getD x.settings.threshold) loading.1 loading.2

theorem extractor_planFor (x : Exporter) (r : Request) (d : Domain) (loading : EntityIndex × RelationTables) :
    (x.planFor r d loading).extractor = x.extractor d := rfl

/-- What follows when the models of a domain are loaded. -/
def exportLoaded (x : Exporter) (name : String) (store : Store) (p : ExportPlan) : Run Report := do
  let report ← Run.recover isConnectionFault (connectionLost name)
    (store.withConnection (writeDocument x.settings.rootElement (exportTables x.settings p)))
  Run.log .info (summary name report)
  return report

theorem exportDomain_eq {x : Exporter} {r : Request} {d : Domain} (hx : x.domain r.domain = .ok d) : x.exportDomain r.domain r.threshold =
    d.loadEntities r.domain >>= fun loading => x.exportLoaded r.domain d.store (x.planFor r d loading) := by
  rw [exportDomain, hx, Run.lift_ok_bind]
  rfl

/-- Logging a lost connection does not give a report. -/
theorem recover_connectionLost_eq_ok_iff {name : String} {body : Run Report} {s t : Session} {report : Report} :
    (Run.recover isConnectionFault (connectionLost name) body).result s = (.ok report, t) ↔
      body.result s = (.ok report, t) := by
  rw [Run.recover_eq_ok_iff]
  constructor
  · rintro (h | ⟨f, u, _, _, h⟩)
    · exact h
    · simp [connectionLost, Run.result_bind] at h
  · exact Or.inl

theorem serve_eq_ok_iff {x : Exporter} {r : Request} {d : Domain} (hd : x.domain r.domain = .ok d) {s t : Session}
    {report : Report} : (x.serve r).result s = (.ok report, t) ↔
      ∃ loading loaded v, r.hasOutput = true ∧ (d.loadEntities r.domain).result s = (.ok loading, loaded) ∧
        (d.store.withConnection (writeDocument x.settings.rootElement
          (exportTables x.settings (x.planFor r d loading)))).result loaded = (.ok report, v) ∧
        t = v.extend [.logged ⟨.info, summary r.domain report⟩] := by
  rw [serve]
  cases hout : r.hasOutput with
  | false => simp
  | true =>
    rw [if_pos rfl, exportDomain, hd, Run.lift_ok_bind, Run.bind_eq_ok_iff]
    constructor
    · rintro ⟨loading, loaded, hload, h⟩
      obtain ⟨made, v, hwritten, h⟩ := Run.bind_eq_ok_iff.1 h
      cases h
      exact ⟨loading, loaded, v, rfl, hload, recover_connectionLost_eq_ok_iff.1 hwritten, rfl⟩
    · rintro ⟨loading, loaded, v, -, hload, hwritten, rfl⟩
      exact ⟨loading, loaded, hload,
        Run.bind_eq_ok_iff.2 ⟨report, v, recover_connectionLost_eq_ok_iff.2 hwritten, rfl⟩⟩

/-- The session in which the catalog is read. -/
def begun (loaded : Session) (root : QualifiedName) : Session :=
  (loaded.extend [.opened]).wrote (declaration ++ startTag root)

theorem openedCount_begun (loaded : Session) (root : QualifiedName) :
    (begun loaded root).openedCount = loaded.openedCount + 1 := Session.openedCount_extend loaded [.opened]

/-- The session that is left after the last table. -/
def ended (last : Session) (root : QualifiedName) (name : String) (report : Report) : Session :=
  (last.wrote (rowLines report.elements ++ "\n" ++ endTag root)).extend [.closed, .logged ⟨.info, summary name report⟩]

/-- An export that went through the tables of an order. -/
structure Course (x : Exporter) (r : Request) (d : Domain) (s : Session) (order : List String) (report : Report)
    (t : Session) where
  loading : EntityIndex × RelationTables
  loaded : Session
  root : QualifiedName
  /-- what reading the catalog left -/
  read : List Event
  last : Session
  hasOutput : r.hasOutput = true
  loads : (d.loadEntities r.domain).result s = (.ok loading, loaded)
  opens : d.store.opening (loaded.openedCount + 1) = .ok ()
  closes : d.store.closing = .ok ()
  readsRoot : readRoot x.settings.rootElement = .ok root
  ofCatalog : ∀ e ∈ read, e.OfCatalog
  orders : (tableOrder x.settings (x.planFor r d loading).extractor.catalog).result (begun loaded root) =
    (.ok order, (begun loaded root).extend read)
  tables : report.outcomes.map TableOutcome.table = order
  discovered : report.discovered = order.length
  stopped : report.stopped = none
  exports : Exports (x.planFor r d loading) ((begun loaded root).extend read) report.outcomes last
  ends : t = ended last root r.domain report

variable {x : Exporter} {r : Request} {d : Domain} {s t : Session} {order : List String} {report : Report}

namespace Course

theorem loading_eq (c : x.Course r d s order report t) {loading : EntityIndex × RelationTables} {loaded : Session}
    (h : (d.loadEntities r.domain).result s = (.ok loading, loaded)) : c.loading = loading :=
  Except.ok.inj (Prod.mk.inj (c.loads.symm.trans h)).1

theorem exportsTables (c : x.Course r d s order report t) :
    (exportTables x.settings (x.planFor r d c.loading)).result (begun c.loaded c.root) = (.ok report, c.last) := by
  have hreport : { discovered := order.length, outcomes := report.outcomes } = report := by
    rw [← c.discovered, ← c.stopped]
  have htables := exports_of_tableOrder c.orders c.tables c.exports
  exact htables.trans (congrArg (fun made => (Except.ok made, c.last)) hreport)

theorem serves (c : x.Course r d s order report t) (hd : x.domain r.domain = .ok d) :
    (x.serve r).result s = (.ok report, t) := by
  have hdocument := writeDocument_eq_ok_iff.2 ⟨c.root, c.last, c.readsRoot, c.exportsTables, rfl⟩
  have hwritten := withConnection_eq_ok_iff.2 ⟨c.opens, c.closes, _, hdocument, rfl⟩
  refine (serve_eq_ok_iff hd).2 ⟨c.loading, c.loaded, _, c.hasOutput, c.loads, hwritten, ?_⟩
  rw [Session.extend_extend]
  exact c.ends

theorem written (c : x.Course r d s order report t) :
    t.written = c.loaded.written ++ document c.root report.elements := by
  obtain ⟨added, hlast, _⟩ := c.exports.leaves
  refine (congrArg Session.written c.ends).trans ?_
  rw [hlast, document]
  simp only [ended, begun, Session.wrote, Session.extend, String.append_assoc]

/-- What happens from the loading of the models on. -/
theorem events (c : x.Course r d s order report t) :
    ∃ added, c.last = ((begun c.loaded c.root).extend c.read).extend added ∧
      failureRecords added = (report.outcomes.filterMap TableOutcome.error?).map failureRecord ∧
      t.events = c.loaded.events ++
        (.opened :: (c.read ++ (added ++ [.closed, .logged ⟨.info, summary r.domain report⟩]))) := by
  obtain ⟨added, hlast, _, hrecords⟩ := c.exports.leaves
  refine ⟨added, hlast, hrecords, (congrArg Session.events c.ends).trans ?_⟩
  rw [hlast]
  simp only [ended, begun, Session.wrote, Session.extend, List.append_assoc, List.cons_append, List.nil_append]

end Course

/-- An export whose models load, whose connection opens and closes, whose root can be read and whose order
is found goes through the tables of the order. -/
theorem exists_course {loading : EntityIndex × RelationTables} {loaded u : Session} {root : QualifiedName}
    (hout : r.hasOutput = true) (hload : (d.loadEntities r.domain).result s = (.ok loading, loaded))
    (hopening : d.store.opening (loaded.openedCount + 1) = .ok ()) (hclosing : d.store.closing = .ok ())
    (hroot : readRoot x.settings.rootElement = .ok root)
    (horder : ((tableOrder x.settings (x.extractor d).catalog).result u).1 = .ok order) :
    ∃ report t, Nonempty (x.Course r d s order report t) := by
  rw [(blind_tableOrder x.settings (x.extractor d).catalog).outcome_eq u (begun loaded root),
    ← x.extractor_planFor r d loading] at horder
  obtain ⟨read, outcomes, last, hread, houtcomes, hfound, hexports⟩ := course_of_tableOrder horder
  exact ⟨{ discovered := order.length, outcomes }, _, ⟨loading, loaded, root, read, last, hout, hload, hopening,
    hclosing, hroot, hread, hfound, houtcomes, rfl, rfl, hexports, rfl⟩⟩

theorem course_of_serve (hd : x.domain r.domain = .ok d) (hserve : (x.serve r).result s = (.ok report, t)) {u : Session}
    (horder : ((tableOrder x.settings (x.extractor d).catalog).result u).1 = .ok order) :
    Nonempty (x.Course r d s order report t) := by
  obtain ⟨loading, loaded, v, hout, hload, hwritten, _⟩ := (serve_eq_ok_iff hd).1 hserve
  obtain ⟨hopening, hclosing, v', hdocument, _⟩ := withConnection_eq_ok_iff.1 hwritten
  obtain ⟨root, _, hroot, _, _⟩ := writeDocument_eq_ok_iff.1 hdocument
  obtain ⟨made, left, ⟨c⟩⟩ := exists_course (u := u) hout hload hopening hclosing hroot horder
  cases hserve.symm.trans (c.serves hd)
  exact ⟨c⟩

/-- An export with an outcome for some table has gone through the tables of an order. -/
theorem course_of_outcomes (hd : x.domain r.domain = .ok d) (hserve : (x.serve r).result s = (.ok report, t))
    (houtcomes : report.outcomes ≠ []) : ∃ order, Nonempty (x.Course r d s order report t) := by
  obtain ⟨loading, loaded, v, _, _, hwritten, _⟩ := (serve_eq_ok_iff hd).1 hserve
  obtain ⟨_, _, v', hdocument, _⟩ := withConnection_eq_ok_iff.1 hwritten
  obtain ⟨root, _, _, htables, _⟩ := writeDocument_eq_ok_iff.1 hdocument
  obtain ⟨order, u, horder⟩ := tableOrder_of_outcomes htables houtcomes
  rw [extractor_planFor] at horder
  exact ⟨order, course_of_serve hd hserve (congrArg Prod.fst horder)⟩

end Exporter
end TableDump
