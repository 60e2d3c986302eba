import Mathlib.Data.List.Nodup
import TableDump.Proofs.Export.ServedExport

/-! # What an export accounts for

* `ExportPlan.Yields`: elements that stand for the rows extracted from a table, one for each and in their
  order, in the course of an export.
* `Accounts`: report, document and log of an export tell the same story about the tables of an order. Each
  table was exported or failed; the document holds the rows of the exported ones; each failed one has an
  error and a record.
* Whatever fails, an export that returned accounts for the tables in the order of reference
  (`serve_accounts`).
-/

namespace TableDump
open TableDump.Markup TableDump.Schema TableDump.Text
set_option autoImplicit false

def ExportPlan.Yields (p : ExportPlan) (s t : Session) (table : String) (block : List Element) : Prop :=
  ∃ u v extracted, (p.extractor.extract p.entities p.relations p.threshold table).result u = (.ok extracted, v) ∧
    s.events <+: u.events ∧ v.events <+: t.events ∧
    List.Forall₂ (fun row e => buildElement table extracted.exportedName row = .ok e) extracted.rows block

structure Accounts (p : ExportPlan) (root : QualifiedName) (order : List String) (loaded t : Session)
    (report : Report) : Prop where
  discovered : report.discovered = order.length
  nodup : order.Nodup
  exported : report.exported.Sublist order
  failed : report.failed.Sublist order
  disjoint : report.exported.Disjoint report.failed
  perm : (report.exported ++ report.failed).Perm order
  children : ∃ blocks, List.Forall₂ (p.Yields loaded t) report.exported blocks ∧
    t.written = loaded.written ++ document root blocks.flatten ∧ report.rowCount = blocks.flatten.length
  errors : List.Forall₂ (fun table e => ∃ text, e = table ++ ": " ++ text) report.failed report.errors
  records : failureRecords (t.since loaded) = report.errors.map failureRecord
  success : report.success = true ↔ report.failed = []

/-! ## Reports -/

namespace Report
variable (r : Report)

def blocks : List (List Element) := (r.outcomes.filter TableOutcome.isExported).map TableOutcome.elements

theorem exported_sublist : r.exported.Sublist (r.outcomes.map TableOutcome.table) := List.filter_sublist.map _

theorem failed_sublist : r.failed.Sublist (r.outcomes.map TableOutcome.table) := List.filter_sublist.map _

theorem perm_exported_failed : (r.exported ++ r.failed).Perm (r.outcomes.map TableOutcome.table) := by
  have hperm : (r.outcomes.filter TableOutcome.isExported ++ r.outcomes.filter fun o => !o.isExported).Perm
      r.outcomes := by simpa using List.filter_append_perm TableOutcome.isExported r.outcomes
  rw [exported, failed, ← List.map_append]
  exact hperm.map _

theorem elements_eq_flatten : r.elements = r.blocks.flatten := by
  rw [elements, blocks, ← List.flatMap_def]
  induction r.outcomes with
  | nil => rfl
  | cons o rest ih =>
    rw [List.flatMap_cons, ih, List.filter_cons]
    split
    · rw [List.flatMap_cons]
    · next hfailed =>
      obtain ⟨table, outcome⟩ := o
      cases outcome with
      | ok es => exact absurd rfl hfailed
      | error f => rfl

variable {r}

theorem forall₂_failed_errors (h : r.stopped = none) :
    List.Forall₂ (fun table e => ∃ text, e = table ++ ": " ++ text) r.failed r.errors := by
  rw [failed, errors, h, Option.map_none, Option.toList_none, List.append_nil]
  induction r.outcomes with
  | nil => exact .nil
  | cons o rest ih =>
    obtain ⟨table, outcome⟩ := o
    cases outcome with
    | ok es => exact ih
    | error f => exact .cons ⟨f.message, rfl⟩ ih

theorem success_iff (h : r.stopped = none) : r.success = true ↔ r.failed = [] := by
  have hlength := (forall₂_failed_errors h).length_eq
  rw [success, List.isEmpty_iff, ← List.length_eq_zero_iff, ← hlength, List.length_eq_zero_iff]

end Report

/-! ## Blocks -/

/-- The elements of a table stand for its rows. -/
theorem yields_of_tableElements {p : ExportPlan} {table : String} {s t u v : Session} {es : List Element}
    (h : (tableElements p table).result u = (.ok es, v)) (hu : s.events <+: u.events) (hv : v.events <+: t.events) :
    p.Yields s t table es := by
  obtain ⟨extracted, w, hextract, hbuild⟩ := Run.bind_eq_ok_iff.1 h
  obtain ⟨hrows, rfl⟩ := Run.lift_eq_ok_iff.1 hbuild
  exact ⟨u, v, extracted, hextract, hu, hv, forall₂_of_mapM_ok hrows⟩

theorem Exports.yields {p : ExportPlan} {s t : Session} {r : Report} (h : Exports p s r.outcomes t) :
    List.Forall₂ (p.Yields s t) r.exported r.blocks := by
  rw [Report.exported, Report.blocks, List.forall₂_map_left_iff, List.forall₂_map_right_iff, List.forall₂_same]
  intro o ho
  obtain ⟨hmem, hexported⟩ := List.mem_filter.1 ho
  obtain ⟨u, v, htable, hu, hv⟩ := h.of_mem hmem
  obtain ⟨table, outcome⟩ := o
  cases outcome with
  | error f => cases hexported
  | ok es => exact yields_of_tableElements htable hu hv

section
variable {p : ExportPlan} {s t : Session} {r : Report} {ok : String → Bool}

/-- Whether tables are exported, when that does not depend on the session. -/
theorem Exports.isExported_eq (h : Exports p s r.outcomes t)
    (hok : ∀ table ∈ r.outcomes.map TableOutcome.table, ∀ u, ((tableElements p table).result u).1.isOk = ok table)
    {o : TableOutcome} (ho : o ∈ r.outcomes) : o.isExported = ok o.table := by
  obtain ⟨u, v, htable, _⟩ := h.of_mem ho
  rw [← hok o.table (List.mem_map_of_mem ho) u, htable]
  rfl

theorem Exports.exported_eq (h : Exports p s r.outcomes t)
    (hok : ∀ table ∈ r.outcomes.map TableOutcome.table, ∀ u, ((tableElements p table).result u).1.isOk = ok table) :
    r.exported = (r.outcomes.map TableOutcome.table).filter ok := by
  rw [Report.exported, List.filter_map]
  exact congrArg _ (List.filter_congr fun o ho => h.isExported_eq hok ho)

theorem Exports.failed_eq (h : Exports p s r.outcomes t)
    (hok : ∀ table ∈ r.outcomes.map TableOutcome.table, ∀ u, ((tableElements p table).result u).1.isOk = ok table) :
    r.failed = (r.outcomes.map TableOutcome.table).filter fun table => !ok table := by
  rw [Report.failed, List.filter_map]
  exact congrArg _ (List.filter_congr fun o ho => congrArg not (h.isExported_eq hok ho))

end

theorem ExportPlan.Yields.mono {p : ExportPlan} {s s' t t' : Session} {table : String} {block : List Element}
    (h : p.Yields s t table block) (hs : s'.events <+: s.events) (ht : t.events <+: t'.events) :
    p.Yields s' t' table block := by
  obtain ⟨u, v, extracted, hextract, hu, hv, hrows⟩ := h
  exact ⟨u, v, extracted, hextract, hs.trans hu, hv.trans ht, hrows⟩

/-! ## Served exports -/

theorem failureRecords_catalog {read : List Event} (h : ∀ e ∈ read, e.OfCatalog) : failureRecords read = [] := by
  refine failureRecords_eq_nil fun e he r hr => ?_
  subst hr
  exact (h _ he).elim

theorem nodup_of_tableOrder {settings : Settings} {c : Catalog} {s t : Session} {order : List String}
    (h : (tableOrder settings c).result s = (.ok order, t)) : order.Nodup := by
  obtain ⟨listed, tables, u, _, hallowed, _, hperm⟩ := steps_of_tableOrder h
  refine hperm.nodup_iff.2 ((pairwise_discover hallowed).imp fun {a b} hab heq => ?_)
  rw [heq, sameName_refl] at hab
  cases hab

namespace Exporter

namespace Course
variable {x : Exporter} {r : Request} {d : Domain} {s t : Session} {order : List String} {report : Report}

theorem records (c : x.Course r d s order report t) :
    failureRecords (t.since c.loaded) = report.errors.map failureRecord := by
  obtain ⟨added, _, hadded, hevents⟩ := c.events
  have hopened : failureRecords [Event.opened] = [] := rfl
  have hsummary : failureRecords [.closed, .logged ⟨.info, summary r.domain report⟩] = [] := rfl
  rw [Session.since_eq hevents, ← List.singleton_append, failureRecords_append, failureRecords_append, failureRecords_append,
    hopened, failureRecords_catalog c.ofCatalog, hadded, hsummary, Report.errors, c.stopped]
  simp

theorem yields (c : x.Course r d s order report t) :
    List.Forall₂ ((x.planFor r d c.loading).Yields c.loaded t) report.exported report.blocks := by
  have hbegun : c.loaded.events <+: ((begun c.loaded c.root).extend c.read).events := by
    rw [Session.events_extend, begun]
    exact (List.prefix_append _ _).trans (List.prefix_append _ _)
  have hended : c.last.events <+: t.events := by
    have hends : t.events = (ended c.last c.root r.domain report).events := congrArg Session.events c.ends
    rw [hends]
    exact List.prefix_append _ _
  exact c.exports.yields.imp fun table block hyields => hyields.mono hbegun hended

theorem children (c : x.Course r d s order report t) :
    ∃ blocks, List.Forall₂ ((x.planFor r d c.loading).Yields c.loaded t) report.exported blocks ∧
      t.written = c.loaded.written ++ document c.root blocks.flatten ∧ report.rowCount = blocks.flatten.length := by
  refine ⟨report.blocks, c.yields, ?_, ?_⟩
  · rw [← report.elements_eq_flatten, c.written]
  · rw [← report.elements_eq_flatten, Report.rowCount]

end Course

/-- An export that returned, when the order of the tables can be found, accounts for all of them. -/
theorem serve_accounts {x : Exporter} {r : Request} {d : Domain} (hd : x.domain r.domain = .ok d) {s t : Session}
    {report : Report} (hserve : (x.serve r).result s = (.ok report, t)) {order : List String} {u : Session}
    (horder : ((tableOrder x.settings (x.extractor d).catalog).result u).1 = .ok order) :
    ∃ loading loaded root, (d.loadEntities r.domain).result s = (.ok loading, loaded) ∧
      readRoot x.settings.rootElement = .ok root ∧
      Accounts (x.planFor r d loading) root order loaded t report := by
  obtain ⟨c⟩ := course_of_serve hd hserve horder
  refine ⟨c.loading, c.loaded, c.root, c.loads, c.readsRoot, ?_⟩
  have hnodup := nodup_of_tableOrder c.orders
  have hperm := report.perm_exported_failed
  rw [c.tables] at hperm
  exact {
    discovered := c.discovered
    nodup := hnodup
    exported := c.tables ▸ report.exported_sublist
    failed := c.tables ▸ report.failed_sublist
    disjoint := List.disjoint_of_nodup_append (hperm.nodup_iff.2 hnodup)
    perm := hperm
    children := c.children
    errors := Report.forall₂_failed_errors c.stopped
    records := c.records
    success := Report.success_iff c.stopped }

/-- Three tables, one of which refers to another one, and one of which cannot be read. -/
def shopStore : Store where
  tables _ := .ok ["customers", "notes", "orders"]
  references _ table := .ok (if table = "orders" then [some "customers"] else [])
  key _ _ := .ok [some "id"]
  columns _ table := if table = "notes" then .error (.reported .database "locked") else .ok [⟨"id", .untyped⟩]
  rows _ := .ok [[.integer 1], [.integer 2]]

def shopDomain : Domain := { store := shopStore }

def shop : Exporter := { domains := [("shop", shopDomain)] }

theorem order_shop (s : Session) :
    ((tableOrder shop.settings (shop.extractor shopDomain).catalog).result s).1 = .ok ["notes", "customers", "orders"] := by
  have hdiscover : shop.settings.discover ["customers", "notes", "orders"] = .ok ["customers", "notes", "orders"] :=
    Settings.discover_eq_ok rfl (by decide) (by decide)
  refine outcome_tableOrder (fun table => if table = "orders" then ["customers"] else []) (fun _ => rfl)
    hdiscover ?_ (by decide +kernel) s
  rw [List.forall_mem_cons, List.forall_mem_cons, List.forall_mem_singleton]
  exact ⟨fun v => rfl, fun v => rfl, fun v => rfl⟩

theorem loads_shop : (shopDomain.loadEntities "shop").result {} = (.ok ({}, []), {}) := rfl

theorem course_shop : ∃ report t,
    Nonempty (shop.Course { domain := "shop" } shopDomain {} ["notes", "customers", "orders"] report t) :=
  exists_course rfl loads_shop rfl rfl rfl (order_shop {})

theorem exported_shop {report : Report} {t : Session}
    (c : shop.Course { domain := "shop" } shopDomain {} ["notes", "customers", "orders"] report t) :
    report.exported = ["customers", "orders"] := by
  have hread : ∀ table ∈ ["notes", "customers", "orders"], ∀ u, ((tableElements
      (shop.planFor { domain := "shop" } shopDomain ({}, [])) table).result u).1.isOk = (table != "notes") := by
    rw [List.forall_mem_cons, List.forall_mem_cons, List.forall_mem_singleton]
    exact ⟨fun u => rfl, fun u => rfl, fun u => rfl⟩
  rw [← c.tables, ← c.loading_eq loads_shop] at hread
  rw [c.exports.exported_eq hread, c.tables]
  decide

theorem serve_accounts_shop : ∃ report t loading loaded root,
    (shop.serve { domain := "shop" }).result {} = (.ok report, t) ∧ report.exported = ["customers", "orders"] ∧
      Accounts (shop.planFor { domain := "shop" } shopDomain loading) root ["notes", "customers", "orders"] loaded t
        report := by
  obtain ⟨report, t, ⟨c⟩⟩ := course_shop
  have hserve : (shop.serve { domain := "shop" }).result {} = (.ok report, t) := c.serves rfl
  obtain ⟨loading, loaded, root, _, _, haccounts⟩ := serve_accounts (d := shopDomain) rfl hserve (order_shop {})
  exact ⟨report, t, loading, loaded, root, hserve, exported_shop c, haccounts⟩

end Exporter
end TableDump
