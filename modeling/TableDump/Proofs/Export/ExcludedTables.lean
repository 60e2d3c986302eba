import TableDump.Proofs.Export.ExportRun

/-! # Excluded tables

* `Settings.Excludes`: the tables that begin, in upper case, with an excluded prefix. Settings allow none of them
  (`not_excludes_of_allows`).
* `Event.ReadsOnly A`: an event reads metadata and rows of tables that satisfy `A` only. Whatever a run reads, it reads
  of allowed tables (`leaves_serve`), also when an allowed table refers to an excluded one.
* `Exporter.Spares`: a run leaves a table alone. Every run spares every excluded table (`serve_spares_excluded`).
-/

namespace TableDump
open TableDump.Markup TableDump.Schema TableDump.Text
set_option autoImplicit false

/-! ## Prefixes -/

namespace Settings
variable {settings : Settings} {table : String}

def Excludes (settings : Settings) (table : String) : Prop :=
  ∃ prefixes start, settings.excludedPrefixes.items = .ok prefixes ∧ .str start ∈ prefixes ∧
    (upper start).toList <+: (upper table).toList

theorem not_startsWith_of_allowsUpper {name : String} {prefixes : List Json} (h : allowsUpper name prefixes = .ok true)
    {start : String} (hmem : .str start ∈ prefixes) : ¬ startsWith (upper start) name := by
  induction prefixes with
  | nil => cases hmem
  | cons p rest ih =>
    rw [allowsUpper] at h
    cases htext : p.textFor "upper" with
    | error f =>
      rw [htext] at h
      cases h
    | ok text =>
      simp only [htext, bind, Except.bind] at h
      split at h
      · cases h
      · next hbegins =>
        rcases List.mem_cons.1 hmem with rfl | hrest
        · cases htext
          exact hbegins
        · exact ih h hrest

theorem not_excludes_of_allows (h : settings.allows table = .ok true) : ¬ settings.Excludes table := by
  rintro ⟨prefixes, start, hprefixes, hmem, hstart⟩
  rw [allows, hprefixes] at h
  exact not_startsWith_of_allowsUpper h hmem (List.isPrefixOf_iff_prefix.2 hstart)

end Settings

/-! ## Events -/

namespace Event
variable {A : String → Prop} {e : Event} {table : String}

def ReadsOnly (A : String → Prop) (e : Event) : Prop := ∀ table, e.table? = some table → A table

theorem readsOnly_of_none (h : e.table? = none) : e.ReadsOnly A := fun _ htable => nomatch h.symm.trans htable

theorem Concerns.table?_eq (h : e.Concerns table) {other : String} (hother : e.table? = some other) : other = table := by
  cases e with
  | columnsRead t | keyRead t =>
    cases hother
    exact h.elim nofun fun h => h.elim nofun fun h => h
  | queried q =>
    cases hother
    exact h.elim nofun fun h => h.elim nofun fun h => h
  | importsRead t => exact h.elim nofun fun h => h.elim nofun False.elim
  | _ => cases hother

theorem Concerns.readsOnly (h : e.Concerns table) (htable : A table) : e.ReadsOnly A :=
  fun _ hother => h.table?_eq hother ▸ htable

end Event

/-! ## What is read -/

section
variable {A : String → Prop} {settings : Settings} {p : ExportPlan}

theorem leaves_log (level : Level) (text : String) : Run.Leaves (Event.ReadsOnly A) (Run.log level text) :=
  (Run.confined_log (Event.readsOnly_of_none rfl)).leaves

theorem leaves_stopAt (n : Nat) (f : Fault) : Run.Leaves (Event.ReadsOnly A) (stopAt n f) :=
  (leaves_log _ _).bind fun _ _ _ _ => (Run.confined_pure _).leaves

/-- Sorting reads references of the given tables, not those of the tables that they refer to. -/
theorem leaves_sortTables {c : Catalog} {tables : List String} (h : ∀ table ∈ tables, A table) :
    Run.Leaves (Event.ReadsOnly A) (sortTables c.imports tables) := by
  refine Run.Leaves.bind (Run.leaves_mapM fun table htable => ?_) fun _ _ _ _ => (Run.confined_pure _).leaves
  refine Run.Leaves.bind ?_ fun _ _ _ _ => (Run.confined_pure _).leaves
  have hread : Event.ReadsOnly A (.importsRead table) := by
    rintro _ ⟨⟩
    exact h table (mem_of_mem_distinctNames htable)
  exact ((Run.confined_record hread).bind fun _ => Run.confined_lift _).leaves

theorem leaves_exportTable {table : String} (h : A table) : Run.Leaves (Event.ReadsOnly A) (exportTable p table) := by
  refine ((confined_tableElements p table).leaves.mono fun _ he => he.readsOnly h).attempt.bind fun outcome _ _ _ => ?_
  cases outcome with
  | ok es => exact (Run.confined_pure _).leaves
  | error f => exact (leaves_log _ _).bind fun _ _ _ _ => (Run.confined_pure _).leaves

theorem leaves_exportInOrder {tables : List String} (hdistinct : tables.Pairwise fun a b => sameName a b = false)
    (h : ∀ table ∈ tables, A table) : Run.Leaves (Event.ReadsOnly A) (exportInOrder p tables) := by
  refine Run.Leaves.recover ?_ (leaves_stopAt _)
  refine (leaves_sortTables h).bind fun order s t horder => ?_
  -- the order rearranges the given tables, so what was referred to besides is gone again
  have hperm := perm_sortTables hdistinct horder
  refine Run.Leaves.bind (Run.leaves_mapM fun table htable => ?_) fun _ _ _ _ => (Run.confined_pure _).leaves
  exact leaves_exportTable (h table (hperm.mem_iff.1 htable))

theorem leaves_exportTables (settings : Settings) (p : ExportPlan) :
    Run.Leaves (Event.ReadsOnly fun table => settings.allows table = .ok true) (exportTables settings p) := by
  have hlisting : Run.Leaves (Event.ReadsOnly fun table => settings.allows table = .ok true) p.extractor.catalog.tables :=
    ((Run.confined_record (Event.readsOnly_of_none rfl)).bind fun _ => Run.confined_lift _).leaves
  refine hlisting.attempt.bind fun listed _ _ _ => ?_
  cases listed with
  | ok listed =>
    refine (Run.confined_lift _).leaves.bind fun tables s t htables => ?_
    have hdiscovered := (Run.lift_eq_ok_iff.1 htables).1
    exact leaves_exportInOrder (pairwise_discover hdiscovered) fun table htable =>
      (Settings.mem_of_discover hdiscovered htable).2
  | error f =>
    simp only
    split
    · exact leaves_stopAt 0 f
    · exact (Run.confined_throw f).leaves

theorem leaves_withConnection {α : Type} {store : Store} {body : Run α} (h : Run.Leaves (Event.ReadsOnly A) body) :
    Run.Leaves (Event.ReadsOnly A) (store.withConnection body) := by
  refine Run.Leaves.bind (store.confined_openConnection.leaves.mono fun e he => ?_) fun _ _ _ _ => ?_
  · exact Event.readsOnly_of_none (congrArg Event.table? he)
  refine h.attempt.bind fun outcome _ _ _ => ?_
  refine Run.Leaves.bind (store.confined_closeConnection.leaves.mono fun e he => ?_) fun _ _ _ _ => ?_
  · exact Event.readsOnly_of_none (congrArg Event.table? he)
  · exact (Run.confined_lift outcome).leaves

end

/-! ## Runs -/

namespace Exporter
variable {x : Exporter} {r : Request} {d : Domain} {s t : Session}

theorem leaves_exportLoaded (x : Exporter) (name : String) (store : Store) (p : ExportPlan) :
    Run.Leaves (Event.ReadsOnly fun table => x.settings.allows table = .ok true) (x.exportLoaded name store p) := by
  refine Run.Leaves.bind (Run.Leaves.recover ?_ fun f => ?_) fun report _ _ _ => ?_
  · exact leaves_withConnection (leaves_writeDocument _ (leaves_exportTables x.settings p))
  · exact (leaves_log _ _).bind fun _ _ _ _ => (Run.confined_throw f).leaves
  · exact (leaves_log _ _).bind fun _ _ _ _ => (Run.confined_pure _).leaves

theorem leaves_serve (hd : x.domain r.domain = .ok d) (hload : d.LoadsApart) :
    Run.Leaves (Event.ReadsOnly fun table => x.settings.allows table = .ok true) (x.serve r) := by
  unfold serve
  split
  · rw [exportDomain_eq hd]
    refine Run.Leaves.bind ?_ fun loading _ _ _ => x.leaves_exportLoaded r.domain d.store _
    exact (hload.leaves_loadEntities r.domain).mono fun _ he => Event.readsOnly_of_none he
  · exact (Run.confined_throw _).leaves

/-- A run from `s` to `t` reads nothing of a table, reports nothing of it and shows no row of it. -/
structure Spares (x : Exporter) (r : Request) (d : Domain) (s : Session) (outcome : Except Fault Report) (t : Session)
    (table : String) : Prop where
  unread : ∀ e ∈ t.since s, e.table? ≠ some table
  unreported : ∀ report, outcome = .ok report → table ∉ report.exported ∧ table ∉ report.failed
  unshown : ∃ loading tables, (x.planFor r d loading).Shows s t tables ∧ table ∉ tables ∧
    ∀ report, outcome = .ok report → report.exported = tables

theorem serve_spares_excluded (hd : x.domain r.domain = .ok d) (hload : d.LoadsApart) {table : String}
    (hexcluded : x.settings.Excludes table) {outcome : Except Fault Report} (hserve : (x.serve r).result s = (outcome, t)) :
    x.Spares r d s outcome t table := by
  have hrefused : x.settings.allows table ≠ .ok true := fun h => Settings.not_excludes_of_allows h hexcluded
  have hevents := (leaves_serve hd hload).since s
  rw [hserve] at hevents
  obtain ⟨loading, tables, htells⟩ := tells_of_serve hd hload hserve
  refine ⟨fun e he htable => hrefused (hevents e he table htable), fun report hreport => ?_, ?_⟩
  · have hout : table ∉ report.outcomes.map TableOutcome.table := by
      intro hmem
      obtain ⟨o, ho, rfl⟩ := List.mem_map.1 hmem
      exact hrefused (htells.reported report hreport o ho)
    exact ⟨fun h => hout (report.exported_sublist.subset h), fun h => hout (report.failed_sublist.subset h)⟩
  · exact ⟨loading, tables, htells.shows, fun h => hrefused (htells.allowed table h), htells.exported⟩

/-- Orders refer to the tables of a scheduler, which are excluded. -/
def scheduledStore : Store where
  tables _ := .ok ["Orders", "Qrtz_Jobs"]
  references _ table := .ok (if table = "Orders" then [some "qrtz_jobs"] else [])
  key _ _ := .ok []
  columns _ _ := .ok [⟨"id", .untyped⟩]
  rows _ := .ok [[.integer 1]]

def scheduledDomain : Domain where
  store := scheduledStore
  models := some (pure [{ name := .str "Order", table := .str "orders" }])

def scheduled : Exporter := { domains := [("scheduled", scheduledDomain)] }

theorem loadsApart_scheduled : scheduledDomain.LoadsApart := by
  refine Domain.loadsApart_of_confined fun load hload => ?_
  cases hload
  exact Run.confined_pure _

theorem order_scheduled (s : Session) :
    ((tableOrder scheduled.settings (scheduled.extractor scheduledDomain).catalog).result s).1 = .ok ["Orders"] := by
  have hdiscover : scheduled.settings.discover ["Orders", "Qrtz_Jobs"] = .ok ["Orders"] :=
    Settings.discover_eq_ok rfl (List.pairwise_singleton _ _) (List.pairwise_singleton _ _)
  exact outcome_tableOrder (fun _ => ["qrtz_jobs"]) (fun _ => rfl) hdiscover
    (List.forall_mem_singleton.2 fun v => rfl) (by decide +kernel) s

theorem serve_spares_scheduled : ∃ report t, scheduled.domain "scheduled" = .ok scheduledDomain ∧ scheduledDomain.LoadsApart ∧
    scheduled.settings.Excludes "qrtz_jobs" ∧ (scheduled.serve { domain := "scheduled" }).result {} = (.ok report, t) ∧
    report.outcomes.map TableOutcome.table = ["Orders"] ∧
    scheduled.Spares { domain := "scheduled" } scheduledDomain {} (.ok report) t "qrtz_jobs" := by
  have hloads : (scheduledDomain.loadEntities "scheduled").result {} =
      (.ok (⟨[⟨"orders", { name := .str "Order", table := .str "orders" }⟩]⟩, []), {}) := rfl
  obtain ⟨report, t, ⟨c⟩⟩ := exists_course (x := scheduled) (r := { domain := "scheduled" }) rfl hloads rfl rfl rfl
    (order_scheduled {})
  have hserve : (scheduled.serve { domain := "scheduled" }).result {} = (.ok report, t) := c.serves rfl
  have hexcluded : scheduled.settings.Excludes "qrtz_jobs" :=
    ⟨[.str "QRTZ_", .str "AuditEntry"], "QRTZ_", rfl, List.mem_cons_self, by decide +kernel⟩
  exact ⟨report, t, rfl, loadsApart_scheduled, hexcluded, hserve, c.tables,
    serve_spares_excluded (d := scheduledDomain) rfl loadsApart_scheduled hexcluded hserve⟩

end Exporter
end TableDump
