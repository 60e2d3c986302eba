import TableDump.Proofs.Export.Accounts

/-! # Isolation of failures

Two exports of the same domain whose stores differ in what one table is read from.

* `Store.AgreesOutside`: stores that give the same answers but about the columns, the key and the rows of
  one table, and on one connection.
* `Session.connectionOf`: the number of the connection on which a table was read.
* The elements of every other table are the same (`result_tableElements_withStore`), and so are the
  outcomes of all tables before and behind it (`Exports.withStore`).
* When an export with the table returns, one in which the table fails returns too, and differs in nothing
  but the table (`serve_isolates`).
-/

namespace TableDump
open TableDump.Markup TableDump.Schema TableDump.Text
set_option autoImplicit false

/-! ## Stores that differ in one table -/

structure Store.AgreesOutside (store other : Store) (table : String) (n : Nat) : Prop where
  driverFaults : store.driverFaults = other.driverFaults
  close : store.close = other.close
  inspect : store.inspect = other.inspect
  tables : store.tables = other.tables
  references : store.references = other.references
  connect : ∀ m, m ≠ n → store.connect m = other.connect m
  key : ∀ schema t, t ≠ table → store.key schema t = other.key schema t
  columns : ∀ schema t, t ≠ table → store.columns schema t = other.columns schema t
  rows : ∀ q, q.table ≠ table → store.rows q = other.rows q

namespace Store.AgreesOutside
variable {store other : Store} {table : String} {n : Nat} (h : store.AgreesOutside other table n)
include h

theorem opening {m : Nat} (hm : m ≠ n) : store.opening m = other.opening m := by
  unfold Store.opening
  rw [h.connect m hm]

theorem closing : store.closing = other.closing := by
  unfold Store.closing
  rw [h.close]

theorem tableOrder_eq (settings : Settings) (schema : Option String) :
    tableOrder settings ⟨store, schema⟩ = tableOrder settings ⟨other, schema⟩ := by
  have htables : (⟨store, schema⟩ : Catalog).tables = (⟨other, schema⟩ : Catalog).tables := by
    simp only [Catalog.tables, Catalog.guarded, h.inspect, h.tables]
  have himports : (⟨store, schema⟩ : Catalog).imports = (⟨other, schema⟩ : Catalog).imports := by
    funext t
    simp only [Catalog.imports, Catalog.guarded, h.inspect, h.references]
  rw [tableOrder, tableOrder, htables, himports]

end Store.AgreesOutside

def Extractor.withStore (x : Extractor) (store : Store) : Extractor := { x with store }

theorem Store.AgreesOutside.tableOrder_withStore {x : Extractor} {store : Store} {table : String} {n : Nat}
    (h : store.AgreesOutside x.store table n) (settings : Settings) :
    tableOrder settings (x.withStore store).catalog = tableOrder settings x.catalog :=
  h.tableOrder_eq settings (schemaName x.schema)

def ExportPlan.withStore (p : ExportPlan) (store : Store) : ExportPlan :=
  { p with extractor := p.extractor.withStore store }

/-! ## Other tables -/

namespace Extractor
variable {x : Extractor} {store : Store} {table t : String} {n : Nat} (h : store.AgreesOutside x.store table n)
  (ht : t ≠ table)
include h ht

theorem columns_withStore : (x.withStore store).catalog.columns t = x.catalog.columns t := by
  simp only [withStore, catalog, Catalog.make, Catalog.columns, Catalog.guarded, h.inspect, h.columns _ t ht]

theorem key_withStore : (x.withStore store).catalog.key t = x.catalog.key t := by
  simp only [withStore, catalog, Catalog.make, Catalog.key, Catalog.guarded, h.inspect, h.key _ t ht]

theorem fetch_withStore {q : Query} (hq : q.table = t) : (x.withStore store).fetch q = x.fetch q := by
  have hrows : store.rows q = x.store.rows q := h.rows q (hq ▸ ht)
  simp only [fetch, withStore, hrows]

theorem readRows_withStore (threshold : Json) (columns : List Column) :
    (x.withStore store).readRows t threshold columns = x.readRows t threshold columns := by
  rw [readRows, readRows, key_withStore h ht]
  congr 1
  funext key
  have hquery : (x.withStore store).buildQuery t (columns.map Column.name) key threshold =
      x.buildQuery t (columns.map Column.name) key threshold := rfl
  rw [hquery]
  cases hq : x.buildQuery t (columns.map Column.name) key threshold with
  | error f => rfl
  | ok q => rw [Run.lift_ok_bind, Run.lift_ok_bind, fetch_withStore h ht (x.table_buildQuery hq)]

theorem readBody_withStore (threshold : Json) : (x.withStore store).readBody t threshold = x.readBody t threshold := by
  rw [readBody, readBody, columns_withStore h ht]
  congr 1
  funext columns
  exact readRows_withStore h ht threshold columns

theorem result_readTable_withStore (threshold : Json) {s : Session} (hs : s.openedCount + 1 ≠ n) :
    ((x.withStore store).readTable t threshold).result s = (x.readTable t threshold).result s := by
  have hopening : (x.withStore store).store.opening (s.openedCount + 1) = x.store.opening (s.openedCount + 1) :=
    h.opening hs
  have hclosing : (x.withStore store).store.closing = x.store.closing := h.closing
  rw [readTable_eq, readTable_eq, Store.result_withConnection, Store.result_withConnection, hopening, hclosing,
    readBody_withStore h ht]

end Extractor

/-- A table has the same elements, unless it is read on the connection in which the stores differ. -/
theorem result_tableElements_withStore {p : ExportPlan} {store : Store} {table t : String} {n : Nat}
    (h : store.AgreesOutside p.extractor.store table n) (ht : t ≠ table) {s : Session}
    (hs : s.openedCount + connectionsFor p t ≠ n ∨ connectionsFor p t = 0) :
    (tableElements (p.withStore store) t).result s = (tableElements p t).result s := by
  cases hnaming : exportNaming p.entities p.relations t with
  | error f =>
    have hnaming' : exportNaming (p.withStore store).entities (p.withStore store).relations t = .error f := hnaming
    rw [result_tableElements_unnamed p hnaming, result_tableElements_unnamed _ hnaming']
  | ok named =>
    have hone : connectionsFor p t = 1 := by rw [connectionsFor, hnaming]
    have hs' : s.openedCount + 1 ≠ n := by omega
    have hread := Extractor.result_readTable_withStore h ht p.threshold hs'
    have hextract : ((p.withStore store).extractor.extractNamed p.entities p.threshold t named).result s =
        (p.extractor.extractNamed p.entities p.threshold t named).result s := Run.result_bind_congr hread _
    have hnaming' : exportNaming (p.withStore store).entities (p.withStore store).relations t = .ok named := hnaming
    rw [tableElements_eq, tableElements_eq, hnaming', hnaming, Run.lift_ok_bind, Run.lift_ok_bind]
    exact Run.result_bind_congr hextract _

/-! ## The connection of a table -/

namespace Event

def readsColumnsOf (table : String) : Event → Bool
  | columnsRead t => t == table
  | _ => false

theorem OfCatalog.readsColumnsOf {e : Event} (h : e.OfCatalog) (table : String) : e.readsColumnsOf table = false := by
  cases e with
  | columnsRead t => exact h.elim
  | _ => rfl

theorem Concerns.readsColumnsOf {t table : String} {e : Event} (h : e.Concerns t) (ht : t ≠ table) :
    e.readsColumnsOf table = false := by
  cases e with
  | columnsRead u =>
    have hu : u = t := by simpa [Concerns, isOpened, isClosed, Inside] using h
    rw [hu]
    exact beq_false_of_ne ht
  | _ => rfl

end Event

theorem TableOutcome.readsColumnsOf_failureEvents {o : TableOutcome} {e : Event} (h : e ∈ o.failureEvents)
    (table : String) : e.readsColumnsOf table = false := by
  rw [failureEvents] at h
  cases he : o.error? with
  | none => simp [he] at h
  | some text =>
    simp only [he, Option.map_some, Option.toList_some, List.mem_singleton] at h
    rw [h]
    rfl

/-- The number of the connection on which the columns of a table were first read after `loaded`. -/
def Session.connectionOf (t loaded : Session) (table : String) : Nat :=
  loaded.openedCount + ((t.since loaded).takeWhile fun e => !e.readsColumnsOf table).countP Event.isOpened

theorem connectionOf_eq {t loaded w : Session} {table : String} {front more : List Event}
    (hw : w.events = loaded.events ++ front) (hfront : ∀ e ∈ front, e.readsColumnsOf table = false)
    (ht : t.events = w.events ++ .columnsRead table :: more) : t.connectionOf loaded table = w.openedCount := by
  have hsince : t.since loaded = front ++ .columnsRead table :: more :=
    Session.since_eq (by rw [ht, hw, List.append_assoc])
  have htake : (t.since loaded).takeWhile (fun e => !e.readsColumnsOf table) = front := by
    rw [hsince, List.takeWhile_append_of_pos fun e he => by rw [hfront e he]; rfl, List.takeWhile_cons]
    simp [Event.readsColumnsOf]
  rw [Session.connectionOf, htake, Session.openedCount, Session.openedCount, hw, List.countP_append]

/-! ## The loop -/

/-- Another store that differs in a table which has elements, and on the connection on which it is read,
gives all other tables the same outcomes. -/
theorem Exports.withStore {p : ExportPlan} {store : Store} {s u t : Session} {table : String} {block : List Element}
    {before after : List TableOutcome} (hbefore : Exports p s before u)
    (hfrom : Exports p u (⟨table, .ok block⟩ :: after) t)
    (h : store.AgreesOutside p.extractor.store table (u.openedCount + 1))
    (hother : ∀ o ∈ before ++ after, o.table ≠ table) :
    ∃ outcome t', Exports (p.withStore store) s (before ++ ⟨table, outcome⟩ :: after) t' := by
  obtain ⟨u', hbefore', hu'⟩ := hbefore.transport (q := p.withStore store) rfl fun o ho v hv hvu =>
    result_tableElements_withStore h (hother o (List.mem_append_left _ ho)) (by omega)
  cases hfrom with
  | cons hadded htable hafter =>
    have hcount := openedCount_afterTable htable
    rw [connectionsFor_eq_one p htable] at hcount
    obtain ⟨added, hadded', htable'⟩ := (confined_tableElements (p.withStore store) table).result_eq u'
    obtain ⟨o, ho, htable''⟩ : ∃ o : TableOutcome, o.table = table ∧
        (tableElements (p.withStore store) o.table).result u' = (o.outcome, u'.extend added) :=
      ⟨⟨table, _⟩, rfl, htable'⟩
    have hcount' : (u'.extend (added ++ o.failureEvents)).openedCount = u.openedCount + 1 := by
      rw [openedCount_afterTable htable'', hu', ho, ← connectionsFor_eq_one p htable]
      rfl
    obtain ⟨t', hafter', _⟩ := hafter.transport (q := p.withStore store) (hcount'.trans hcount.symm)
      fun o ho v hv hvt => result_tableElements_withStore h (hother o (List.mem_append_right _ ho)) (by omega)
    obtain ⟨t'', outcome⟩ := o
    cases ho
    exact ⟨outcome, t', hbefore'.append (.cons hadded' htable'' hafter')⟩

/-! ## Reports that differ in one table -/

namespace TableOutcome
variable (table : String) (es : List Element) (f : Fault)

@[simp] theorem elements_ok : elements ⟨table, .ok es⟩ = es := rfl

@[simp] theorem elements_error : elements ⟨table, .error f⟩ = [] := rfl

@[simp] theorem isExported_ok : isExported ⟨table, .ok es⟩ = true := rfl

@[simp] theorem isExported_error : isExported ⟨table, .error f⟩ = false := rfl

@[simp] theorem error?_ok : error? ⟨table, .ok es⟩ = none := rfl

@[simp] theorem error?_error : error? ⟨table, .error f⟩ = some (table ++ ": " ++ f.message) := rfl

end TableOutcome

def Report.part (outcomes : List TableOutcome) : Report := { outcomes }

/-- A report with a table between others, and one in which that table failed instead. Whatever the reports
say of the other tables is the same, at the same places. -/
structure LosesOnly (table : String) (before after : List TableOutcome) (block : List Element) (f : Fault)
    (report failing : Report) : Prop where
  apart : ∀ o ∈ before ++ after, o.table ≠ table
  discovered : failing.discovered = report.discovered
  outcomes : report.outcomes = before ++ ⟨table, .ok block⟩ :: after
  outcomes' : failing.outcomes = before ++ ⟨table, .error f⟩ :: after
  elements : report.elements = (Report.part before).elements ++ block ++ (Report.part after).elements
  elements' : failing.elements = (Report.part before).elements ++ (Report.part after).elements
  exported : report.exported = (Report.part before).exported ++ table :: (Report.part after).exported
  exported' : failing.exported = (Report.part before).exported ++ (Report.part after).exported
  failed : report.failed = (Report.part before).failed ++ (Report.part after).failed
  failed' : failing.failed = (Report.part before).failed ++ table :: (Report.part after).failed
  errors : report.errors = (Report.part before).errors ++ (Report.part after).errors
  errors' : failing.errors =
    (Report.part before).errors ++ (table ++ ": " ++ f.message) :: (Report.part after).errors

theorem losesOnly_of_outcomes {table : String} {before after : List TableOutcome} {block : List Element} {f : Fault}
    {report failing : Report} (hapart : ∀ o ∈ before ++ after, o.table ≠ table)
    (hdiscovered : failing.discovered = report.discovered)
    (houtcomes : report.outcomes = before ++ ⟨table, .ok block⟩ :: after)
    (houtcomes' : failing.outcomes = before ++ ⟨table, .error f⟩ :: after) (hstopped : report.stopped = none)
    (hstopped' : failing.stopped = none) : LosesOnly table before after block f report failing where
  apart := hapart
  discovered := hdiscovered
  outcomes := houtcomes
  outcomes' := houtcomes'
  elements := by simp [Report.elements, Report.part, houtcomes]
  elements' := by simp [Report.elements, Report.part, houtcomes']
  exported := by simp [Report.exported, Report.part, houtcomes, List.filter_cons]
  exported' := by simp [Report.exported, Report.part, houtcomes']
  failed := by simp [Report.failed, Report.part, houtcomes]
  failed' := by simp [Report.failed, Report.part, houtcomes']
  errors := by simp [Report.errors, Report.part, houtcomes, hstopped, List.filterMap_cons]
  errors' := by simp [Report.errors, Report.part, houtcomes', hstopped']

theorem split_of_exported {report : Report} {table : String} (h : table ∈ report.exported) :
    ∃ before block after, report.outcomes = before ++ ⟨table, .ok block⟩ :: after := by
  obtain ⟨o, ho, rfl⟩ := List.mem_map.1 h
  obtain ⟨hmem, hexported⟩ := List.mem_filter.1 ho
  obtain ⟨before, after, hsplit⟩ := List.append_of_mem hmem
  obtain ⟨table, outcome⟩ := o
  cases outcome with
  | error f => cases hexported
  | ok block => exact ⟨before, block, after, hsplit⟩

theorem fault_of_failed {report : Report} {table : String} {before after : List TableOutcome}
    {outcome : Except Fault (List Element)} (houtcomes : report.outcomes = before ++ ⟨table, outcome⟩ :: after)
    (hother : ∀ o ∈ before ++ after, o.table ≠ table) (h : table ∈ report.failed) : ∃ f, outcome = .error f := by
  obtain ⟨o, ho, htable⟩ := List.mem_map.1 h
  obtain ⟨hmem, hfailed⟩ := List.mem_filter.1 ho
  rw [houtcomes, List.mem_append, List.mem_cons] at hmem
  rcases hmem with hbefore | rfl | hafter
  · exact absurd htable (hother o (List.mem_append_left _ hbefore))
  · cases outcome with
    | ok es => cases hfailed
    | error f => exact ⟨f, rfl⟩
  · exact absurd htable (hother o (List.mem_append_right _ hafter))

/-! ## Served exports -/

namespace Exporter

theorem planFor_withStore {x y : Exporter} (hsettings : x.settings = y.settings) (hmachine : x.toMachine = y.toMachine)
    (r : Request) (d : Domain) {store : Store} (hfaults : store.driverFaults = d.store.driverFaults)
    (loading : EntityIndex × RelationTables) :
    x.planFor r { d with store } loading = (y.planFor r d loading).withStore store := by
  simp only [planFor, plan, extractor, ExportPlan.withStore, Extractor.withStore, hsettings, hmachine, hfaults]

variable {x y : Exporter} {r : Request} {d : Domain} {s t : Session} {order : List String} {report : Report}

/-- In an export, the connection of an exported table is the next one after the tables before it. -/
theorem Course.connectionOf_eq (c : y.Course r d s order report t) {table : String} {block : List Element}
    {before after : List TableOutcome} {u : Session} (hbefore : ∀ o ∈ before, o.table ≠ table)
    (hfirst : Exports (y.planFor r d c.loading) ((begun c.loaded c.root).extend c.read) before u)
    (hfrom : Exports (y.planFor r d c.loading) u (⟨table, .ok block⟩ :: after) c.last) :
    t.connectionOf c.loaded table = u.openedCount + 1 := by
  obtain ⟨first, hu, hconcerns, _⟩ := hfirst.leaves
  cases hfrom with
  | @cons _ _ _ _ added hadded htable hafter =>
    obtain ⟨more, hmore⟩ := extends_of_tableElements_ok _ htable
    obtain ⟨later, hlast, _⟩ := hafter.leaves
    have hopened : (u.extend [.opened]).openedCount = u.openedCount + 1 := Session.openedCount_extend u [.opened]
    have hw : (u.extend [.opened]).events = c.loaded.events ++ (.opened :: (c.read ++ (first ++ [.opened]))) := by
      rw [hu]
      simp [begun, Session.wrote, Session.extend]
    have hends : t.events = (ended c.last c.root r.domain report).events := congrArg Session.events c.ends
    have ht : t.events = (u.extend [.opened]).events ++ .columnsRead table :: (more ++ (later ++
        [.closed, .logged ⟨.info, summary r.domain report⟩])) := by
      rw [hends, hlast, ← Session.extend_extend, hmore]
      simp [ended, Session.wrote, Session.extend, TableOutcome.failureEvents]
    rw [← hopened]
    refine TableDump.connectionOf_eq hw (fun e he => ?_) ht
    simp only [List.mem_cons, List.mem_append, List.not_mem_nil, or_false] at he
    rcases he with rfl | hread | hother | rfl
    · rfl
    · exact (c.ofCatalog e hread).readsColumnsOf table
    · obtain ⟨o, ho, hconcerned | hfailure⟩ := hconcerns e hother
      · exact hconcerned.readsColumnsOf (hbefore o ho)
      · exact TableOutcome.readsColumnsOf_failureEvents hfailure table
    · rfl

/-- Another store takes the same course, but for the outcome of the table in which it differs. -/
theorem Course.withStore (c : y.Course r d s order report t) (hsettings : x.settings = y.settings)
    (hmachine : x.toMachine = y.toMachine) {store : Store} {table : String} {block : List Element}
    {before after : List TableOutcome} (houtcomes : report.outcomes = before ++ ⟨table, .ok block⟩ :: after)
    (hother : ∀ o ∈ before ++ after, o.table ≠ table)
    (hagree : store.AgreesOutside d.store table (t.connectionOf c.loaded table)) :
    ∃ outcome failing t', ∃ c' : x.Course r { d with store } s order failing t',
      c'.loaded = c.loaded ∧ c'.root = c.root ∧ failing.outcomes = before ++ ⟨table, outcome⟩ :: after := by
  have hexports := c.exports
  rw [houtcomes] at hexports
  obtain ⟨u, hfirst, hfrom⟩ := hexports.split
  have hnumber := c.connectionOf_eq (fun o ho => hother o (List.mem_append_left _ ho)) hfirst hfrom
  rw [hnumber] at hagree
  obtain ⟨outcome, last, hlast⟩ := hfirst.withStore hfrom hagree hother
  have hplan := planFor_withStore hsettings hmachine r d hagree.driverFaults c.loading
  -- the connection of the export itself is not the one of the table
  have hnext : c.loaded.openedCount + 1 ≠ u.openedCount + 1 := by
    have hle := hfirst.openedCount_le
    rw [Session.openedCount_extend, openedCount_begun] at hle
    omega
  have horders : (tableOrder x.settings (x.planFor r { d with store } c.loading).extractor.catalog).result
      (begun c.loaded c.root) = (.ok order, (begun c.loaded c.root).extend c.read) := by
    have hfind := Store.AgreesOutside.tableOrder_withStore (x := y.extractor d) hagree y.settings
    rw [hplan, hsettings, ← c.orders]
    exact congrArg (fun find => find.result (begun c.loaded c.root)) hfind
  have htables : (before ++ ⟨table, outcome⟩ :: after).map TableOutcome.table = order := by
    rw [← c.tables, houtcomes, List.map_append, List.map_append]
    rfl
  exact ⟨outcome, { discovered := order.length, outcomes := before ++ ⟨table, outcome⟩ :: after }, _, {
    loading := c.loading
    loaded := c.loaded
    root := c.root
    read := c.read
    last := last
    hasOutput := c.hasOutput
    loads := c.loads
    opens := (hagree.opening hnext).trans c.opens
    closes := hagree.closing.trans c.closes
    readsRoot := hsettings ▸ c.readsRoot
    ofCatalog := c.ofCatalog
    orders := horders
    tables := htables
    discovered := rfl
    stopped := rfl
    exports := hplan ▸ hlast
    ends := rfl }, rfl, rfl, rfl⟩

/-- When an export with a table returns, so does one that differs in what is read of that table; if the
table fails there, its elements are gone from the document and nothing else changed. -/
theorem serve_isolates (hsettings : x.settings = y.settings) (hmachine : x.toMachine = y.toMachine) {store : Store}
    (hx : x.domain r.domain = .ok { d with store }) (hy : y.domain r.domain = .ok d)
    (hserve : (y.serve r).result s = (.ok report, t)) {table : String} (hexported : table ∈ report.exported)
    (hagree : store.AgreesOutside d.store table (t.connectionOf ((d.loadEntities r.domain).result s).2 table)) :
    ∃ failing t', (x.serve r).result s = (.ok failing, t') ∧ (table ∈ failing.failed →
      ∃ root before after block f, LosesOnly table before after block f report failing ∧
        t.written = ((d.loadEntities r.domain).result s).2.written ++ document root report.elements ∧
        t'.written = ((d.loadEntities r.domain).result s).2.written ++ document root failing.elements) := by
  obtain ⟨before, block, after, houtcomes⟩ := split_of_exported hexported
  obtain ⟨order, ⟨c⟩⟩ := course_of_outcomes hy hserve (by simp [houtcomes])
  have hloaded : ((d.loadEntities r.domain).result s).2 = c.loaded := congrArg Prod.snd c.loads
  rw [hloaded] at hagree ⊢
  have hnodup := nodup_of_tableOrder c.orders
  rw [← c.tables, houtcomes, List.map_append, List.map_cons, List.nodup_middle, ← List.map_append,
    List.nodup_cons] at hnodup
  have hother : ∀ o ∈ before ++ after, o.table ≠ table := fun o ho heq =>
    hnodup.1 (List.mem_map.2 ⟨o, ho, heq⟩)
  obtain ⟨outcome, failing, t', c', hloaded', hroot, houtcomes'⟩ :=
    c.withStore hsettings hmachine houtcomes hother hagree
  refine ⟨failing, t', c'.serves hx, fun hfailed => ?_⟩
  obtain ⟨f, rfl⟩ := fault_of_failed houtcomes' hother hfailed
  have hdiscovered : failing.discovered = report.discovered := c'.discovered.trans c.discovered.symm
  refine ⟨c.root, before, after, block, f, ?_, c.written, ?_⟩
  · exact losesOnly_of_outcomes hother hdiscovered houtcomes houtcomes' c.stopped c'.stopped
  · rw [← hloaded', ← hroot]
    exact c'.written

/-- The store of the shop while its customers cannot be queried. -/
def lockedStore : Store :=
  { shopStore with
    rows := fun q => if q.table = "customers" then .error (.reported .database "locked") else shopStore.rows q }

def lockedDomain : Domain := { shopDomain with store := lockedStore }

def lockedShop : Exporter := { domains := [("shop", lockedDomain)] }

theorem lockedStore_agreesOutside (n : Nat) : lockedStore.AgreesOutside shopStore "customers" n where
  driverFaults := rfl
  close := rfl
  inspect := rfl
  tables := rfl
  references := rfl
  connect _ _ := rfl
  key _ _ _ := rfl
  columns _ _ _ := rfl
  rows _ hq := if_neg hq

theorem order_lockedShop (s : Session) :
    ((tableOrder lockedShop.settings (lockedShop.extractor lockedDomain).catalog).result s).1 =
      .ok ["notes", "customers", "orders"] := by
  have hsame := (lockedStore_agreesOutside 0).tableOrder_eq shop.settings (schemaName none)
  exact (congrArg (fun find => (find.result s).1) hsame).trans (order_shop s)

theorem failed_lockedShop {failing : Report} {t : Session}
    (c : lockedShop.Course { domain := "shop" } lockedDomain {} ["notes", "customers", "orders"] failing t) :
    failing.failed = ["notes", "customers"] := by
  have hread : ∀ table ∈ ["notes", "customers", "orders"], ∀ u, ((tableElements
      (lockedShop.planFor { domain := "shop" } lockedDomain ({}, [])) table).result u).1.isOk = (table == "orders") := by
    rw [List.forall_mem_cons, List.forall_mem_cons, List.forall_mem_singleton]
    exact ⟨fun u => rfl, fun u => rfl, fun u => rfl⟩
  rw [← c.tables, ← c.loading_eq loads_shop] at hread
  rw [c.exports.failed_eq hread, c.tables]
  decide

theorem serve_isolates_lockedShop : ∃ report t failing t' before after block f,
    (shop.serve { domain := "shop" }).result {} = (.ok report, t) ∧
      (lockedShop.serve { domain := "shop" }).result {} = (.ok failing, t') ∧
      LosesOnly "customers" before after block f report failing := by
  obtain ⟨report, t, ⟨c⟩⟩ := course_shop
  have hserve : (shop.serve { domain := "shop" }).result {} = (.ok report, t) := c.serves rfl
  have hexported : "customers" ∈ report.exported := by
    rw [exported_shop c]
    decide
  obtain ⟨failing, t', hfailing, hloses⟩ := serve_isolates (x := lockedShop) (y := shop) (d := shopDomain) rfl rfl rfl
    rfl hserve hexported (lockedStore_agreesOutside _)
  obtain ⟨c'⟩ := course_of_serve (d := lockedDomain) rfl hfailing (order_lockedShop {})
  have hfailed : "customers" ∈ failing.failed := by
    rw [failed_lockedShop c']
    decide
  obtain ⟨_, before, after, block, f, hlosesOnly, _⟩ := hloses hfailed
  exact ⟨report, t, failing, t', before, after, block, f, hserve, hfailing, hlosesOnly⟩

end Exporter
end TableDump
