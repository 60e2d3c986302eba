import TableDump.Proofs.Export.ReadableDocument
import TableDump.Proofs.Model.ModelLoading
import TableDump.Proofs.Schema.Respelling

/-! # Runs of exports, returned or not

What an export leaves in whatever way it ends.

* `Markup.Written rows text`: the states in which a document can be left, with the rows that it then holds.
* `result_writeDocument`, `result_exportLoaded`: a document and an export, cut where they can end.
* `ExportPlan.Shows`: what was written holds the rows of some tables.
* `ExportPlan.Tells`: the written text and the outcome of an export are about tables that the settings allow. So it is
  however an export ends (`tells_of_exportLoaded`, `tells_of_serve`). `Exporter.serve_cases` lists the ends.
-/

namespace TableDump
open TableDump.Markup TableDump.Schema TableDump.Text
set_option autoImplicit false

/-! ## Documents -/

inductive Markup.Written : List Element → String → Prop
  | nothing : Written [] ""
  | declared : Written [] declaration
  | closed (root : QualifiedName) : Written [] (declaration ++ startTag root ++ endTag root)
  | complete (root : QualifiedName) (rows : List Element) : Written rows (document root rows)

theorem result_writeDocument (name : Json) (body : Run Report) (s : Session) :
    (writeDocument name body).result s = match readRoot name with
      | .error f => (.error f, s.wrote declaration)
      | .ok root => match body.result (s.wrote (declaration ++ startTag root)) with
        | (.ok report, t) => (.ok report, t.wrote (rowLines report.elements ++ "\n" ++ endTag root))
        | (.error f, t) => (.error f, t.wrote (endTag root)) := by
  have hbegun : ∀ root, (s.wrote declaration).wrote (startTag root) = s.wrote (declaration ++ startTag root) := by
    intro root
    simp only [Session.wrote, String.append_assoc]
  rw [writeDocument, Run.result_bind, Run.result_write]
  cases readRoot name with
  | error f => rfl
  | ok root =>
    simp only
    rw [Run.lift_ok_bind, Run.result_bind, Run.result_write]
    simp only
    rw [Run.result_attempt_bind, ← hbegun root]
    simp only [Session.wrote]
    rcases body.result _ with ⟨f | report, t⟩ <;> rfl

theorem leaves_writeDocument {P : Event → Prop} (name : Json) {body : Run Report} (h : Run.Leaves P body) :
    Run.Leaves P (writeDocument name body) := by
  refine (Run.leaves_write _).bind fun _ _ _ _ => (Run.confined_lift _).leaves.bind fun root _ _ _ => ?_
  refine (Run.leaves_write _).bind fun _ _ _ _ => h.attempt.bind fun outcome _ _ _ => ?_
  cases outcome with
  | ok report => exact (Run.leaves_write _).bind fun _ _ _ _ => (Run.confined_pure _).leaves
  | error f => exact (Run.leaves_write _).bind fun _ _ _ _ => (Run.confined_throw f).leaves

theorem result_exportLoaded (x : Exporter) (name : String) (store : Store) (p : ExportPlan) (s : Session) :
    ∃ told, (∀ e ∈ told, ∃ record, e = .logged record) ∧ (x.exportLoaded name store p).result s =
      (((store.withConnection (writeDocument x.settings.rootElement (exportTables x.settings p))).result s).1,
        ((store.withConnection (writeDocument x.settings.rootElement (exportTables x.settings p))).result s).2.extend told) := by
  rw [Exporter.exportLoaded, Run.result_bind, Run.result_recover]
  rcases (store.withConnection _).result s with ⟨f | report, t⟩
  · cases hlost : Exporter.isConnectionFault f with
    | true =>
      simp only [hlost, if_true]
      exact ⟨[.logged _], List.forall_mem_singleton.2 ⟨_, rfl⟩, rfl⟩
    | false =>
      simp only [hlost, Bool.false_eq_true, if_false]
      exact ⟨[], List.forall_mem_nil _, by rw [Session.extend_nil]⟩
  · exact ⟨[.logged _], List.forall_mem_singleton.2 ⟨_, rfl⟩, rfl⟩

/-- The first thing that an export does with its models is to open a connection. -/
theorem opens_exportLoaded (x : Exporter) (name : String) (store : Store) (p : ExportPlan) (s : Session) :
    ∃ rest, ((x.exportLoaded name store p).result s).2.events = s.events ++ .opened :: rest := by
  obtain ⟨told, -, hresult⟩ := result_exportLoaded x name store p s
  obtain ⟨inside, -, hinside⟩ :=
    leaves_writeDocument x.settings.rootElement (confined_exportTables x.settings p).leaves (s.extend [.opened])
  rw [hresult, Store.result_withConnection]
  cases store.opening (s.openedCount + 1) with
  | error f => exact ⟨told, by simp⟩
  | ok _ => cases store.closing <;> exact ⟨inside ++ .closed :: told, by simp [hinside]⟩

/-! ## Tables -/

section
variable {settings : Settings} {p : ExportPlan} {s s' t t' : Session} {outcome outcome' : Except Fault Report}
  {report : Report} {tables : List String}

/-- Each outcome is that of an allowed table, and the elements are those of the exported tables. -/
theorem yields_of_exportTables (h : (exportTables settings p).result s = (.ok report, t)) :
    List.Forall₂ (p.Yields s t) report.exported report.blocks ∧ ∀ o ∈ report.outcomes, settings.allows o.table = .ok true := by
  by_cases houtcomes : report.outcomes = []
  · rw [Report.exported, Report.blocks, houtcomes]
    exact ⟨.nil, List.forall_mem_nil _⟩
  · obtain ⟨order, u, horder⟩ := tableOrder_of_outcomes h houtcomes
    obtain ⟨listed, found, v, -, hdiscovered, -, hperm⟩ := steps_of_tableOrder horder
    obtain ⟨read, outcomes, last, -, htables, hordered, hexports⟩ := course_of_tableOrder (congrArg Prod.fst horder)
    cases h.symm.trans (exports_of_tableOrder hordered htables hexports)
    refine ⟨?_, fun o ho => ?_⟩
    · exact hexports.yields.imp fun _ _ hyields => hyields.mono (List.prefix_append _ _) (List.prefix_refl _)
    · have ho : o.table ∈ order := htables ▸ List.mem_map_of_mem ho
      exact (Settings.mem_of_discover hdiscovered (hperm.mem_iff.1 ho)).2

def ExportPlan.Shows (p : ExportPlan) (s t : Session) (tables : List String) : Prop :=
  ∃ blocks text, List.Forall₂ (p.Yields s t) tables blocks ∧ Written blocks.flatten text ∧ t.written = s.written ++ text

structure ExportPlan.Tells (p : ExportPlan) (settings : Settings) (s t : Session) (outcome : Except Fault Report)
    (tables : List String) : Prop where
  shows : p.Shows s t tables
  allowed : ∀ table ∈ tables, settings.allows table = .ok true
  exported : ∀ report, outcome = .ok report → report.exported = tables
  reported : ∀ report, outcome = .ok report → ∀ o ∈ report.outcomes, settings.allows o.table = .ok true

theorem ExportPlan.Shows.mono (h : p.Shows s t tables) (hs : s'.events <+: s.events) (hbefore : s'.written = s.written)
    (ht : t.events <+: t'.events) (hafter : t'.written = t.written) : p.Shows s' t' tables := by
  obtain ⟨blocks, text, hyields, htext, hwritten⟩ := h
  refine ⟨blocks, text, hyields.imp fun _ _ hyields => hyields.mono hs ht, htext, ?_⟩
  rw [hafter, hwritten, hbefore]

theorem ExportPlan.Tells.mono (h : p.Tells settings s t outcome tables) (hs : s'.events <+: s.events)
    (hbefore : s'.written = s.written) (ht : t.events <+: t'.events) (hafter : t'.written = t.written)
    (houtcome : ∀ report, outcome' = .ok report → outcome = .ok report) : p.Tells settings s' t' outcome' tables where
  shows := h.shows.mono hs hbefore ht hafter
  allowed := h.allowed
  exported report hreport := h.exported report (houtcome report hreport)
  reported report hreport := h.reported report (houtcome report hreport)

/-- A fault without rows in the document tells nothing of any table. -/
theorem tells_none {text : String} (htext : Written [] text) (hwritten : t.written = s.written ++ text) {f : Fault} :
    p.Tells settings s t (.error f) [] where
  shows := ⟨[], text, .nil, htext, hwritten⟩
  allowed := List.forall_mem_nil _
  exported _ hreport := nomatch hreport
  reported _ hreport := nomatch hreport

theorem tells_of_writeDocument {name : Json} (h : (writeDocument name (exportTables settings p)).result s = (outcome, t)) :
    ∃ tables, p.Tells settings s t outcome tables := by
  rw [result_writeDocument] at h
  cases hroot : readRoot name with
  | error f =>
    rw [hroot] at h
    cases h
    exact ⟨[], tells_none .declared rfl⟩
  | ok root =>
    rw [hroot] at h
    obtain ⟨added, -, hbody⟩ := (confined_exportTables settings p).result_eq (s.wrote (declaration ++ startTag root))
    simp only [hbody] at h
    cases hreport : (exportTables settings p).outcomeAt (s.wrote (declaration ++ startTag root)).openedCount with
    | error f =>
      -- rows are only written when all tables are done, so a fault leaves none
      rw [hreport] at h
      cases h
      refine ⟨[], tells_none (.closed root) ?_⟩
      simp only [Session.wrote, Session.extend, String.append_assoc]
    | ok report =>
      rw [hreport] at h hbody
      cases h
      obtain ⟨hyields, hallowed⟩ := yields_of_exportTables hbody
      refine ⟨report.exported, ⟨report.blocks, _, ?_, .complete root _, ?_⟩, fun table htable => ?_, ?_, ?_⟩
      · exact hyields.imp fun _ _ hyields => hyields.mono (List.prefix_refl _) (List.prefix_refl _)
      · simp only [Session.wrote, Session.extend, document, String.append_assoc, report.elements_eq_flatten]
      · obtain ⟨o, ho, rfl⟩ := List.mem_map.1 htable
        exact hallowed o (List.mem_filter.1 ho).1
      · rintro _ ⟨⟩
        rfl
      · rintro _ ⟨⟩
        exact hallowed

theorem tells_of_withConnection {store : Store} {name : Json}
    (h : (store.withConnection (writeDocument name (exportTables settings p))).result s = (outcome, t)) :
    ∃ tables, p.Tells settings s t outcome tables := by
  rw [Store.result_withConnection] at h
  cases hopening : store.opening (s.openedCount + 1) with
  | error f =>
    rw [hopening] at h
    cases h
    have hwritten : (s.extend [.opened]).written = s.written ++ "" := String.append_empty.symm
    exact ⟨[], tells_none .nothing hwritten⟩
  | ok _ =>
    rw [hopening] at h
    rcases hdocument : (writeDocument name (exportTables settings p)).result (s.extend [.opened]) with ⟨made, u⟩
    obtain ⟨tables, htells⟩ := tells_of_writeDocument hdocument
    simp only [hdocument] at h
    cases hclosing : store.closing with
    | error f =>
      rw [hclosing] at h
      cases h
      exact ⟨tables, htells.mono (List.prefix_append _ _) rfl (List.prefix_append _ _) rfl fun _ hreport => nomatch hreport⟩
    | ok _ =>
      rw [hclosing] at h
      cases h
      exact ⟨tables, htells.mono (List.prefix_append _ _) rfl (List.prefix_append _ _) rfl fun _ hreport => hreport⟩

/-! ## Exports -/

theorem tells_of_exportLoaded {x : Exporter} {name : String} {store : Store}
    (h : (x.exportLoaded name store p).result s = (outcome, t)) : ∃ tables, p.Tells x.settings s t outcome tables := by
  obtain ⟨told, -, hresult⟩ := result_exportLoaded x name store p s
  rcases hconnected : (store.withConnection (writeDocument x.settings.rootElement (exportTables x.settings p))).result s
    with ⟨made, u⟩
  obtain ⟨tables, htells⟩ := tells_of_withConnection hconnected
  rw [hconnected] at hresult
  cases h.symm.trans hresult
  exact ⟨tables, htells.mono (List.prefix_refl _) rfl (List.prefix_append _ _) rfl fun _ hreport => hreport⟩

/-- An export fails before it loads models or while it does, or goes on with what it has loaded. -/
theorem Exporter.serve_cases (x : Exporter) (r : Request) (s : Session) :
    (∃ f, (x.serve r).result s = (.error f, s)) ∨ ∃ d, x.domain r.domain = .ok d ∧
      ((∃ f u, (d.loadEntities r.domain).result s = (.error f, u) ∧ (x.serve r).result s = (.error f, u)) ∨
        ∃ loading loaded, (d.loadEntities r.domain).result s = (.ok loading, loaded) ∧
          (x.serve r).result s = (x.exportLoaded r.domain d.store (x.planFor r d loading)).result loaded) := by
  rw [serve]
  split
  · cases hd : x.domain r.domain with
    | error f => exact .inl ⟨f, by rw [exportDomain, hd]; rfl⟩
    | ok d =>
      refine .inr ⟨d, rfl, ?_⟩
      rw [exportDomain_eq hd, Run.result_bind]
      rcases (d.loadEntities r.domain).result s with ⟨f | loading, loaded⟩
      · exact .inl ⟨f, loaded, rfl, rfl⟩
      · exact .inr ⟨loading, loaded, rfl, rfl⟩
  · exact .inl ⟨.noOutput, rfl⟩

theorem Exporter.tells_of_serve {x : Exporter} {r : Request} {d : Domain} (hd : x.domain r.domain = .ok d) (hload : d.LoadsApart)
    (h : (x.serve r).result s = (outcome, t)) :
    ∃ loading tables, (x.planFor r d loading).Tells x.settings s t outcome tables := by
  have hnothing : ∀ u : Session, u.written = s.written → ∀ f, ∃ loading tables,
      (x.planFor r d loading).Tells x.settings s u (.error f) tables := by
    intro u hu f
    exact ⟨({}, []), [], tells_none .nothing (hu.trans String.append_empty.symm)⟩
  obtain ⟨f, hserve⟩ | ⟨d', hd', hcases⟩ := x.serve_cases r s
  · cases h.symm.trans hserve
    exact hnothing _ rfl f
  · cases hd.symm.trans hd'
    have hwritten := hload.silent_loadEntities r.domain s
    obtain ⟨f, u, hloaded, hserve⟩ | ⟨loading, loaded, hloaded, hserve⟩ := hcases
    · rw [hloaded] at hwritten
      cases h.symm.trans hserve
      exact hnothing _ hwritten f
    · obtain ⟨added, -, hevents⟩ := hload.leaves_loadEntities r.domain s
      obtain ⟨tables, htells⟩ := tells_of_exportLoaded (hserve.symm.trans h)
      rw [hloaded] at hwritten hevents
      refine ⟨loading, tables, htells.mono ?_ hwritten.symm (List.prefix_refl _) rfl fun _ hreport => hreport⟩
      simp only at hevents
      rw [hevents]
      exact List.prefix_append _ _

end

end TableDump
