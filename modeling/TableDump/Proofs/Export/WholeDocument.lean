import TableDump.Proofs.Export.ExportRun
import TableDump.Proofs.Store.StoreFaults

/-! # Whole documents

What an export has written in whatever way it ends.

* `wellFormed_of_buildElement`: an element that was built for a row is well-formed, whatever its names and texts.
* `Settings.NamesRoot`, `Settings.ExcludesTexts`: what accepted settings leave open.
* `ends_exportTables`: over a store whose metadata fail with faults of the database layer, only excluded prefixes that are
  no texts end the export of tables. Its elements are well-formed.
* `Exporter.WritesWhole`: nothing or one whole document is written, and nothing by an export that fails. Every export with
  a named root writes so (`serve_writes_whole`); with another root it leaves a document without an end
  (`serve_leaves_declaration`).
-/

namespace TableDump
open TableDump.Markup TableDump.Schema TableDump.Text
set_option autoImplicit false

/-! ## Built elements -/

namespace Markup
namespace QualifiedName
variable {s : String} {q : QualifiedName}

theorem mem_of_split {cs : List Char} (h : split cs = .ok q) : ∀ space ∈ q.space, ∀ c ∈ space.toList, c ∈ cs := by
  intro space hspace c hc
  rw [split.eq_def] at h
  split at h
  · cases h
  · next rest =>
    split at h
    · cases h
    · cases h
    · cases h
      simp only at hspace
      split at hspace
      · cases hspace
      · cases hspace
        rw [String.toList_ofList] at hc
        exact List.mem_cons_of_mem _ ((List.takeWhile_prefix _).subset hc)
  · cases h
    cases hspace

theorem declarable_of_read (h : read s = .ok q) : q.Declarable := by
  rw [read] at h
  split at h
  · next htext =>
    exact fun space hspace => List.all_eq_true.2 fun c hc => List.all_eq_true.1 htext c (mem_of_split h space hspace c hc)
  · cases h

theorem declarable_of_readRoot {j : Json} (h : readRoot j = .ok q) : q.Declarable := by
  cases j with
  | str s => exact declarable_of_read h
  | _ => cases h

end QualifiedName

namespace Element
variable {e e' : Element} {q : QualifiedName}

theorem wellFormed_of_name (hname : isDocumentName q.localName = true) (hspace : q.Declarable) :
    WellFormed { name := q } where
  named := hname
  attributesNamed := List.forall_mem_nil _
  declarable := List.forall_mem_singleton.2 hspace
  texts := List.forall_mem_nil _
  nodup := List.nodup_nil

theorem forall_mem_setAttribute {P : QualifiedName × String → Prop} {value : String} (hnew : P (q, value))
    {attributes : List (QualifiedName × String)} (hold : ∀ a ∈ attributes, P a) : ∀ a ∈ setAttribute q value attributes, P a := by
  induction attributes with
  | nil => exact List.forall_mem_singleton.2 hnew
  | cons old rest ih =>
    obtain ⟨hfirst, hrest⟩ := List.forall_mem_cons.1 hold
    rw [setAttribute]
    split
    · next hname =>
      obtain rfl := hname
      exact List.forall_mem_cons.2 ⟨hnew, hrest⟩
    · exact List.forall_mem_cons.2 ⟨hfirst, ih hrest⟩

theorem WellFormed.set {name value : String} (h : e.WellFormed) (hset : e.set name value = .ok e') : e'.WellFormed := by
  obtain ⟨q, hq, htext, rfl⟩ := set_eq_ok hset
  obtain ⟨hread, hlocal⟩ := QualifiedName.read_of_forAttribute hq
  have hspace := QualifiedName.declarable_of_read hread
  obtain ⟨hown, hothers⟩ := List.forall_mem_cons.1 h.declarable
  refine ⟨h.named, forall_mem_setAttribute hlocal h.attributesNamed, ?_, forall_mem_setAttribute htext h.texts, ?_⟩
  · refine List.forall_mem_cons.2 ⟨hown, List.forall_mem_map.2 ?_⟩
    exact forall_mem_setAttribute (P := fun a => a.1.Declarable) hspace (List.forall_mem_map.1 hothers)
  · simp only
    rw [names_setAttribute]
    split
    · exact h.nodup
    · next hnew =>
      refine List.nodup_append.2 ⟨h.nodup, List.nodup_singleton q, fun other hother name hname heq => hnew ?_⟩
      rwa [← List.mem_singleton.1 hname, ← heq]

end Element
end Markup

theorem wellFormed_of_buildElement {table : String} {name : Json} {row : Row} {e : Element}
    (h : buildElement table name row = .ok e) : e.WellFormed := by
  rw [buildElement] at h
  obtain ⟨first, hmake, h⟩ := outcome_bind_eq_ok_iff.1 h
  have hmade := mapError_eq_ok_iff.1 hmake
  cases name with
  | str name =>
    obtain ⟨q, hq, rfl⟩ := outcome_map_eq_ok_iff.1 hmade
    obtain ⟨hread, hlocal⟩ := QualifiedName.read_of_forElement hq
    have hempty := Element.wellFormed_of_name (isDocumentName_of_isLocalName hlocal) (QualifiedName.declarable_of_read hread)
    exact outcome_foldlM_keeps (fun _ _ _ he hset => he.set (mapError_eq_ok_iff.1 hset)) hempty h
  | _ => cases hmade

/-! ## Settings and domains -/

namespace Settings
variable {settings : Settings}

def IsAccepted (settings : Settings) : Prop := ∃ given : Settings, given.make = .ok settings

/-- The root has a name that a document can hold. -/
def NamesRoot (settings : Settings) : Prop := ∃ q, readRoot settings.rootElement = .ok q ∧ isDocumentName q.localName = true

def ExcludesTexts (settings : Settings) : Prop :=
  ∀ prefixes, settings.excludedPrefixes.items = .ok prefixes → ∀ p ∈ prefixes, p.IsText

theorem IsAccepted.exists_prefixes (h : settings.IsAccepted) : ∃ prefixes, settings.excludedPrefixes.items = .ok prefixes := by
  obtain ⟨given, hmade⟩ := h
  rw [make] at hmade
  split at hmade
  · cases hmade
  · split at hmade
    · obtain ⟨prefixes, -, rfl⟩ := outcome_map_eq_ok_iff.1 hmade
      exact ⟨prefixes, rfl⟩
    · cases hmade
      exact ⟨[], rfl⟩

theorem exists_allowsUpper (name : String) {prefixes : List Json} (h : ∀ p ∈ prefixes, p.IsText) :
    ∃ allowed, allowsUpper name prefixes = .ok allowed := by
  induction prefixes with
  | nil => exact ⟨true, rfl⟩
  | cons p rest ih =>
    obtain ⟨⟨text, rfl⟩, hrest⟩ := List.forall_mem_cons.1 h
    simp only [allowsUpper, Json.textFor, bind, Except.bind]
    split
    · exact ⟨false, rfl⟩
    · exact ih hrest

theorem not_excludesTexts_of_discover (h : settings.IsAccepted) {listed : List String} {f : Fault}
    (hf : settings.discover listed = .error f) : ¬ settings.ExcludesTexts := by
  intro htexts
  obtain ⟨prefixes, hprefixes⟩ := h.exists_prefixes
  obtain ⟨g, ⟨table, -, hg⟩, -⟩ | ⟨-, hallowed⟩ := settings.allowed_cases listed
  · obtain ⟨allowed, hallowed⟩ := exists_allowsUpper (upper table) (htexts prefixes hprefixes)
    rw [allows, hprefixes] at hg
    cases hg.symm.trans hallowed
  · rw [discover, hallowed] at hf
    cases hf

end Settings

/-- Models that are loaded apart from tables and document, and a store whose metadata fail with faults of the database
layer. -/
structure Domain.Sound (d : Domain) : Prop where
  loads : d.LoadsApart
  catalog : d.store.CatalogFaults

/-! ## Tables -/

section
variable {settings : Settings} {p : ExportPlan}

def Report.WellFormed (report : Report) : Prop := ∀ e ∈ report.elements, e.WellFormed

theorem ends_exportTable (Q : Fault → Prop) (table : String) :
    Run.Ends Q (fun o => ∀ e ∈ o.elements, e.WellFormed) (exportTable p table) := by
  have helements : Run.Ends (fun _ => True) (fun es : List Element => ∀ e ∈ es, e.WellFormed) (tableElements p table) := by
    refine (Run.ends_anyhow _).bind fun extracted _ => Run.ends_lift (fun _ _ => trivial) fun es hes e he => ?_
    obtain ⟨row, -, hbuild⟩ := exists_of_forall₂ (forall₂_of_mapM_ok hes) he
    exact wellFormed_of_buildElement hbuild
  refine helements.attempt.bind fun outcome houtcome => ?_
  cases outcome with
  | ok es => exact Run.ends_pure (a := TableOutcome.mk table (.ok es)) houtcome
  | error f => exact (Run.ends_record _).bind fun _ _ => Run.ends_pure (List.forall_mem_nil _)

theorem ends_stopAt (Q : Fault → Prop) (n : Nat) (f : Fault) : Run.Ends Q Report.WellFormed (stopAt n f) :=
  (Run.ends_record _).bind fun _ _ => Run.ends_pure (List.forall_mem_nil _)

theorem ends_exportInOrder (Q : Fault → Prop) (hcatalog : p.extractor.store.CatalogFaults) (tables : List String) :
    Run.Ends Q Report.WellFormed (exportInOrder p tables) := by
  have hreferences : ∀ table, Run.Ends (fun f => f.kind = .metadata) (fun _ => True)
      (readReferences p.extractor.catalog.imports table) := fun table =>
    (Catalog.ends_imports hcatalog table).bind fun _ _ => Run.ends_pure trivial
  have hsorted : Run.Ends (fun f => f.kind = .metadata) (fun _ => True) (sortTables p.extractor.catalog.imports tables) :=
    (Run.ends_mapM fun table _ => hreferences table).bind fun _ _ => Run.ends_pure trivial
  -- the fault can only be one of sorting, which is caught; tables keep their faults in their outcomes
  refine Run.Ends.recover (R := fun f => f.kind = .metadata) ?_ (fun f hkind hpass => ?_) fun f _ _ => ends_stopAt Q _ f
  · refine hsorted.bind fun order _ => (Run.ends_mapM fun table _ => ends_exportTable _ table).bind fun outcomes houtcomes => ?_
    refine Run.ends_pure fun e he => ?_
    obtain ⟨o, ho, heo⟩ := List.mem_flatMap.1 he
    exact houtcomes o ho e heo
  · simp [isCatalogFault, hkind] at hpass

/-- Only prefixes that cannot be compared end the export of tables. -/
theorem ends_exportTables (settings : Settings) (hcatalog : p.extractor.store.CatalogFaults) :
    Run.Ends (fun f => ∃ listed, settings.discover listed = .error f) Report.WellFormed (exportTables settings p) := by
  refine (Catalog.ends_tables hcatalog).attempt.bind fun outcome houtcome => ?_
  cases outcome with
  | ok listed =>
    refine Run.Ends.bind (G := fun _ => True) ?_ fun tables _ => ends_exportInOrder _ hcatalog tables
    exact Run.ends_lift (fun _ hf => ⟨listed, hf⟩) fun _ _ => trivial
  | error f =>
    have hkind : isCatalogFault f = true := beq_iff_eq.2 houtcome
    simp only [hkind, if_true]
    exact ends_stopAt _ 0 f

end

/-! ## Documents -/

/-- The text is read as a document of the given root with the given rows. -/
def Markup.HoldsRows (root : QualifiedName) (text : String) (rows : List Element) : Prop :=
  ∃ node, readNode? text = some node ∧ node.name? = some (rootTag root).name ∧
    node.rows = rows.map fun e => (e.tag.name, e.tag.attributes)

theorem holdsRows_document {root : QualifiedName} (hroot : (rootTag root).Readable) {rows : List Element}
    (hrows : ∀ e ∈ rows, e.tag.Readable) : HoldsRows root (document root rows) rows := by
  refine ⟨_, readNode?_written hroot hrows, rfl, ?_⟩
  rw [rows_tagNodes, List.map_map]
  rfl

theorem holdsRows_closed {root : QualifiedName} (hroot : (rootTag root).Readable) :
    HoldsRows root (declaration ++ startTag root ++ endTag root) [] :=
  ⟨_, readNode?_closed hroot, rfl, rfl⟩

/-- One document was written, with the rows of the report that the export gives, or without rows. -/
def WritesDocument (settings : Settings) (s t : Session) (outcome : Except Fault Report) : Prop :=
  ∃ root text rows, readRoot settings.rootElement = .ok root ∧ t.written = s.written ++ text ∧ HoldsRows root text rows ∧
    ∀ report, outcome = .ok report → rows = report.elements

theorem writesDocument_of_writeDocument {settings : Settings} (hroot : settings.NamesRoot) {p : ExportPlan}
    (hcatalog : p.extractor.store.CatalogFaults) {s t : Session} {outcome : Except Fault Report}
    (h : (writeDocument settings.rootElement (exportTables settings p)).result s = (outcome, t)) :
    WritesDocument settings s t outcome ∧ ∀ f, outcome = .error f → ∃ listed, settings.discover listed = .error f := by
  obtain ⟨root, hread, hname⟩ := hroot
  have hreadable := (Element.wellFormed_of_name hname (QualifiedName.declarable_of_readRoot hread)).readable
  obtain ⟨added, -, hbody⟩ := (confined_exportTables settings p).result_eq (s.wrote (declaration ++ startTag root))
  have hends := ends_exportTables settings hcatalog
  rw [result_writeDocument, hread] at h
  simp only [hbody] at h
  cases hreport : (exportTables settings p).outcomeAt (s.wrote (declaration ++ startTag root)).openedCount with
  | error f =>
    rw [hreport] at h hbody
    cases h
    refine ⟨⟨root, declaration ++ startTag root ++ endTag root, [], hread, ?_, holdsRows_closed hreadable, ?_⟩, ?_⟩
    · simp only [Session.wrote, Session.extend, String.append_assoc]
    · rintro _ ⟨⟩
    · rintro _ ⟨⟩
      exact hends.fault hbody
  | ok report =>
    rw [hreport] at h hbody
    cases h
    have hrows := holdsRows_document hreadable fun e he => (hends.value hbody e he).readable
    refine ⟨⟨root, document root report.elements, report.elements, hread, ?_, hrows, ?_⟩, ?_⟩
    · simp only [Session.wrote, Session.extend, document, String.append_assoc]
    · rintro _ ⟨⟩
      rfl
    · rintro _ ⟨⟩

theorem ends_writeDocument {settings : Settings} (haccepted : settings.IsAccepted) (hroot : settings.NamesRoot)
    (htexts : settings.ExcludesTexts) {p : ExportPlan} (hcatalog : p.extractor.store.CatalogFaults) {Q : Fault → Prop} :
    Run.Ends Q (fun _ => True) (writeDocument settings.rootElement (exportTables settings p)) := by
  intro s
  rcases hresult : (writeDocument settings.rootElement (exportTables settings p)).result s with ⟨f | report, t⟩
  · obtain ⟨listed, hlisted⟩ := (writesDocument_of_writeDocument hroot hcatalog hresult).2 f rfl
    exact absurd htexts (Settings.not_excludesTexts_of_discover haccepted hlisted)
  · trivial

/-! ## Exports -/

namespace Exporter
variable {x : Exporter} {r : Request} {d : Domain} {s s' t t' : Session} {outcome : Except Fault Report}

/-- What follows the loading of the models fails only where the next connection cannot be opened. -/
theorem endsAt_exportLoaded (haccepted : x.settings.IsAccepted) (hroot : x.settings.NamesRoot) (htexts : x.settings.ExcludesTexts)
    {p : ExportPlan} (hcatalog : p.extractor.store.CatalogFaults) {store : Store} {n : Nat}
    (hconnect : ∀ f, store.connect (n + 1) = .error f → f.kind.isDatabase = true)
    (hclose : ∀ f, store.close = .error f → f.kind.isDatabase = true) (name : String) :
    Run.EndsAt n (fun f => f.kind = .connection ∧ ∃ g, store.connect (n + 1) = .error g)
      (fun _ => store.connect (n + 1) = .ok ()) (x.exportLoaded name store p) := by
  intro s hs
  obtain ⟨told, -, hresult⟩ := result_exportLoaded x name store p s
  have hconnected : Run.EndsAt n (fun f => f.kind = .connection ∧ ∃ g, store.connect (n + 1) = .error g)
      (fun _ => store.connect (n + 1) = .ok ())
      (store.withConnection (writeDocument x.settings.rootElement (exportTables x.settings p))) := by
    refine Store.endsAt_withConnection hconnect hclose (fun hopens => ?_) fun f hf => ⟨rfl, f, hf⟩
    exact (ends_writeDocument haccepted hroot htexts hcatalog).mono (fun _ hf => hf) fun _ _ => hopens
  rw [hresult]
  exact hconnected s hs

/-- Nothing or one document is written. When the export fails it is nothing, but for faults of excluded prefixes that are no
texts and for faults of closing that the database layer does not know. -/
structure WritesWhole (x : Exporter) (r : Request) (s t : Session) (outcome : Except Fault Report) : Prop where
  whole : t.written = s.written ∨ WritesDocument x.settings s t outcome
  returned : ∀ report, outcome = .ok report → WritesDocument x.settings s t outcome
  raised : ∀ f, outcome = .error f → t.written = s.written ∨ ¬ x.settings.ExcludesTexts ∨
    ∃ d, x.domain r.domain = .ok d ∧ d.store.closing = .error f

theorem writesWhole_of_nothing (hwritten : t.written = s.written) (f : Fault) : x.WritesWhole r s t (.error f) where
  whole := .inl hwritten
  returned := nofun
  raised _ _ := .inl hwritten

theorem WritesWhole.mono (h : x.WritesWhole r s t outcome) (hbefore : s'.written = s.written) (hafter : t'.written = t.written) :
    x.WritesWhole r s' t' outcome := by
  have hdocument : WritesDocument x.settings s t outcome → WritesDocument x.settings s' t' outcome := by
    rintro ⟨root, text, rows, hroot, htext, hrest⟩
    exact ⟨root, text, rows, hroot, by rw [hafter, htext, hbefore], hrest⟩
  have hnothing : t.written = s.written → t'.written = s'.written := fun hsame => by rw [hafter, hsame, hbefore]
  refine ⟨h.whole.imp hnothing hdocument, fun report hreport => ?_, fun f hf => ?_⟩
  · exact hdocument (h.returned report hreport)
  · exact (h.raised f hf).imp_left hnothing

theorem writesWhole_of_withConnection (haccepted : x.settings.IsAccepted) (hroot : x.settings.NamesRoot)
    (hd : x.domain r.domain = .ok d) {p : ExportPlan} (hcatalog : p.extractor.store.CatalogFaults)
    (h : (d.store.withConnection (writeDocument x.settings.rootElement (exportTables x.settings p))).result s = (outcome, t)) :
    x.WritesWhole r s t outcome := by
  rw [Store.result_withConnection] at h
  cases hopening : d.store.opening (s.openedCount + 1) with
  | error f =>
    rw [hopening] at h
    cases h
    have hwritten : (s.extend [.opened]).written = s.written := rfl
    exact writesWhole_of_nothing hwritten f
  | ok _ =>
    rw [hopening] at h
    rcases hdocument : (writeDocument x.settings.rootElement (exportTables x.settings p)).result (s.extend [.opened])
      with ⟨made, u⟩
    obtain ⟨⟨root, text, rows, hread, hwritten, hrows, hreport⟩, hfault⟩ :=
      writesDocument_of_writeDocument hroot hcatalog hdocument
    simp only [hdocument] at h
    cases hclosing : d.store.closing with
    | error f =>
      rw [hclosing] at h
      cases h
      refine ⟨.inr ⟨root, text, rows, hread, hwritten, hrows, nofun⟩, nofun, ?_⟩
      rintro _ ⟨⟩
      exact .inr (.inr ⟨d, hd, hclosing⟩)
    | ok _ =>
      rw [hclosing] at h
      cases h
      have hwrote : WritesDocument x.settings s (u.extend [.closed]) outcome :=
        ⟨root, text, rows, hread, hwritten, hrows, hreport⟩
      refine ⟨.inr hwrote, fun _ _ => hwrote, fun f hf => ?_⟩
      obtain ⟨listed, hlisted⟩ := hfault f hf
      exact .inr (.inl (Settings.not_excludesTexts_of_discover haccepted hlisted))

/-- However an export ends, it leaves nothing or one whole document. -/
theorem serve_writes_whole (haccepted : x.settings.IsAccepted) (hroot : x.settings.NamesRoot)
    (hdomain : ∀ d, x.domain r.domain = .ok d → d.Sound) (h : (x.serve r).result s = (outcome, t)) :
    x.WritesWhole r s t outcome := by
  obtain ⟨f, hserve⟩ | ⟨d, hd, hcases⟩ := x.serve_cases r s
  · cases h.symm.trans hserve
    exact writesWhole_of_nothing rfl f
  · have hloads := (hdomain d hd).loads.silent_loadEntities r.domain s
    obtain ⟨f, u, hloaded, hserve⟩ | ⟨loading, loaded, hloaded, hserve⟩ := hcases
    · rw [hloaded] at hloads
      cases h.symm.trans hserve
      exact writesWhole_of_nothing hloads f
    · rw [hloaded] at hloads
      obtain ⟨told, -, hresult⟩ := result_exportLoaded x r.domain d.store (x.planFor r d loading) loaded
      rcases hconnected : (d.store.withConnection (writeDocument x.settings.rootElement
        (exportTables x.settings (x.planFor r d loading)))).result loaded with ⟨made, u⟩
      rw [hconnected] at hresult
      cases h.symm.trans (hserve.trans hresult)
      have hwhole := writesWhole_of_withConnection haccepted hroot hd (hdomain d hd).catalog hconnected
      exact hwhole.mono hloads.symm rfl

theorem sound_shopDomain : shopDomain.Sound where
  loads := Domain.loadsApart_of_confined fun load hload => nomatch hload
  catalog := by
    refine ⟨nofun, nofun, nofun, nofun, fun schema table f hfault => ?_⟩
    simp only [shopDomain, shopStore] at hfault
    split at hfault
    · cases hfault
      rfl
    · cases hfault

theorem sound_of_domain {settings : Settings} :
    ∀ d, Exporter.domain { domains := [("shop", shopDomain)], settings } "shop" = .ok d → d.Sound := by
  rintro _ ⟨⟩
  exact sound_shopDomain

theorem serve_writes_whole_shop : ∃ report t, shop.settings.IsAccepted ∧ shop.settings.NamesRoot ∧
    (∀ d, shop.domain "shop" = .ok d → d.Sound) ∧ (shop.serve { domain := "shop" }).result {} = (.ok report, t) ∧
    report.exported = ["customers", "orders"] ∧ shop.WritesWhole { domain := "shop" } {} t (.ok report) := by
  obtain ⟨report, t, ⟨c⟩⟩ := course_shop
  have hserve : (shop.serve { domain := "shop" }).result {} = (.ok report, t) := c.serves rfl
  have haccepted : shop.settings.IsAccepted := ⟨{}, rfl⟩
  have hroot : shop.settings.NamesRoot := ⟨_, readRoot_name (by decide +kernel), by decide +kernel⟩
  exact ⟨report, t, haccepted, hroot, sound_of_domain, hserve, exported_shop c,
    serve_writes_whole haccepted hroot sound_of_domain hserve⟩

/-- A shop whose root is named by a control character. -/
def garbledShop : Exporter := { domains := [("shop", shopDomain)], settings := { rootElement := .str "\x01" } }

/-- Settings are accepted with any name of the root, which is read when the document has begun. -/
theorem serve_leaves_declaration : ∃ t, garbledShop.settings.IsAccepted ∧ garbledShop.settings.ExcludesTexts ∧
    (∀ d, garbledShop.domain "shop" = .ok d → d.Sound ∧ d.store.closing = .ok ()) ∧
    (garbledShop.serve { domain := "shop" }).result {} = (.error .notXmlText, t) ∧ t.written ≠ "" ∧ readNode? t.written = none ∧
    ¬ garbledShop.WritesWhole { domain := "shop" } {} t (.error .notXmlText) := by
  have hserve : (garbledShop.serve { domain := "shop" }).result {} =
      (.error .notXmlText, { written := declaration, events := [.opened, .closed] }) := rfl
  have htexts : garbledShop.settings.ExcludesTexts := by
    rintro prefixes ⟨⟩
    exact List.forall_mem_cons.2 ⟨⟨_, rfl⟩, List.forall_mem_singleton.2 ⟨_, rfl⟩⟩
  have hdomain : ∀ d, garbledShop.domain "shop" = .ok d → d.Sound ∧ d.store.closing = .ok () := by
    rintro d ⟨⟩
    exact ⟨sound_shopDomain, rfl⟩
  refine ⟨_, ⟨garbledShop.settings, rfl⟩, htexts, hdomain, hserve, by decide, by decide +kernel, fun hwhole => ?_⟩
  obtain hnothing | hprefixes | ⟨d, hd, hclosing⟩ := hwhole.raised _ rfl
  · exact absurd hnothing (by decide)
  · exact hprefixes htexts
  · rw [(hdomain d hd).2] at hclosing
    cases hclosing

end Exporter
end TableDump
