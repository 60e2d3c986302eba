import TableDump.Proofs.Export.Accounts
import TableDump.Proofs.Export.RecordRows
import TableDump.Proofs.Markup.LocalNames

/-! # Documents that can be read back

* `buildElement_plain`: the element of a row whose names hold no braces has the texts of the row, in their
  order.
* `nodup_of_extract`: no extracted row holds a name twice.
* `written_of_serve`: an export that returned has written the document of its elements.
* Reading it back gives the root and the extracted rows (`serve_reads_back`).
-/

namespace TableDump
open TableDump.Markup TableDump.Schema TableDump.Text
set_option autoImplicit false

/-! ## Elements of rows -/

theorem Markup.Element.Plain.append {e : Element} (he : e.Plain) {name value : String}
    (hnew : ⟨none, name⟩ ∉ e.attributes.map Prod.fst) (hlocal : isLocalName name = true) (htext : isXmlText value = true) :
    Element.Plain { e with attributes := e.attributes ++ [(⟨none, name⟩, value)] } where
  unspaced := he.unspaced
  named := he.named
  attributesUnspaced := List.forall_mem_append.2 ⟨he.attributesUnspaced, List.forall_mem_singleton.2 rfl⟩
  attributesNamed := List.forall_mem_append.2 ⟨he.attributesNamed, List.forall_mem_singleton.2 hlocal⟩
  texts := List.forall_mem_append.2 ⟨he.texts, List.forall_mem_singleton.2 htext⟩
  nodup := by
    rw [List.map_append, List.map_singleton, List.nodup_append]
    refine ⟨he.nodup, List.nodup_singleton _, fun q hq q' hq' heq => hnew ?_⟩
    rw [heq, List.mem_singleton.1 hq'] at hq
    exact hq

def Row.Unbraced (row : Row) : Prop := ∀ entry ∈ row, '{' ∉ entry.1.toList

theorem foldlM_setColumn {table : String} {row : Row} {e e' : Element} (hrow : row.Unbraced) (he : e.Plain)
    (hnodup : ((e.localAttributes ++ row).map Prod.fst).Nodup) (h : row.foldlM (setColumn table) e = .ok e') :
    e'.Plain ∧ e'.name = e.name ∧ e'.localAttributes = e.localAttributes ++ row := by
  induction row generalizing e with
  | nil =>
    cases h
    exact ⟨he, rfl, (List.append_nil _).symm⟩
  | cons entry rest ih =>
    obtain ⟨hentry, hrest⟩ := List.forall_mem_cons.1 hrow
    rw [List.foldlM_cons] at h
    obtain ⟨mid, hset, h⟩ := outcome_bind_eq_ok_iff.1 h
    have hnew : (⟨none, entry.1⟩ : QualifiedName) ∉ e.attributes.map Prod.fst := by
      intro hmem
      obtain ⟨a, ha, hname⟩ := List.mem_map.1 hmem
      rw [List.map_append, List.map_cons, List.nodup_append] at hnodup
      have hlocal : entry.1 ∈ e.localAttributes.map Prod.fst :=
        List.mem_map.2 ⟨_, List.mem_map_of_mem ha, congrArg QualifiedName.localName hname⟩
      exact hnodup.2.2 _ hlocal _ List.mem_cons_self rfl
    obtain ⟨⟨hlocal, htext⟩, hmid⟩ := (Element.set_eq_ok_iff hentry).1 (mapError_eq_ok_iff.1 hset)
    rw [Element.setAttribute_of_notMem hnew] at hmid
    obtain rfl := hmid
    have hplain := he.append hnew hlocal htext
    have hattributes : Element.localAttributes { e with attributes := e.attributes ++ [(⟨none, entry.1⟩, entry.2)] } =
        e.localAttributes ++ [entry] := by
      simp [Element.localAttributes]
    obtain ⟨hdone, hname, hall⟩ := ih hrest hplain (by rwa [hattributes, List.append_assoc, List.singleton_append]) h
    exact ⟨hdone, hname, by rw [hall, hattributes, List.append_assoc, List.singleton_append]⟩

theorem buildElement_plain {table name : String} {row : Row} {e : Element} (hname : '{' ∉ name.toList)
    (hrow : row.Unbraced) (hnodup : (row.map Prod.fst).Nodup) (h : buildElement table (.str name) row = .ok e) :
    e.Plain ∧ e.name.localName = name ∧ e.localAttributes = row := by
  rw [buildElement] at h
  obtain ⟨first, hmake, h⟩ := outcome_bind_eq_ok_iff.1 h
  obtain ⟨hlocal, rfl⟩ := (Element.make_eq_ok_iff hname).1 (mapError_eq_ok_iff.1 hmake)
  have hplain : Element.Plain { name := ⟨none, name⟩ } :=
    ⟨rfl, hlocal, by simp, by simp, by simp, List.nodup_nil⟩
  obtain ⟨he, hsame, hall⟩ := foldlM_setColumn hrow hplain hnodup h
  exact ⟨he, by rw [hsame], hall⟩

/-! ## Names of extracted rows -/

theorem nodup_of_mapRecord {e : Encoding} {n : Naming} {columns : List Column} {record : List Value} {row : Row} {s t : Session}
    (h : (mapRecord e n columns record).result s = (.ok row, t)) : (row.map Prod.fst).Nodup := by
  obtain ⟨cells, -, rfl⟩ := row_of_mapRecord h
  exact Row.nodup_putAll [] List.nodup_nil cells

namespace Extractor
variable {x : Extractor}

theorem mem_rowsOf {rows : List Row} {keys : List String} {row : Row} (h : row ∈ rowsOf rows keys) : row ∈ rows := by
  obtain ⟨key, -, hfound⟩ := List.mem_filterMap.1 h
  exact List.mem_of_find?_eq_some hfound

/-- The hierarchy only puts rows in order and leaves rows out. -/
theorem mem_of_followHierarchy {table : String} {rows ordered : List Row} {s t : Session}
    (h : (x.followHierarchy table rows).result s = (.ok ordered, t)) : ∀ row ∈ ordered, row ∈ rows := by
  rw [followHierarchy] at h
  split at h
  · obtain ⟨_, u, -, h⟩ := Run.bind_eq_ok_iff.1 h
    cases h
    exact fun row hrow => hrow
  · obtain ⟨_, u, -, h⟩ := Run.bind_eq_ok_iff.1 h
    obtain ⟨keys, v, -, h⟩ := Run.bind_eq_ok_iff.1 h
    simp only at h
    split at h
    · obtain ⟨_, w, -, h⟩ := Run.bind_eq_ok_iff.1 h
      cases h
      exact fun row hrow => mem_rowsOf hrow
    · cases h
      exact fun row hrow => mem_rowsOf hrow

theorem nodup_of_mapRecords {table : String} {n : Naming} {columns : List Column} {records : List (List Value)} {rows : List Row}
    {s t : Session} (h : (x.mapRecords table n columns records).result s = (.ok rows, t)) :
    ∀ row ∈ rows, (row.map Prod.fst).Nodup := by
  rw [mapRecords, Run.wrap, Run.recover_eq_ok_iff] at h
  rcases h with h | ⟨f, u, -, -, h⟩
  · intro row hrow
    obtain ⟨record, -, u, v, hmapped⟩ := exists_of_forall₂ (Run.forall₂_of_mapM h) hrow
    exact nodup_of_mapRecord hmapped
  · cases h

theorem nodup_of_extract {entities : EntityIndex} {relations : RelationTables} {threshold : Json} {table : String}
    {extracted : ExtractedTable} {s t : Session}
    (h : (x.extract entities relations threshold table).result s = (.ok extracted, t)) :
    ∀ row ∈ extracted.rows, (row.map Prod.fst).Nodup := by
  rw [extract_eq] at h
  obtain ⟨named, u, -, h⟩ := Run.bind_eq_ok_iff.1 h
  obtain ⟨read, v, -, h⟩ := Run.bind_eq_ok_iff.1 h
  obtain ⟨rows, w, hmapped, h⟩ := Run.bind_eq_ok_iff.1 h
  obtain ⟨follows, w', -, h⟩ := Run.bind_eq_ok_iff.1 h
  have hnodup := nodup_of_mapRecords hmapped
  cases follows with
  | true =>
    obtain ⟨ordered, w'', hordered, h⟩ := Run.bind_eq_ok_iff.1 h
    cases h
    exact fun row hrow => hnodup row (mem_of_followHierarchy hordered row hrow)
  | false =>
    cases h
    exact hnodup

end Extractor

/-! ## Written documents -/

theorem confined_exportTables (settings : Settings) (p : ExportPlan) :
    Run.Confined (fun _ => True) (exportTables settings p) := by
  have hstop : ∀ n f, Run.Confined (fun _ => True) (stopAt n f) :=
    fun n f => (Run.confined_log trivial).bind fun _ => Run.confined_pure _
  have htable : ∀ table, Run.Confined (fun _ => True) (exportTable p table) := by
    intro table
    refine ((confined_tableElements p table).mono fun _ _ => trivial).attempt.bind fun outcome => ?_
    cases outcome with
    | ok es => exact Run.confined_pure _
    | error f => exact (Run.confined_log trivial).bind fun _ => Run.confined_pure _
  have hsorted : ∀ tables, Run.Confined (fun _ => True) (exportInOrder p tables) := by
    intro tables
    refine Run.Confined.recover ?_ (hstop _)
    refine ((blind_sortTables _ tables).confined.mono fun _ _ => trivial).bind fun order => ?_
    exact (Run.confined_mapM order fun table _ => htable table).bind fun _ => Run.confined_pure _
  refine ((blind_catalogTables _).confined.mono fun _ _ => trivial).attempt.bind fun listed => ?_
  cases listed with
  | ok listed => exact (Run.confined_lift _).bind hsorted
  | error f =>
    simp only
    split
    · exact hstop 0 f
    · exact Run.confined_throw f

namespace Exporter
variable {x : Exporter} {r : Request} {d : Domain} {s t : Session} {report : Report}

theorem written_of_serve (hd : x.domain r.domain = .ok d) (hserve : (x.serve r).result s = (.ok report, t)) :
    ∃ loading loaded root, (d.loadEntities r.domain).result s = (.ok loading, loaded) ∧
      readRoot x.settings.rootElement = .ok root ∧ t.written = loaded.written ++ document root report.elements := by
  obtain ⟨loading, loaded, v, -, hload, hwritten, rfl⟩ := (serve_eq_ok_iff hd).1 hserve
  obtain ⟨-, -, u, hdocument, rfl⟩ := withConnection_eq_ok_iff.1 hwritten
  obtain ⟨root, w, hroot, hbody, rfl⟩ := writeDocument_eq_ok_iff.1 hdocument
  obtain ⟨added, -, hleft⟩ := (confined_exportTables x.settings (x.planFor r d loading)).result_eq
    ((loaded.extend [.opened]).wrote (declaration ++ startTag root))
  obtain rfl := (Prod.mk.inj (hbody.symm.trans hleft)).2
  refine ⟨loading, loaded, root, hload, hroot, ?_⟩
  simp only [Session.wrote, Session.extend, document, String.append_assoc]

end Exporter

/-! ## Reading back -/

namespace ExtractedTable

/-- The rows, each with the name under which it is exported. -/
def namedRows (extracted : ExtractedTable) : List (String × Row) :=
  match extracted.exportedName with
  | .str name => extracted.rows.map fun row => (name, row)
  | _ => []

/-- No exported name and no name of a column holds a brace that opens. -/
def Unbraced (extracted : ExtractedTable) : Prop :=
  (∀ name, extracted.exportedName = .str name → '{' ∉ name.toList) ∧ ∀ row ∈ extracted.rows, row.Unbraced

end ExtractedTable

/-- What was extracted from a table in the course of an export. -/
def ExportPlan.Extracts (p : ExportPlan) (s t : Session) (table : String) (extracted : ExtractedTable) : Prop :=
  ∃ u v, (p.extractor.extract p.entities p.relations p.threshold table).result u = (.ok extracted, v) ∧
    s.events <+: u.events ∧ v.events <+: t.events

/-- An element as a reader sees it. -/
def Markup.Element.seen (e : Element) : String × Row := (e.name.localName, e.localAttributes)

theorem seen_of_buildElement {table name : String} {rows : List Row} {block : List Element} (hname : '{' ∉ name.toList)
    (hrows : ∀ row ∈ rows, row.Unbraced) (hnodup : ∀ row ∈ rows, (row.map Prod.fst).Nodup)
    (h : List.Forall₂ (fun row e => buildElement table (.str name) row = .ok e) rows block) :
    (∀ e ∈ block, e.Plain) ∧ block.map Element.seen = rows.map fun row => (name, row) := by
  induction h with
  | nil => exact ⟨by simp, rfl⟩
  | @cons row e rows block hbuild _ ih =>
    obtain ⟨hrow, hrows⟩ := List.forall_mem_cons.1 hrows
    obtain ⟨hhead, hnodup⟩ := List.forall_mem_cons.1 hnodup
    obtain ⟨hplain, hlocal, hattributes⟩ := buildElement_plain hname hrow hhead hbuild
    obtain ⟨hall, hseen⟩ := ih hrows hnodup
    refine ⟨List.forall_mem_cons.2 ⟨hplain, hall⟩, ?_⟩
    rw [List.map_cons, List.map_cons, hseen, Element.seen, hlocal, hattributes]

/-- Only a text names elements. -/
theorem block_eq_nil {table : String} {name : Json} {rows : List Row} {block : List Element} (hname : ∀ s, name ≠ .str s)
    (h : List.Forall₂ (fun row e => buildElement table name row = .ok e) rows block) : block = [] := by
  cases h with
  | nil => rfl
  | @cons row e rows block hbuild _ =>
    obtain ⟨first, hmake, -⟩ := outcome_bind_eq_ok_iff.1 hbuild
    have hmade := mapError_eq_ok_iff.1 hmake
    cases name with
    | str s => exact absurd rfl (hname s)
    | _ => cases hmade

/-- The elements of a table are read as its rows. -/
theorem seen_of_yields {p : ExportPlan} {s t : Session} {table : String} {block : List Element}
    (h : p.Yields s t table block) : ∃ extracted, p.Extracts s t table extracted ∧ (extracted.Unbraced →
      (∀ e ∈ block, e.Plain) ∧ block.map Element.seen = extracted.namedRows) := by
  obtain ⟨u, v, extracted, hextract, hu, hv, hrows⟩ := h
  refine ⟨extracted, ⟨u, v, hextract, hu, hv⟩, fun hunbraced => ?_⟩
  have hnodup := Extractor.nodup_of_extract hextract
  rw [ExtractedTable.namedRows]
  split
  · next name hname =>
    rw [hname] at hrows
    exact seen_of_buildElement (hunbraced.1 name hname) hunbraced.2 hnodup hrows
  · next hname =>
    rw [block_eq_nil (fun s heq => hname s heq) hrows]
    exact ⟨by simp, rfl⟩

theorem seen_of_forall₂_yields {p : ExportPlan} {s t : Session} {exported : List String} {blocks : List (List Element)}
    (h : List.Forall₂ (p.Yields s t) exported blocks) : ∃ tables, List.Forall₂ (p.Extracts s t) exported tables ∧
      ((∀ extracted ∈ tables, extracted.Unbraced) → (∀ e ∈ blocks.flatten, e.Plain) ∧
        blocks.flatten.map Element.seen = tables.flatMap ExtractedTable.namedRows) := by
  induction h with
  | nil => exact ⟨[], .nil, fun _ => ⟨by simp, rfl⟩⟩
  | cons hyields _ ih =>
    obtain ⟨extracted, hextracts, hhead⟩ := seen_of_yields hyields
    obtain ⟨tables, htables, hrest⟩ := ih
    refine ⟨extracted :: tables, .cons hextracts htables, fun hunbraced => ?_⟩
    obtain ⟨hfirst, hunbraced⟩ := List.forall_mem_cons.1 hunbraced
    obtain ⟨hplain, hseen⟩ := hhead hfirst
    obtain ⟨hplains, hseens⟩ := hrest hunbraced
    rw [List.flatten_cons, List.map_append, List.flatMap_cons, hseen, hseens]
    exact ⟨List.forall_mem_append.2 ⟨hplain, hplains⟩, rfl⟩

namespace Exporter
variable {x : Exporter} {r : Request} {d : Domain} {s t : Session} {report : Report}

theorem yields_of_serve (hd : x.domain r.domain = .ok d) (hserve : (x.serve r).result s = (.ok report, t))
    {loading : EntityIndex × RelationTables} {loaded : Session} (hload : (d.loadEntities r.domain).result s = (.ok loading, loaded)) :
    ∃ blocks, List.Forall₂ ((x.planFor r d loading).Yields loaded t) report.exported blocks ∧ report.elements = blocks.flatten := by
  by_cases houtcomes : report.outcomes = []
  · refine ⟨[], ?_, ?_⟩
    · rw [Report.exported, houtcomes]
      exact .nil
    · rw [Report.elements, houtcomes]
      rfl
  · obtain ⟨order, ⟨c⟩⟩ := course_of_outcomes hd hserve houtcomes
    have hloading := c.loading_eq hload
    have hloaded : c.loaded = loaded := (Prod.mk.inj (c.loads.symm.trans hload)).2
    refine ⟨report.blocks, ?_, report.elements_eq_flatten⟩
    rw [← hloading, ← hloaded]
    exact c.yields

/-- What an export has written is read back as the root with the rows of the exported tables. -/
theorem serve_reads_back (hd : x.domain r.domain = .ok d) (hserve : (x.serve r).result s = (.ok report, t)) {root : String}
    (hroot : x.settings.rootElement = .str root) (hname : isDocumentName root = true) :
    ∃ loading loaded text tables, (d.loadEntities r.domain).result s = (.ok loading, loaded) ∧
      t.written = loaded.written ++ text ∧
      List.Forall₂ ((x.planFor r d loading).Extracts loaded t) report.exported tables ∧
      ((∀ extracted ∈ tables, extracted.Unbraced) → ∃ node, readNode? text = some node ∧ node.name? = some root ∧
        node.rows = tables.flatMap ExtractedTable.namedRows) := by
  obtain ⟨loading, loaded, root', hload, hreadRoot, hwritten⟩ := written_of_serve hd hserve
  rw [hroot, readRoot_name hname] at hreadRoot
  obtain rfl := Except.ok.inj hreadRoot
  obtain ⟨blocks, hyields, helements⟩ := yields_of_serve hd hserve hload
  obtain ⟨tables, htables, hseen⟩ := seen_of_forall₂_yields hyields
  refine ⟨loading, loaded, _, tables, hload, hwritten, htables, fun hunbraced => ?_⟩
  obtain ⟨hplain, hrows⟩ := hseen hunbraced
  rw [← helements] at hplain hrows
  exact ⟨_, readNode?_document hname hplain, rfl, (rows_rowNodes root report.elements).trans hrows⟩

/-- What is extracted from the shop's tables of two rows. -/
def shopRows (table : String) : ExtractedTable := ⟨table, .str table, [[("id", "1")], [("id", "2")]]⟩

theorem unbraced_shopRows {table : String} (h : '{' ∉ table.toList) : (shopRows table).Unbraced := by
  have hid : '{' ∉ "id".toList := by decide
  refine ⟨fun name hname => ?_, List.forall_mem_cons.2 ⟨?_, List.forall_mem_singleton.2 ?_⟩⟩
  · cases hname
    exact h
  · exact List.forall_mem_singleton.2 hid
  · exact List.forall_mem_singleton.2 hid

theorem extracts_shop {s t : Session} {table : String} (htable : table = "customers" ∨ table = "orders")
    {extracted : ExtractedTable} (h : (shop.planFor { domain := "shop" } shopDomain ({}, [])).Extracts s t table extracted) :
    extracted = shopRows table := by
  obtain ⟨u, v, hextract, -⟩ := h
  obtain rfl | rfl := htable
  · cases hextract
    rfl
  · cases hextract
    rfl

theorem serve_reads_back_shop : ∃ report t, (shop.serve { domain := "shop" }).result {} = (.ok report, t) ∧
    shop.settings.rootElement = .str "dataset" ∧ isDocumentName "dataset" = true ∧
    ∃ node, readNode? t.written = some node ∧ node.name? = some "dataset" ∧
      node.rows = [("customers", [("id", "1")]), ("customers", [("id", "2")]), ("orders", [("id", "1")]),
        ("orders", [("id", "2")])] := by
  obtain ⟨report, t, ⟨c⟩⟩ := course_shop
  have hserve : (shop.serve { domain := "shop" }).result {} = (.ok report, t) := c.serves rfl
  have hname : isDocumentName "dataset" = true := by decide +kernel
  obtain ⟨loading, loaded, text, tables, hload, hwritten, htables, hread⟩ :=
    serve_reads_back (x := shop) (r := { domain := "shop" }) (d := shopDomain) rfl hserve rfl hname
  cases loads_shop.symm.trans hload
  rw [exported_shop c] at htables
  obtain ⟨customers, rest, hcustomers, hrest, rfl⟩ := List.forall₂_cons_left_iff.1 htables
  obtain ⟨orders, none, horders, hnone, rfl⟩ := List.forall₂_cons_left_iff.1 hrest
  obtain rfl := List.forall₂_nil_left_iff.1 hnone
  obtain rfl := extracts_shop (.inl rfl) hcustomers
  obtain rfl := extracts_shop (.inr rfl) horders
  have hunbraced : ∀ extracted ∈ [shopRows "customers", shopRows "orders"], extracted.Unbraced :=
    List.forall_mem_cons.2 ⟨unbraced_shopRows (by decide), List.forall_mem_singleton.2 (unbraced_shopRows (by decide))⟩
  obtain ⟨node, hnode, hroot, hrows⟩ := hread hunbraced
  have htext : t.written = text := hwritten.trans (String.empty_append)
  exact ⟨report, t, hserve, rfl, hname, node, htext ▸ hnode, hroot, hrows⟩

end Exporter
end TableDump
