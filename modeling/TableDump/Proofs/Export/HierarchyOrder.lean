import Mathlib.Data.List.Nodup
import TableDump.Proofs.Export.Accounts
import TableDump.Proofs.Export.RecordRows
import TableDump.Store.Database

/-! # Order of the hierarchy

Which rows of the hierarchy table are exported, and which of them are reported as dropped.

* `idText?`: the text of a record in the column named `id`. Whatever the columns are exported as, a row is found by it
  (`Row.id?_of_mapRecord`).
* `firstPositions`: for each key that some row carries, the position of the first such row. The rows at these positions
  are exported, in the order of the keys.
* Keys with distinct texts are exported one row each, and one warning counts the rows left out
  (`extract_in_hierarchy_order`). A row is repeated exactly when the text of a carried key is
  (`extract_repeats_no_row`); the warning then counts too few (`extract_repeats_row`).
-/

namespace TableDump
open TableDump.Text
set_option autoImplicit false

/-! ## Positions -/

/-- The keys that some row carries. -/
def carriedKeys (ids : List (Option String)) (keys : List String) : List String := keys.filter fun key => some key ∈ ids

/-- The position of the first row under each key that some row carries. -/
def firstPositions (ids : List (Option String)) (keys : List String) : List Nat :=
  (carriedKeys ids keys).map fun key => ids.idxOf (some key)

/-- How many of so many rows stand at none of the positions. -/
def leftOut (count : Nat) (positions : List Nat) : Nat := (List.range count).countP fun i => i ∉ positions

section
variable {ids : List (Option String)} {keys : List String}

theorem firstPositions_lt : ∀ i ∈ firstPositions ids keys, i < ids.length := by
  intro i hi
  obtain ⟨key, hkey, rfl⟩ := List.mem_map.1 hi
  exact List.idxOf_lt_length_of_mem (by simpa using List.of_mem_filter hkey)

/-- A row is picked again only for a key given again. -/
theorem nodup_firstPositions_iff : (firstPositions ids keys).Nodup ↔ (carriedKeys ids keys).Nodup := by
  refine ⟨List.Nodup.of_map _, fun h => h.map_on fun key hkey other _ heq => ?_⟩
  have hcarried : some key ∈ ids := by simpa using List.of_mem_filter hkey
  exact Option.some.inj ((List.idxOf_inj hcarried).1 heq)

theorem leftOut_add_length {count : Nat} {positions : List Nat} (hlt : ∀ i ∈ positions, i < count) (hnodup : positions.Nodup) :
    leftOut count positions + positions.length = count := by
  have hperm : ((List.range count).filter fun i => decide (i ∈ positions)).Perm positions := by
    refine (List.perm_ext_iff_of_nodup (List.nodup_range.filter _) hnodup).2 fun i => ?_
    rw [List.mem_filter, List.mem_range, decide_eq_true_iff]
    exact ⟨And.right, fun hi => ⟨hlt i hi, hi⟩⟩
  have hsplit := List.length_eq_countP_add_countP (fun i => decide (i ∈ positions)) (l := List.range count)
  rw [List.length_range, List.countP_eq_length_filter, hperm.length_eq] at hsplit
  simp only [leftOut]
  simp only [decide_eq_true_eq] at hsplit
  omega

theorem find?_id (rows : List Row) (key : String) :
    rows.find? (fun row => row.id? == some key) = rows[(rows.map Row.id?).idxOf (some key)]? := by
  rw [List.find?_eq_getElem?_findIdx, List.idxOf, List.findIdx_map]
  rfl

end

/-- The rows under the keys are those at the first positions. -/
theorem Extractor.forall₂_rowsOf (rows : List Row) (keys : List String) :
    List.Forall₂ (fun i row => rows[i]? = some row) (firstPositions (rows.map Row.id?) keys) (rowsOf rows keys) := by
  induction keys with
  | nil => exact .nil
  | cons key rest ih =>
    rw [firstPositions, carriedKeys, List.filter_cons, rowsOf, List.filterMap_cons, find?_id]
    by_cases hkey : some key ∈ rows.map Row.id?
    · have hlt := List.idxOf_lt_length_of_mem hkey
      rw [List.length_map] at hlt
      rw [if_pos (decide_eq_true hkey), List.getElem?_eq_getElem hlt]
      exact .cons (List.getElem?_eq_getElem hlt) ih
    · rw [if_neg (by simpa using hkey), List.idxOf_eq_length hkey, List.getElem?_eq_none (by simp)]
      exact ih

/-! ## Identifiers -/

/-- The text of a record in the column named `id`, ignoring case. -/
def idText? (e : Encoding) (columns : List Column) (record : List Value) : Option String :=
  ((columns.zip record).find? fun cell => lower cell.1.name == "id").bind fun cell => (cell.2.encoded e cell.1).toOption.join

/-- No name that ends in the suffix of foreign keys is `id`. -/
theorem append_foreignKeySuffix_ne_id (left : String) : left ++ foreignKeySuffix ≠ "id" := by
  intro heq
  have hlength := congrArg (fun s => s.toList.length) heq
  have hsuffix : foreignKeySuffix.toList.length = 3 := by decide
  have hid : "id".toList.length = 2 := by decide
  simp only [String.toList_append, List.length_append] at hlength
  omega

/-- A column is exported under the name `id` just when it is named so. -/
theorem Naming.lower_columnName_eq_id_iff {n : Naming} {column name : String} (h : n.columnName column = .ok name) :
    lower name = "id" ↔ lower column = "id" := by
  rw [lower_columnName h]
  split
  · rw [exportedKey]
    split
    · next hsuffix =>
      rw [endsInSuffix, List.isSuffixOf_iff_suffix] at hsuffix
      obtain ⟨left, hleft⟩ := hsuffix
      have hcolumn : lower column = String.ofList left ++ foreignKeySuffix := by
        rw [← String.toList_inj, String.toList_append, String.toList_ofList, hleft]
      rw [hcolumn]
      exact iff_of_false (append_foreignKeySuffix_ne_id _) (append_foreignKeySuffix_ne_id _)
    · rfl
  · rfl

namespace Row
variable {row : Row} {name text : String}

theorem id?_put_of_ne (h : lower name ≠ "id") : (row.put name text).id? = row.id? := by
  induction row with
  | nil => simp [put, id?, h]
  | cons entry rest ih =>
    obtain ⟨other, kept⟩ := entry
    rw [id?, id?] at ih
    rw [put]
    split
    · next heq => simp [id?, heq, h]
    · by_cases hother : lower other = "id"
      · simp [id?, hother]
      · simp [id?, hother, ih]

theorem id?_put_of_none (hrow : row.id? = none) (h : lower name = "id") : (row.put name text).id? = some text := by
  have hnone := List.find?_eq_none.1 (Option.map_eq_none_iff.1 hrow)
  have hname : name ∉ row.map Prod.fst := by
    intro hmem
    obtain ⟨entry, hentry, rfl⟩ := List.mem_map.1 hmem
    exact hnone entry hentry (beq_iff_eq.2 h)
  rw [put_of_notMem hname, id?, List.find?_append, List.find?_eq_none.2 hnone]
  simp [h]

end Row

section
variable {e : Encoding} {n : Naming} {columns : List Column} {record : List Value} {cells : Row}

theorem Cells.id?_putAll_of_not_id (h : Cells e n columns record cells) (hcolumns : ∀ column ∈ columns, lower column.name ≠ "id")
    (row : Row) : (row.putAll cells).id? = row.id? := by
  induction h generalizing row with
  | done => rfl
  | absent _ _ ih => exact ih (List.forall_mem_cons.1 hcolumns).2 row
  | present _ hname _ ih =>
    obtain ⟨hcolumn, hcolumns⟩ := List.forall_mem_cons.1 hcolumns
    refine (ih hcolumns _).trans (Row.id?_put_of_ne ?_)
    rwa [Ne, Naming.lower_columnName_eq_id_iff hname]

theorem ne_id_of_distinct {column : Column} (hcolumn : lower column.name = "id")
    (h : ∀ other ∈ columns, sameName column.name other.name = false) : ∀ other ∈ columns, lower other.name ≠ "id" := by
  intro other hother hid
  have hsame : sameName column.name other.name = true := sameName_iff.2 (hcolumn.trans hid.symm)
  rw [h other hother] at hsame
  cases hsame

/-- A row without an identifier takes that of the cells, the text of the one column named so. -/
theorem Cells.id?_putAll (h : Cells e n columns record cells)
    (hdistinct : columns.Pairwise fun a b => sameName a.name b.name = false) {row : Row} (hrow : row.id? = none) :
    (row.putAll cells).id? = idText? e columns record := by
  induction h generalizing row with
  | done => exact hrow
  | @absent column v columns values cells htext hrest ih =>
    obtain ⟨hhead, hdistinct⟩ := List.pairwise_cons.1 hdistinct
    by_cases hcolumn : lower column.name = "id"
    · rw [hrest.id?_putAll_of_not_id (ne_id_of_distinct hcolumn hhead), hrow]
      simp [idText?, hcolumn, htext, Except.toOption]
    · rw [ih hdistinct hrow]
      simp [idText?, hcolumn]
  | @present column v columns values cells name text htext hname hrest ih =>
    obtain ⟨hhead, hdistinct⟩ := List.pairwise_cons.1 hdistinct
    have hput : row.putAll ((name, text) :: cells) = (row.put name text).putAll cells := rfl
    rw [hput]
    by_cases hcolumn : lower column.name = "id"
    · have hid := (Naming.lower_columnName_eq_id_iff hname).2 hcolumn
      rw [hrest.id?_putAll_of_not_id (ne_id_of_distinct hcolumn hhead), Row.id?_put_of_none hrow hid]
      simp [idText?, hcolumn, htext, Except.toOption]
    · have hid : lower name ≠ "id" := fun heq => hcolumn ((Naming.lower_columnName_eq_id_iff hname).1 heq)
      rw [ih hdistinct ((Row.id?_put_of_ne hid).trans hrow)]
      simp [idText?, hcolumn]

theorem Row.id?_of_mapRecord (hdistinct : columns.Pairwise fun a b => sameName a.name b.name = false) {row : Row} {s t : Session}
    (h : (mapRecord e n columns record).result s = (.ok row, t)) : row.id? = idText? e columns record := by
  obtain ⟨cells, hcells, rfl⟩ := row_of_mapRecord h
  exact hcells.id?_putAll hdistinct rfl

end

/-! ## Warnings -/

def warningRecords (events : List Event) : List Record := recordsWhere (fun record => record.level == .warning) events

theorem warningRecords_append (first next : List Event) :
    warningRecords (first ++ next) = warningRecords first ++ warningRecords next := recordsWhere_append _ first next

theorem warningRecords_reads {table : String} {events : List Event} (h : ∀ e ∈ events, e.Reads table) :
    warningRecords events = [] := by
  apply recordsWhere_eq_nil
  rintro _ he r rfl
  have hlevel : r.level = .error := (h _ he).1
  simp [hlevel]

/-- What tells that so many rows were dropped. -/
def droppedRecords (table : String) (count : Nat) : List Record :=
  if count = 0 then []
  else [⟨.warning, "Dropped " ++ toString count ++ " " ++ table ++ " rows unknown to the hierarchy model"⟩]

theorem warningRecords_dropped (table : String) (count : Nat) :
    warningRecords ((droppedRecords table count).map .logged) = droppedRecords table count := by
  rw [droppedRecords]
  split <;> rfl

/-! ## Extraction -/

namespace Extractor
variable {x : Extractor} {entities : EntityIndex} {relations : RelationTables} {threshold : Json} {table : String} {s : Session}

/-- What an extraction begun in `s` read of a table, and the rows that the records are mapped to. -/
structure Mapped (x : Extractor) (entities : EntityIndex) (relations : RelationTables) (threshold : Json) (table : String)
    (s : Session) where
  named : Json × Option RelationColumns
  columns : List Column
  records : List (List Value)
  rows : List Row
  read : Session
  mapped : Session
  naming : exportNaming entities relations table = .ok named
  reads : (x.readTable table threshold).result s = (.ok (columns, records), read)
  maps : (x.mapRecords table ⟨entities.find? table, named.2⟩ columns records).result read = (.ok rows, mapped)

namespace Mapped
variable (m : x.Mapped entities relations threshold table s)

/-- The texts by which the hierarchy finds the rows. -/
def ids : List (Option String) := m.records.map (idText? x.encoding m.columns)

/-- Where the rows stand that are exported for the keys. -/
def picked (keys : List Value) : List Nat := firstPositions (m.rows.map Row.id?) (keys.map Value.toText)

theorem forall₂_rows : List.Forall₂ (fun record row => ∃ u v,
    (mapRecord x.encoding ⟨entities.find? table, m.named.2⟩ m.columns record).result u = (.ok row, v)) m.records m.rows := by
  have hmaps := m.maps
  rw [mapRecords, Run.wrap, Run.recover_eq_ok_iff] at hmaps
  obtain hrows | ⟨f, u, -, -, hthrow⟩ := hmaps
  · exact Run.forall₂_of_mapM hrows
  · cases hthrow

theorem length_rows : m.rows.length = m.records.length := m.forall₂_rows.length_eq.symm

theorem map_id?_rows (hdistinct : m.columns.Pairwise fun a b => sameName a.name b.name = false) :
    m.rows.map Row.id? = m.ids := by
  apply List.ext_getElem
  · simp [ids, m.length_rows]
  · intro i hi hi'
    rw [List.length_map] at hi
    rw [ids, List.length_map] at hi'
    obtain ⟨u, v, hrow⟩ := m.forall₂_rows.get hi' hi
    simpa [ids] using Row.id?_of_mapRecord hdistinct hrow

/-- Neither reading nor mapping warns. -/
theorem exists_mapped_eq : ∃ added, warningRecords added = [] ∧ m.mapped = s.extend added := by
  obtain ⟨-, -, u, hbody, hread⟩ := withConnection_eq_ok_iff.1 m.reads
  obtain ⟨first, hfirst, rfl⟩ := (x.confined_readBody table threshold).left_eq hbody
  have hmaps : Run.Confined (Event.Reads table) _ := x.confined_mapRecords table ⟨entities.find? table, m.named.2⟩ m.columns m.records
  obtain ⟨next, hnext, hmapped⟩ := hmaps.left_eq m.maps
  refine ⟨[.opened] ++ first ++ [.closed] ++ next, ?_, ?_⟩
  · rw [warningRecords_append, warningRecords_append, warningRecords_append, warningRecords_reads hfirst,
      warningRecords_reads hnext]
    rfl
  · rw [hmapped, hread]
    simp

end Mapped

theorem result_followHierarchy {hierarchy : Hierarchy} {keys : List Value} (hhierarchy : x.hierarchy = some hierarchy)
    (hkeys : hierarchy x.hierarchyRoot = .ok keys) (rows : List Row) (s : Session) :
    (x.followHierarchy table rows).result s = (.ok (rowsOf rows (keys.map Value.toText)),
      s.extend (.descendantsRead x.hierarchyRoot ::
        (droppedRecords table (rows.length - (rowsOf rows (keys.map Value.toText)).length)).map .logged)) := by
  unfold followHierarchy
  rw [hhierarchy, droppedRecords]
  simp only
  rw [hkeys, Run.lift_ok_bind, Run.result_bind, Run.result_record]
  by_cases hless : (rowsOf rows (keys.map Value.toText)).length < rows.length
  · rw [if_pos hless, if_neg (by omega)]
    show ((Run.log .warning _ >>= fun _ => pure _ : Run (List Row)).result _) = _
    rw [Run.result_bind, Run.result_log]
    simp [Session.extend]
  · rw [if_neg hless, if_pos (by omega)]
    rfl

theorem Mapped.result_extract (m : x.Mapped entities relations threshold table s) (htable : x.isHierarchyTable table = .ok true)
    {rows : List Row} {t : Session} (hfollows : (x.followHierarchy table m.rows).result m.mapped = (.ok rows, t)) :
    (x.extract entities relations threshold table).result s = (.ok ⟨table, m.named.1, rows⟩, t) := by
  rw [extract_eq, m.naming, Run.lift_ok_bind, extractNamed]
  apply Run.bind_eq_ok_iff.2 ⟨_, _, m.reads, ?_⟩
  apply Run.bind_eq_ok_iff.2 ⟨_, _, m.maps, ?_⟩
  rw [htable, Run.lift_ok_bind, if_pos rfl]
  exact Run.bind_eq_ok_iff.2 ⟨_, _, hfollows, rfl⟩

/-- The rows of the hierarchy table are those under the keys. As many are reported as dropped as they are fewer. -/
theorem Mapped.extract_follows (m : x.Mapped entities relations threshold table s) {hierarchy : Hierarchy} {keys : List Value}
    (htable : x.isHierarchyTable table = .ok true) (hhierarchy : x.hierarchy = some hierarchy)
    (hkeys : hierarchy x.hierarchyRoot = .ok keys) :
    ∃ t, (x.extract entities relations threshold table).result s =
        (.ok ⟨table, m.named.1, rowsOf m.rows (keys.map Value.toText)⟩, t) ∧
      warningRecords (t.since s) =
        droppedRecords table (m.rows.length - (rowsOf m.rows (keys.map Value.toText)).length) := by
  obtain ⟨added, hadded, hmapped⟩ := m.exists_mapped_eq
  refine ⟨_, m.result_extract htable (result_followHierarchy hhierarchy hkeys m.rows m.mapped), ?_⟩
  rw [hmapped, Session.extend_extend, Session.since_eq (Session.events_extend s _), warningRecords_append, hadded, List.nil_append,
    ← List.singleton_append, warningRecords_append, warningRecords_dropped]
  rfl

/-- Keys with distinct texts pick the first row that carries each of them, and one warning counts the rows left out. -/
theorem extract_in_hierarchy_order (m : x.Mapped entities relations threshold table s)
    (hdistinct : m.columns.Pairwise fun a b => sameName a.name b.name = false) (htable : x.isHierarchyTable table = .ok true)
    {hierarchy : Hierarchy} {keys : List Value} (hhierarchy : x.hierarchy = some hierarchy)
    (hkeys : hierarchy x.hierarchyRoot = .ok keys) (hnodup : (keys.map Value.toText).Nodup) :
    ∃ extracted t, (x.extract entities relations threshold table).result s = (.ok extracted, t) ∧
      List.Forall₂ (fun i row => m.rows[i]? = some row) (firstPositions m.ids (keys.map Value.toText)) extracted.rows ∧
      (firstPositions m.ids (keys.map Value.toText)).Nodup ∧
      warningRecords (t.since s) =
        droppedRecords table (leftOut m.records.length (firstPositions m.ids (keys.map Value.toText))) := by
  obtain ⟨t, hextract, hwarnings⟩ := m.extract_follows htable hhierarchy hkeys
  have hpicked := forall₂_rowsOf m.rows (keys.map Value.toText)
  have hlength := hpicked.length_eq
  rw [m.map_id?_rows hdistinct] at hpicked hlength
  have hfirst : (firstPositions m.ids (keys.map Value.toText)).Nodup := nodup_firstPositions_iff.2 (hnodup.filter _)
  refine ⟨_, t, hextract, hpicked, hfirst, ?_⟩
  have hcount := leftOut_add_length (fun i hi => by simpa [Mapped.ids] using firstPositions_lt i hi) hfirst
  rw [hwarnings, m.length_rows, ← hlength]
  congr 1
  omega

/-- Realms: one shares its identifier with another, one has none. -/
def realmTable : DeclaredTable where
  name := "Realm"
  columns := [⟨"ID", .typed .text⟩, ⟨"PARENT_ID", .typed .text⟩]
  rows := [[.text "r1", .null], [.text "r2", .text "r1"], [.null, .text "r2"], [.text "r1", .text "r2"]]

def realmExtractor (keys : List Value) : Extractor where
  store := DeclaredStore.toStore { tables := [realmTable] }
  hierarchy := some fun _ => .ok keys
  hierarchyTable := .str "REALM"

def realmIndex : EntityIndex where
  entries := [⟨"realm", { name := .str "Realm", attributes := [{ name := .str "Id" }, { name := .str "parent" }] }⟩]

/-- What is read of the realms does not depend on the hierarchy. -/
def mappedRealms (keys : List Value) : (realmExtractor keys).Mapped realmIndex [] (.int 4) "Realm" {} where
  named := (.str "Realm", none)
  columns := realmTable.columns
  records := realmTable.rows
  rows := [[("Id", "r1")], [("Id", "r2"), ("parent_id", "r1")], [("parent_id", "r2")], [("Id", "r1"), ("parent_id", "r2")]]
  read := _
  mapped := _
  naming := rfl
  reads := rfl
  maps := rfl

/-- One key that no realm carries, then two that are in another order than the realms. -/
def realmKeys : List Value := [.integer 9, .text "r2", .text "r1"]

theorem extract_in_hierarchy_order_realms :
    (realmTable.columns.Pairwise fun a b => sameName a.name b.name = false) ∧
      (realmExtractor realmKeys).isHierarchyTable "Realm" = .ok true ∧ (realmKeys.map Value.toText).Nodup ∧
      ∃ extracted t, ((realmExtractor realmKeys).extract realmIndex [] (.int 4) "Realm").result {} = (.ok extracted, t) ∧
        extracted.rows = [[("Id", "r2"), ("parent_id", "r1")], [("Id", "r1")]] ∧
        warningRecords (t.since {}) = [⟨.warning, "Dropped 2 Realm rows unknown to the hierarchy model"⟩] := by
  have hdistinct : realmTable.columns.Pairwise fun a b => sameName a.name b.name = false := by decide +kernel
  have htable : (realmExtractor realmKeys).isHierarchyTable "Realm" = .ok true := rfl
  have hnodup : (realmKeys.map Value.toText).Nodup := by decide
  refine ⟨hdistinct, htable, hnodup, ?_⟩
  obtain ⟨extracted, t, hextract, hpicked, -, hwarnings⟩ :=
    extract_in_hierarchy_order (mappedRealms realmKeys) hdistinct htable rfl rfl hnodup
  have hpositions : firstPositions (mappedRealms realmKeys).ids (realmKeys.map Value.toText) = [1, 0] := rfl
  rw [hpositions] at hpicked
  obtain ⟨second, rest, hsecond, hrest, hrows⟩ := List.forall₂_cons_left_iff.1 hpicked
  obtain ⟨first, none, hfirst, hnone, rfl⟩ := List.forall₂_cons_left_iff.1 hrest
  obtain rfl := List.forall₂_nil_left_iff.1 hnone
  cases hsecond
  cases hfirst
  exact ⟨extracted, t, hextract, hrows, hwarnings⟩

end Extractor

/-! ## Repeated keys -/

/-- No answer to a query is longer than its limit. -/
def Store.KeepsLimits (store : Store) : Prop :=
  ∀ (q : Query) (records : List (List Value)) (limit : Int), store.rows q = .ok records → q.limit = some limit →
    records.length ≤ limit.toNat

theorem DeclaredStore.length_limited_le {α : Type} {rows : List α} {limit : Int} :
    (limited (some limit) rows).length ≤ limit.toNat := by
  rw [limited, List.length_take]
  omega

theorem DeclaredStore.keepsLimits_toStore (d : DeclaredStore) : d.toStore.KeepsLimits := by
  intro q records limit hrows hlimit
  change d.rows q = .ok records at hrows
  unfold DeclaredStore.rows at hrows
  split at hrows
  · obtain ⟨-, -, hrows⟩ := outcome_bind_eq_ok_iff.1 hrows
    unfold answerUnless at hrows
    split at hrows
    · cases hrows
    · cases hrows
      rw [hlimit]
      exact length_limited_le
  · cases hrows

theorem Database.keepsLimits_toStore (db : Database) (connect : Except Fault Unit) : (db.toStore connect).KeepsLimits := by
  intro q records limit hrows hlimit
  obtain ⟨t, -, hrows⟩ := outcome_bind_eq_ok_iff.1 hrows
  unfold DatabaseTable.select at hrows
  split at hrows
  · cases hrows
  · rw [← (forall₂_of_mapM_ok hrows).length_eq, hlimit]
    exact DeclaredStore.length_limited_le

namespace Extractor
variable {x : Extractor} {entities : EntityIndex} {relations : RelationTables} {threshold : Json} {table : String} {s : Session}

theorem buildQuery_eq_ok_iff {columns key : List String} {q : Query} :
    x.buildQuery table columns key threshold = .ok q ↔ ∃ built limit, Query.build (schemaName x.schema) table columns key none = .ok built ∧
      rowLimit threshold = .ok limit ∧ q = { built with limit := limit } := by
  simp only [buildQuery, outcome_bind_eq_ok_iff]
  constructor
  · rintro ⟨built, hbuilt, limit, hlimit, hq⟩
    cases hq
    exact ⟨built, limit, hbuilt, hlimit, rfl⟩
  · rintro ⟨built, limit, hbuilt, hlimit, rfl⟩
    exact ⟨built, hbuilt, limit, hlimit, rfl⟩

/-- A table is read by asking for its columns, its key and its rows on one connection. -/
theorem readTable_eq_ok_iff {read : List Column × List (List Value)} {t : Session} :
    (x.readTable table threshold).result s = (.ok read, t) ↔
      x.store.opening (s.openedCount + 1) = .ok () ∧ x.store.closing = .ok () ∧ ∃ names q,
        x.catalog.guarded (some table) (x.store.columns x.catalog.schema table) = .ok read.1 ∧
        x.catalog.guarded (some table) (x.store.key x.catalog.schema table) = .ok names ∧
        x.buildQuery table (read.1.map Column.name) (Catalog.presentNames names) threshold = .ok q ∧ x.store.rows q = .ok read.2 ∧
        t = s.extend [.opened, .columnsRead table, .keyRead table, .queried q, .closed] := by
  rw [readTable_eq, withConnection_eq_ok_iff]
  refine and_congr_right fun _ => and_congr_right fun _ => ?_
  simp only [readBody, readRows, Catalog.columns, Catalog.key, fetch_eq, bind_assoc, Run.bind_eq_ok_iff, Run.lift_eq_ok_iff,
    Run.result_record, Prod.mk.injEq, Except.ok.injEq, outcome_map_eq_ok_iff, mapError_eq_ok_iff, Run.result_pure]
  constructor
  · rintro ⟨u, ⟨_, _, ⟨-, rfl⟩, columns, _, ⟨hcolumns, rfl⟩, _, _, ⟨-, rfl⟩, key, _, ⟨⟨names, hnames, rfl⟩, rfl⟩, q, _, ⟨hq, rfl⟩, _, _,
      ⟨-, rfl⟩, records, _, ⟨hrecords, rfl⟩, rfl, rfl⟩, rfl⟩
    exact ⟨names, q, hcolumns, hnames, hq, hrecords, by simp [Session.extend]⟩
  · rintro ⟨names, q, hcolumns, hnames, hq, hrecords, rfl⟩
    refine ⟨_, ⟨(), _, ⟨trivial, rfl⟩, _, _, ⟨hcolumns, rfl⟩, (), _, ⟨trivial, rfl⟩, _, _, ⟨⟨names, hnames, rfl⟩, rfl⟩, q, _, ⟨hq, rfl⟩,
      (), _, ⟨trivial, rfl⟩, _, _, ⟨hrecords, rfl⟩, rfl, rfl⟩, ?_⟩
    simp [Session.extend]

theorem Mapped.length_records_le (m : x.Mapped entities relations threshold table s) (hlimits : x.store.KeepsLimits) {limit : Int}
    (hthreshold : rowLimit threshold = .ok (some limit)) : m.records.length ≤ limit.toNat := by
  obtain ⟨-, -, names, q, -, -, hq, hrecords, -⟩ := readTable_eq_ok_iff.1 m.reads
  obtain ⟨built, capped, -, hcapped, rfl⟩ := buildQuery_eq_ok_iff.1 hq
  obtain rfl : some limit = capped := Except.ok.inj (hthreshold.symm.trans hcapped)
  exact hlimits _ _ limit hrecords rfl

/-- A row is repeated exactly when the text of a key that some row carries is. Without that, no more rows than the threshold
are exported, and one warning counts the rows left out. -/
theorem extract_repeats_no_row (m : x.Mapped entities relations threshold table s) (htable : x.isHierarchyTable table = .ok true)
    {hierarchy : Hierarchy} {keys : List Value} (hhierarchy : x.hierarchy = some hierarchy)
    (hkeys : hierarchy x.hierarchyRoot = .ok keys) (hlimits : x.store.KeepsLimits) {limit : Int}
    (hthreshold : rowLimit threshold = .ok (some limit)) :
    ∃ extracted t, (x.extract entities relations threshold table).result s = (.ok extracted, t) ∧
      List.Forall₂ (fun i row => m.rows[i]? = some row) (m.picked keys) extracted.rows ∧
      ((m.picked keys).Nodup ↔ (carriedKeys (m.rows.map Row.id?) (keys.map Value.toText)).Nodup) ∧
      ((m.picked keys).Nodup → extracted.rows.length ≤ limit.toNat ∧
        warningRecords (t.since s) = droppedRecords table (leftOut m.rows.length (m.picked keys))) := by
  obtain ⟨t, hextract, hwarnings⟩ := m.extract_follows htable hhierarchy hkeys
  have hpicked := forall₂_rowsOf m.rows (keys.map Value.toText)
  refine ⟨_, t, hextract, hpicked, nodup_firstPositions_iff, ?_⟩
  intro hnodup
  have hcount := leftOut_add_length (fun i hi => by simpa using firstPositions_lt i hi) hnodup
  have hlength : (m.picked keys).length = (rowsOf m.rows (keys.map Value.toText)).length := hpicked.length_eq
  have hrecords := m.length_records_le hlimits hthreshold
  have hrows := m.length_rows
  constructor
  · show (rowsOf m.rows (keys.map Value.toText)).length ≤ limit.toNat
    omega
  · rw [hwarnings]
    congr 1
    omega

theorem extract_repeats_no_row_realms :
    (realmExtractor realmKeys).isHierarchyTable "Realm" = .ok true ∧ (realmExtractor realmKeys).store.KeepsLimits ∧
      rowLimit (.int 4) = .ok (some 4) ∧ ((mappedRealms realmKeys).picked realmKeys).Nodup ∧
      ∃ extracted t, ((realmExtractor realmKeys).extract realmIndex [] (.int 4) "Realm").result {} = (.ok extracted, t) ∧
        extracted.rows.length ≤ 4 ∧
        warningRecords (t.since {}) = [⟨.warning, "Dropped 2 Realm rows unknown to the hierarchy model"⟩] := by
  have htable : (realmExtractor realmKeys).isHierarchyTable "Realm" = .ok true := rfl
  have hlimits : (realmExtractor realmKeys).store.KeepsLimits := DeclaredStore.keepsLimits_toStore _
  have hnodup : ((mappedRealms realmKeys).picked realmKeys).Nodup := by
    have hpicked : (mappedRealms realmKeys).picked realmKeys = [1, 0] := rfl
    rw [hpicked]
    decide
  refine ⟨htable, hlimits, rfl, hnodup, ?_⟩
  obtain ⟨extracted, t, hextract, -, -, hkeeps⟩ :=
    extract_repeats_no_row (mappedRealms realmKeys) htable rfl rfl hlimits rfl
  obtain ⟨hlength, hwarnings⟩ := hkeeps hnodup
  exact ⟨extracted, t, hextract, hlength, hwarnings⟩

/-- Two realms named again and again. -/
def repeatedKeys : List Value := [.text "r1", .text "r2", .text "r1", .text "r2", .text "r1"]

/-- More rows than the threshold, repeated ones among them, and no word of the two left out. -/
theorem extract_repeats_row : ∃ extracted t,
    ((realmExtractor repeatedKeys).extract realmIndex [] (.int 4) "Realm").result {} = (.ok extracted, t) ∧
      List.Forall₂ (fun i row => (mappedRealms repeatedKeys).rows[i]? = some row) [0, 1, 0, 1, 0] extracted.rows ∧
      4 < extracted.rows.length ∧ leftOut (mappedRealms repeatedKeys).rows.length [0, 1, 0, 1, 0] = 2 ∧
      warningRecords (t.since {}) = [] := by
  refine ⟨_, _, rfl, ?_, by decide, by decide, rfl⟩
  exact .cons rfl (.cons rfl (.cons rfl (.cons rfl (.cons rfl .nil))))

end Extractor
end TableDump
