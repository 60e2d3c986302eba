import TableDump.Proofs.Export.RowCap
import TableDump.Proofs.Value.BinaryText

/-! # Lost streams

What a stream that cannot be read costs: its own value and nothing else.

* `Run.Sheds`: two computations with one outcome, of which the first leaves more events.
* `Encoding.Loses`: a binary column holds a stream whose fault is recovered. Such a value is absent like null, and one record
  tells it (`sheds_mapValue`).
* `Extractor.losing`: the extractor whose queries answer null in the place of lost streams.
* `extract_sheds_streams`: both extractions have the same outcome, and when they succeed the first leaves one record of an error
  for each lost stream beside what the second leaves.
-/

namespace TableDump
set_option autoImplicit false

/-! ## Events beside others -/

namespace Run
variable {α β : Type} {P : Event → Prop} {extra extra' : List Event}

/-- Two computations with one outcome, whatever happened before them. Unless it is a fault, the first leaves what the second
does and some more events among it. -/
def Sheds (extra : List Event) (r r' : Run α) : Prop :=
  ∃ (outcome : Except Fault α) (added added' : List Event),
    (∀ s, r.result s = (outcome, s.extend added)) ∧ (∀ s, r'.result s = (outcome, s.extend added')) ∧
    ∀ a, outcome = .ok a → added'.Sublist added ∧ added.Perm (added' ++ extra)

theorem Blind.sheds {r : Run α} (h : Blind P r) : Sheds [] r r := by
  obtain ⟨outcome, added, -, hresult⟩ := h
  exact ⟨outcome, added, added, hresult, hresult, fun _ _ => ⟨List.Sublist.refl _, by rw [List.append_nil]⟩⟩

theorem sheds_throw (f : Fault) : Sheds extra (throw f : Run α) (throw f) :=
  ⟨.error f, [], [], fun s => by rw [result_throw, Session.extend_nil], fun s => by rw [result_throw, Session.extend_nil], nofun⟩

theorem Sheds.bind {r r' : Run α} {k k' : α → Run β} (hr : Sheds extra r r') (hk : ∀ a, Sheds extra' (k a) (k' a)) :
    Sheds (extra ++ extra') (r >>= k) (r' >>= k') := by
  obtain ⟨outcome, added, added', hresult, hresult', htold⟩ := hr
  cases outcome with
  | error f =>
    refine ⟨.error f, added, added', fun s => ?_, fun s => ?_, nofun⟩
    · rw [result_bind, hresult]
    · rw [result_bind, hresult']
  | ok a =>
    obtain ⟨next, more, more', hnext, hnext', hmore⟩ := hk a
    refine ⟨next, added ++ more, added' ++ more', fun s => ?_, fun s => ?_, fun b hb => ?_⟩
    · rw [result_bind, hresult, ← Session.extend_extend]
      exact hnext _
    · rw [result_bind, hresult', ← Session.extend_extend]
      exact hnext' _
    · obtain ⟨hsublist, hperm⟩ := htold a rfl
      obtain ⟨hsublist', hperm'⟩ := hmore b hb
      refine ⟨hsublist.append hsublist', (hperm.append hperm').trans ?_⟩
      -- the events of the second part change places with what the first one has more
      rw [List.append_assoc, List.append_assoc, ← List.append_assoc extra, ← List.append_assoc more']
      exact (List.perm_append_comm.append_right _).append_left _

theorem Sheds.bind_blind {r r' : Run α} {k : α → Run β} (hr : Sheds extra r r') (hk : ∀ a, Blind P (k a)) :
    Sheds extra (r >>= k) (r' >>= k) := by
  have hbind := hr.bind fun a => (hk a).sheds
  rwa [List.append_nil] at hbind

theorem Sheds.wrap {p : Fault → Bool} {change : Fault → Fault} {r r' : Run α} (h : Sheds extra r r') :
    Sheds extra (Run.wrap p change r) (Run.wrap p change r') := by
  obtain ⟨outcome, added, added', hresult, hresult', htold⟩ := h
  cases outcome with
  | ok a =>
    refine ⟨.ok a, added, added', fun s => ?_, fun s => ?_, htold⟩
    · rw [Run.wrap, result_recover, hresult]
    · rw [Run.wrap, result_recover, hresult']
  | error f =>
    refine ⟨if p f then .error (change f) else .error f, added, added', fun s => ?_, fun s => ?_, fun a ha => ?_⟩
    · rw [Run.wrap, result_recover, hresult]
      cases hp : p f <;> simp [hp]
    · rw [Run.wrap, result_recover, hresult']
      cases hp : p f <;> simp [hp]
    · split at ha <;> cases ha

theorem result_map (g : α → β) (r : Run α) (s : Session) : (g <$> r).result s = ((r.result s).1.map g, (r.result s).2) := by
  rw [map_eq_pure_bind, result_bind]
  rcases r.result s with ⟨f | a, t⟩ <;> rfl

end Run

/-! ## Lost values -/

/-- A binary column holds a stream, and the fault of reading it is recovered. -/
structure Encoding.Loses (e : Encoding) (column : Column) (v : Value) (fault : Fault) : Prop where
  binary : ∃ kind, column.type = .typed kind ∧ kind.isBinary = true
  broken : v = .brokenStream fault
  recovered : e.recovers fault = true

def streamError (column : Column) (fault : Fault) : Record :=
  ⟨.error, "Error fetching value from " ++ column.name ++ ": " ++ fault.message⟩

/-- A record with null in the place of the streams that have a fault. -/
def withNulls (faults : Nat → Option Fault) (record : List Value) : List Value :=
  record.mapIdx fun j v => if (faults j).isSome then .null else v

/-- One record of an error for each of the streams that have a fault. -/
def streamErrors (faults : Nat → Option Fault) (columns : List Column) : List Record :=
  (columns.mapIdx fun j column => (faults j).toList.map (streamError column)).flatten

section
variable {e : Encoding} {n : Naming}

theorem encode_of_binary {column : Column} (h : ∃ kind, column.type = .typed kind ∧ kind.isBinary = true) (v : Value) :
    v.encode e column = v.encodeBinary e column.name := by
  obtain ⟨kind, htype, hbinary⟩ := h
  refine Value.encode_of_isBinary ?_
  rw [htype]
  exact hbinary

theorem Encoding.Loses.encode {column : Column} {v : Value} {fault : Fault} (h : e.Loses column v fault) (s : Session) :
    (v.encode e column).result s = (.ok none, s.extend [.logged (streamError column fault)]) := by
  obtain ⟨hbinary, rfl, hrecovers⟩ := h
  rw [encode_of_binary hbinary, Value.encodeBinary]
  simp only [Value.read, hrecovers, if_true]
  rfl

theorem Encoding.Loses.encode_null {column : Column} {v : Value} {fault : Fault} (h : e.Loses column v fault) (s : Session) :
    (Value.null.encode e column).result s = (.ok none, s) := by
  rw [encode_of_binary h.binary]
  rfl

/-- A lost value is left out like null. -/
theorem sheds_mapValue {column : Column} {v : Value} {fault : Fault} (h : e.Loses column v fault) (row : Row) :
    Run.Sheds [.logged (streamError column fault)] (mapValue e n row column v) (mapValue e n row column .null) := by
  refine ⟨.ok row, [.logged (streamError column fault)], [], fun s => ?_, fun s => ?_, fun _ _ => ⟨List.nil_sublist _, .refl _⟩⟩
  · rw [mapValue, Run.result_bind, h.encode]
    rfl
  · rw [mapValue, Run.result_bind, h.encode_null, Session.extend_nil]
    rfl

/-- The streams that have a fault are lost values of a record. -/
def LosesIn (e : Encoding) (faults : Nat → Option Fault) (columns : List Column) (record : List Value) : Prop :=
  ∀ j fault, faults j = some fault → ∃ column v, columns[j]? = some column ∧ record[j]? = some v ∧ e.Loses column v fault

theorem sheds_mapColumns (columns : List Column) {faults : Nat → Option Fault} {values : List Value}
    (h : LosesIn e faults columns values) (row : Row) :
    Run.Sheds ((streamErrors faults columns).map .logged) (mapColumns e n row columns values)
      (mapColumns e n row columns (withNulls faults values)) := by
  induction columns generalizing faults values row with
  | nil => exact (Run.blind_pure (P := fun _ => True) row).sheds
  | cons column columns ih =>
    cases values with
    | nil => exact Run.sheds_throw .shortRow
    | cons v values =>
      have hrest : LosesIn e (fun j => faults (j + 1)) columns values := fun j fault hj => h (j + 1) fault hj
      rw [streamErrors, withNulls, List.mapIdx_cons, List.mapIdx_cons, List.flatten_cons, List.map_append, mapColumns, mapColumns]
      refine Run.Sheds.bind ?_ fun row => ih hrest row
      cases hfault : faults 0 with
      | none => exact (blind_mapValue e n row column v).sheds
      | some fault =>
        obtain ⟨_, _, hcolumn, hvalue, hloses⟩ := h 0 fault hfault
        cases hcolumn
        cases hvalue
        exact sheds_mapValue hloses row

/-! ## Lost values of a table -/

/-- The streams that have a fault are lost values of a table. -/
def LosesAmong (e : Encoding) (faults : Nat → Nat → Option Fault) (columns : List Column) (records : List (List Value)) : Prop :=
  ∀ i j fault, faults i j = some fault → ∃ record column v, records[i]? = some record ∧ columns[j]? = some column ∧
    record[j]? = some v ∧ e.Loses column v fault

def allWithNulls (faults : Nat → Nat → Option Fault) (records : List (List Value)) : List (List Value) :=
  records.mapIdx fun i record => withNulls (faults i) record

def allStreamErrors (faults : Nat → Nat → Option Fault) (columns : List Column) (records : List (List Value)) : List Record :=
  (records.mapIdx fun i _ => streamErrors (faults i) columns).flatten

theorem sheds_mapRecords {columns : List Column} {records : List (List Value)} {faults : Nat → Nat → Option Fault}
    (h : LosesAmong e faults columns records) : Run.Sheds ((allStreamErrors faults columns records).map .logged)
      (records.mapM (mapRecord e n columns)) ((allWithNulls faults records).mapM (mapRecord e n columns)) := by
  induction records generalizing faults with
  | nil => exact (Run.blind_pure (P := fun _ => True) []).sheds
  | cons record rest ih =>
    have hrecord : LosesIn e (faults 0) columns record := by
      intro j fault hj
      obtain ⟨_, column, v, hfirst, hloses⟩ := h 0 j fault hj
      cases hfirst
      exact ⟨column, v, hloses⟩
    have hrest : LosesAmong e (fun i => faults (i + 1)) columns rest := fun i j fault hj => h (i + 1) j fault hj
    rw [allStreamErrors, allWithNulls, List.mapIdx_cons, List.mapIdx_cons, List.flatten_cons, List.map_append, List.mapM_cons,
      List.mapM_cons]
    refine (sheds_mapColumns columns hrecord []).bind fun row => ?_
    exact (ih hrest).bind_blind (P := fun _ => True) fun rows => Run.blind_pure _

end

/-! ## Extraction -/

namespace Extractor
variable (x : Extractor)

/-- The extractor whose queries answer null in the place of the streams that have a fault. -/
def losing (faults : Nat → Nat → Option Fault) : Extractor :=
  { x with store := { x.store with rows := fun query => (x.store.rows query).map (allWithNulls faults) } }

/-- What was read, with null in the place of the streams that have a fault. -/
def readWithNulls (faults : Nat → Nat → Option Fault) (read : List Column × List (List Value)) :
    List Column × List (List Value) :=
  (read.1, allWithNulls faults read.2)

theorem fetch_losing (faults : Nat → Nat → Option Fault) (query : Query) :
    (x.losing faults).fetch query = allWithNulls faults <$> x.fetch query := by
  unfold fetch
  rw [map_bind]
  refine bind_congr fun _ => ?_
  simp only [losing]
  cases x.store.rows query <;> rfl

/-- Columns, key and query are the same. -/
theorem readBody_losing (faults : Nat → Nat → Option Fault) (table : String) (threshold : Json) :
    (x.losing faults).readBody table threshold = readWithNulls faults <$> x.readBody table threshold := by
  have hrows : ∀ columns, (x.losing faults).readRows table threshold columns =
      readWithNulls faults <$> x.readRows table threshold columns := by
    intro columns
    simp only [readRows, map_bind, fetch_losing, bind_map_left, map_pure]
    rfl
  rw [readBody, readBody, map_bind]
  exact bind_congr hrows

theorem result_readTable_losing (faults : Nat → Nat → Option Fault) (table : String) (threshold : Json) (s : Session) :
    ((x.losing faults).readTable table threshold).result s =
      (((x.readTable table threshold).result s).1.map (readWithNulls faults), ((x.readTable table threshold).result s).2) := by
  have hopening : (x.losing faults).store.opening = x.store.opening := rfl
  have hclosing : (x.losing faults).store.closing = x.store.closing := rfl
  rw [readTable_eq, readTable_eq, Store.result_withConnection, Store.result_withConnection, hopening, hclosing, readBody_losing,
    Run.result_map]
  cases x.store.opening (s.openedCount + 1) with
  | error f => rfl
  | ok _ => cases x.store.closing <;> rfl

theorem blind_followHierarchy (table : String) (rows : List Row) :
    Run.Blind (fun _ => True) (x.followHierarchy table rows) := by
  unfold followHierarchy
  split
  · exact (Run.blind_record trivial).bind fun _ => Run.blind_pure _
  · refine (Run.blind_record trivial).bind fun _ => (Run.blind_lift _).bind fun keys => ?_
    simp only
    split
    · exact (Run.blind_record trivial).bind fun _ => Run.blind_pure _
    · exact Run.blind_pure _

variable {x} {entities : EntityIndex} {relations : RelationTables} {threshold : Json} {table : String}
  {faults : Nat → Nat → Option Fault}

theorem sheds_mapRead {named : Json × Option RelationColumns} {columns : List Column} {records : List (List Value)}
    (h : LosesAmong x.encoding faults columns records) :
    Run.Sheds ((allStreamErrors faults columns records).map .logged) (x.mapRead entities table named (columns, records))
      ((x.losing faults).mapRead entities table named (columns, allWithNulls faults records)) := by
  refine (sheds_mapRecords h).wrap.bind_blind (P := fun _ => True) fun rows => ?_
  refine (Run.blind_lift _).bind fun follows => ?_
  split
  · exact (x.blind_followHierarchy table rows).bind fun _ => Run.blind_pure _
  · exact (Run.blind_pure _).bind fun _ => Run.blind_pure _

/-- Both extractions have the same outcome. When they succeed, the first leaves one record of an error for each lost stream
beside what the second leaves. -/
theorem extract_sheds_streams (x : Extractor) (entities : EntityIndex) (relations : RelationTables) (threshold : Json)
    (table : String) (faults : Nat → Nat → Option Fault) (s : Session)
    (hlost : ∀ columns records t, (x.readTable table threshold).result s = (.ok (columns, records), t) →
      LosesAmong x.encoding faults columns records) :
    ((x.extract entities relations threshold table).result s).1 =
        (((x.losing faults).extract entities relations threshold table).result s).1 ∧
      ∀ extracted t, (x.extract entities relations threshold table).result s = (.ok extracted, t) →
        ∃ columns records read added added', (x.readTable table threshold).result s = (.ok (columns, records), read) ∧
          t = s.extend added ∧
          ((x.losing faults).extract entities relations threshold table).result s = (.ok extracted, s.extend added') ∧
          added'.Sublist added ∧ added.Perm (added' ++ (allStreamErrors faults columns records).map .logged) := by
  rw [extract_eq, extract_eq]
  cases exportNaming entities relations table with
  | error f =>
    rw [Run.lift_error_bind, Run.lift_error_bind]
    exact ⟨rfl, fun _ _ h => by cases h⟩
  | ok named =>
    rw [Run.lift_ok_bind, Run.lift_ok_bind, extractNamed, extractNamed, Run.result_bind, Run.result_bind, result_readTable_losing]
    rcases hread : (x.readTable table threshold).result s with ⟨f | ⟨columns, records⟩, read⟩
    · exact ⟨rfl, fun _ _ h => by cases h⟩
    · have hbody := (x.confined_readBody table threshold).mono fun _ => Event.Reads.inside
      obtain ⟨before, -, rfl⟩ := (x.store.confined_withConnection hbody).left_eq hread
      have hsheds : Run.Sheds _ (x.mapRead entities table named (columns, records))
          ((x.losing faults).mapRead entities table named (readWithNulls faults (columns, records))) :=
        sheds_mapRead (hlost columns records _ hread)
      obtain ⟨outcome, added, added', hmap, hmap', htold⟩ := hsheds
      simp only [Except.map]
      rw [hmap, hmap']
      refine ⟨rfl, fun extracted t h => ?_⟩
      cases h
      obtain ⟨hsublist, hperm⟩ := htold extracted rfl
      refine ⟨columns, records, _, before ++ added, before ++ added', rfl, Session.extend_extend _ _ _, ?_,
        hsublist.append_left before, ?_⟩
      · rw [Session.extend_extend]
      · rw [List.append_assoc]
        exact hperm.append_left before

/-- Realms whose identifiers and parents are binary. Two columns share the entry of the parent. -/
def binaryRealmTable : DeclaredTable where
  name := "Realm"
  columns := [⟨"ID", .typed .bytes⟩, ⟨"PARENT_ID", .typed .bytes⟩, ⟨"PARENT_GROUP_ID", .typed .bytes⟩]
  rows := [[.bytes .plain [1], .bytes .plain [2], .brokenStream (.reported .system "gone")],
    [.brokenStream (.reported .driver "expired"), .null, .bytes .plain [255]],
    [.bytes .plain [2], .stream (.bytes .plain [3]), .null]]

def binaryRealms : Extractor where
  store := DeclaredStore.toStore { tables := [binaryRealmTable] }
  hierarchy := some fun _ => .ok [.text "02", .text "01"]
  hierarchyTable := .str "REALM"

def lostOfRealms : Nat → Nat → Option Fault
  | 0, 2 => some (.reported .system "gone")
  | 1, 0 => some (.reported .driver "expired")
  | _, _ => none

theorem losesAmong_binaryRealms : LosesAmong {} lostOfRealms binaryRealmTable.columns binaryRealmTable.rows := by
  intro i j fault hfault
  unfold lostOfRealms at hfault
  split at hfault
  · cases hfault
    exact ⟨_, _, _, rfl, rfl, rfl, ⟨.bytes, rfl, rfl⟩, rfl, rfl⟩
  · cases hfault
    exact ⟨_, _, _, rfl, rfl, rfl, ⟨.bytes, rfl, rfl⟩, rfl, rfl⟩
  · cases hfault

/-- The stream of an identifier is lost and one of a parent; the parent that was read before stays. -/
theorem extract_sheds_streams_realms :
    (∀ columns records t, (binaryRealms.readTable "Realm" (.int 0)).result {} = (.ok (columns, records), t) →
      LosesAmong binaryRealms.encoding lostOfRealms columns records) ∧
    ∃ t added', (binaryRealms.extract realmIndex [] (.int 0) "Realm").result {} =
        (.ok ⟨"Realm", .str "Realm", [[("Id", "02"), ("parent_id", "03")], [("Id", "01"), ("parent_id", "02")]]⟩, t) ∧
      ((binaryRealms.losing lostOfRealms).extract realmIndex [] (.int 0) "Realm").result {} =
        (.ok ⟨"Realm", .str "Realm", [[("Id", "02"), ("parent_id", "03")], [("Id", "01"), ("parent_id", "02")]]⟩, ⟨added', ""⟩) ∧
      added'.Sublist t.events ∧ t.events.Perm (added' ++
        [.logged ⟨.error, "Error fetching value from PARENT_GROUP_ID: gone"⟩,
          .logged ⟨.error, "Error fetching value from ID: expired"⟩]) := by
  have hreads : ((binaryRealms.readTable "Realm" (.int 0)).result {}).1 =
      .ok (binaryRealmTable.columns, binaryRealmTable.rows) := rfl
  have hextracts : ((binaryRealms.extract realmIndex [] (.int 0) "Realm").result {}).1 =
      .ok ⟨"Realm", .str "Realm", [[("Id", "02"), ("parent_id", "03")], [("Id", "01"), ("parent_id", "02")]]⟩ := rfl
  have hlost : ∀ columns records t, (binaryRealms.readTable "Realm" (.int 0)).result {} = (.ok (columns, records), t) →
      LosesAmong binaryRealms.encoding lostOfRealms columns records := by
    intro columns records t hread
    rw [hread] at hreads
    cases hreads
    exact losesAmong_binaryRealms
  obtain ⟨-, hsheds⟩ := extract_sheds_streams binaryRealms realmIndex [] (.int 0) "Realm" lostOfRealms {} hlost
  rcases hextract : (binaryRealms.extract realmIndex [] (.int 0) "Realm").result {} with ⟨outcome, t⟩
  rw [hextract] at hextracts hsheds
  cases hextracts
  obtain ⟨columns, records, read, added, added', hread, rfl, hlosing, hsublist, hperm⟩ := hsheds _ _ rfl
  rw [hread] at hreads
  cases hreads
  exact ⟨hlost, _, added', rfl, hlosing, hsublist, hperm⟩

end Extractor
end TableDump
