import TableDump.Export.Exporter
import TableDump.Proofs.RunFrame

/-! # Frames of extraction

What the extraction of one table can leave behind.

* `Event.Reads table`: what happens while a table is read on an open connection and its rows are mapped;
  `Event.Inside table` adds what putting them in order leaves, `Event.Concerns table` the connection.
* `Record.tellsFailure`: the records by which an export tells that a table failed. No extraction makes one.
* Extraction is confined to events that concern its table (`confined_tableElements`). It opens one
  connection, or none when the table has no name to be exported under (`openedCount_tableElements`).
-/

namespace TableDump
open TableDump.Text
set_option autoImplicit false

/-! ## Events of one table -/

def failurePrefix : String := "Failure exporting table "

def Record.tellsFailure (r : Record) : Bool :=
  r.level == .error && failurePrefix.toList.isPrefixOf r.text.toList

namespace Event

def Reads (table : String) : Event → Prop
  | logged r => r.level = .error ∧ r.tellsFailure = false
  | columnsRead t | keyRead t => t = table
  | queried q => q.table = table
  | _ => False

def Inside (table : String) : Event → Prop
  | logged r => r.tellsFailure = false
  | columnsRead t | keyRead t => t = table
  | queried q => q.table = table
  | descendantsRead _ => True
  | _ => False

def Concerns (table : String) (e : Event) : Prop := e.isOpened = true ∨ e.isClosed = true ∨ e.Inside table

theorem Reads.inside {table : String} {e : Event} (h : e.Reads table) : e.Inside table := by
  cases e with
  | logged r => exact h.2
  | columnsRead t => exact h
  | keyRead t => exact h
  | queried q => exact h
  | _ => exact h.elim

theorem Inside.concerns {table : String} {e : Event} (h : e.Inside table) : e.Concerns table := Or.inr (Or.inr h)

theorem Inside.isOpened {table : String} {e : Event} (h : e.Inside table) : e.isOpened = false := by
  cases e with
  | opened => exact h.elim
  | _ => rfl

end Event

/-! ## Values and rows -/

variable {table : String}

theorem inside_warning (text : String) : Event.Inside table (.logged ⟨.warning, text⟩) := rfl

theorem confined_encodeBinary (e : Encoding) (column : String) (v : Value) :
    Run.Confined (Event.Reads table) (v.encodeBinary e column) := by
  unfold Value.encodeBinary
  split
  · exact Run.confined_lift _
  · split
    · refine (Run.confined_log ⟨rfl, ?_⟩).bind fun _ => Run.confined_pure _
      simp only [Record.tellsFailure, failurePrefix, String.toList_append]
      rfl
    · exact Run.confined_throw _

theorem confined_encode (e : Encoding) (column : Column) (v : Value) :
    Run.Confined (Event.Reads table) (v.encode e column) := by
  unfold Value.encode Value.encodeAs
  split
  · exact Run.confined_pure _
  · split
    · exact confined_encodeBinary e column.name v
    · split
      · exact Run.confined_lift _
      · exact Run.confined_pure _

theorem confined_mapValue (e : Encoding) (n : Naming) (row : Row) (column : Column) (v : Value) :
    Run.Confined (Event.Reads table) (mapValue e n row column v) := by
  refine (confined_encode e column v).bind fun text => ?_
  cases text with
  | none => exact Run.confined_pure _
  | some text => exact (Run.confined_lift _).bind fun name => Run.confined_pure _

theorem confined_mapColumns (e : Encoding) (n : Naming) (columns : List Column) (row : Row) (values : List Value) :
    Run.Confined (Event.Reads table) (mapColumns e n row columns values) := by
  induction columns generalizing row values with
  | nil => exact Run.confined_pure _
  | cons column columns ih =>
    cases values with
    | nil => exact Run.confined_throw _
    | cons v values => exact (confined_mapValue e n row column v).bind fun row => ih row values

/-! ## Queries -/

theorem eraseDups_of_nodup {names : List String} (h : names.Nodup) : names.eraseDups = names := by
  induction names with
  | nil => rfl
  | cons name rest ih =>
    obtain ⟨hname, hrest⟩ := List.nodup_cons.1 h
    have hkept : rest.filter (fun other => !other == name) = rest := by
      refine List.filter_eq_self.2 fun other hother => ?_
      have hne : other ≠ name := fun heq => hname (heq ▸ hother)
      rw [beq_false_of_ne hne]
      rfl
    rw [List.eraseDups_cons, hkept, ih hrest]

theorem Query.build_eq {schema : Option String} {table : String} {columns key : List String} (hcolumns : columns.Nodup)
    (hkey : ∀ name ∈ key, name ∈ columns) :
    build schema table columns key none = .ok { table, schema, columns, orderBy := key } := by
  rw [build, checkKey_eq_ok_iff.2 ⟨rfl, hkey⟩, Except.map, eraseDups_of_nodup hcolumns]

theorem Extractor.fetch_eq (x : Extractor) (q : Query) : x.fetch q =
    Run.record (.queried q) >>= fun _ => Run.lift ((x.store.rows q).mapError (queryFault q.table)) := by
  rw [fetch]
  cases x.store.rows q <;> rfl

theorem Extractor.buildQuery_eq {x : Extractor} {table : String} {columns key : List String} (hcolumns : columns.Nodup)
    (hkey : ∀ name ∈ key, name ∈ columns) (threshold : Json) : x.buildQuery table columns key threshold =
      (rowLimit threshold).map fun limit => { table, schema := schemaName x.schema, columns, orderBy := key, limit } := by
  rw [buildQuery, Query.build_eq hcolumns hkey]
  cases rowLimit threshold <;> rfl

namespace Extractor
variable (x : Extractor)

theorem confined_mapRecords (t : String) (naming : Naming) (columns : List Column) (records : List (List Value)) :
    Run.Confined (Event.Reads table) (x.mapRecords t naming columns records) :=
  (Run.confined_mapM records fun record _ => confined_mapColumns _ _ _ _ record).wrap

theorem confined_followHierarchy (t : String) (rows : List Row) :
    Run.Confined (Event.Inside table) (x.followHierarchy t rows) := by
  unfold followHierarchy
  split
  · exact (Run.confined_log (inside_warning _)).bind fun _ => Run.confined_pure _
  · refine (Run.confined_record trivial).bind fun _ => (Run.confined_lift _).bind fun keys => ?_
    simp only
    split
    · exact (Run.confined_log (inside_warning _)).bind fun _ => Run.confined_pure _
    · exact Run.confined_pure _

/-! ## Reading -/

/-- What is asked on an open connection once the columns are known. -/
def readRows (table : String) (threshold : Json) (columns : List Column) : Run (List Column × List (List Value)) := do
  let key ← x.catalog.key table
  let query ← Run.lift (x.buildQuery table (columns.map Column.name) key threshold)
  return (columns, ← x.fetch query)

def readBody (table : String) (threshold : Json) : Run (List Column × List (List Value)) :=
  x.catalog.columns table >>= x.readRows table threshold

theorem readTable_eq (threshold : Json) :
    x.readTable table threshold = x.store.withConnection (x.readBody table threshold) := rfl

theorem table_buildQuery {columns key : List String} {threshold : Json} {q : Query}
    (h : x.buildQuery table columns key threshold = .ok q) : q.table = table := by
  unfold buildQuery Query.build at h
  cases hk : Query.checkKey columns key with
  | error f => simp [hk, Except.map, bind, Except.bind] at h
  | ok k =>
    cases hl : rowLimit threshold with
    | error f => simp [hk, hl, Except.map, bind, Except.bind] at h
    | ok limit =>
      simp only [hk, hl, Except.map, bind, Except.bind, pure, Except.pure, Except.ok.injEq] at h
      rw [← h]

theorem confined_columns : Run.Confined (Event.Reads table) (x.catalog.columns table) := by
  refine Run.Confined.bind (Run.confined_record ?_) fun _ => Run.confined_lift _
  exact (rfl : table = table)

theorem confined_key : Run.Confined (Event.Reads table) (x.catalog.key table) := by
  refine Run.Confined.bind (Run.confined_record ?_) fun _ => Run.confined_lift _
  exact (rfl : table = table)

theorem confined_fetch {q : Query} (hq : q.table = table) : Run.Confined (Event.Reads table) (x.fetch q) := by
  refine (Run.confined_record hq).bind fun _ => ?_
  split
  · exact Run.confined_pure _
  · exact Run.confined_throw _

theorem confined_readRows (table : String) (threshold : Json) (columns : List Column) :
    Run.Confined (Event.Reads table) (x.readRows table threshold columns) := by
  refine x.confined_key.bind fun key => Run.confined_lift_bind fun q hq => ?_
  exact (x.confined_fetch (x.table_buildQuery hq)).bind fun _ => Run.confined_pure _

theorem confined_readBody (table : String) (threshold : Json) :
    Run.Confined (Event.Reads table) (x.readBody table threshold) :=
  x.confined_columns.bind fun columns => x.confined_readRows table threshold columns

theorem result_columns (table : String) (s : Session) :
    ((x.catalog.columns table).result s).2 = s.extend [.columnsRead table] := by
  rw [Catalog.columns, Run.result_bind, Run.result_record]
  simp only
  rw [Run.result_lift]
  rfl

end Extractor

/-! ## Connections -/

namespace Store
variable {α : Type} (store : Store)

theorem confined_openConnection : Run.Confined (fun e => e = .opened) store.openConnection := by
  refine Run.Confined.bind (Run.confined_record ?_) fun _ => ?_
  · rfl
  · exact (Run.confined_openedCount fun _ => Run.confined_lift _).wrap

theorem confined_closeConnection : Run.Confined (fun e => e = .closed) store.closeConnection := by
  refine Run.Confined.bind (Run.confined_record ?_) fun _ => ?_
  · rfl
  · exact (Run.confined_lift _).recover fun _ => Run.confined_pure _

theorem confined_withConnection {body : Run α} (h : Run.Confined (Event.Inside table) body) :
    Run.Confined (Event.Concerns table) (store.withConnection body) := by
  refine (store.confined_openConnection.mono fun e he => ?_).bind fun _ => ?_
  · exact Or.inl (by rw [he]; rfl)
  refine (h.mono fun _ => Event.Inside.concerns).attempt.bind fun _ => ?_
  refine (store.confined_closeConnection.mono fun e he => ?_).bind fun _ => Run.confined_lift _
  exact Or.inr (Or.inl (by rw [he]; rfl))

/-- What opening the `n`-th connection gives. -/
def opening (n : Nat) : Except Fault Unit :=
  match store.connect n with
  | .ok _ => .ok ()
  | .error f => if isDatabaseFault f then .error (.noConnection f) else .error f

def closing : Except Fault Unit :=
  match store.close with
  | .ok _ => .ok ()
  | .error f => if isDatabaseFault f then .ok () else .error f

theorem result_openConnection (s : Session) :
    store.openConnection.result s = (store.opening (s.openedCount + 1), s.extend [.opened]) := by
  have hcount : (s.extend [.opened]).openedCount = s.openedCount + 1 := Session.openedCount_extend s [.opened]
  have hconnect := Run.result_openedCount (fun n => Run.lift (store.connect n)) (s.extend [.opened])
  rw [Run.result_lift, hcount] at hconnect
  rw [openConnection, Run.result_bind, Run.result_record]
  change (Run.wrap isDatabaseFault .noConnection _).result (s.extend [.opened]) = _
  rw [Run.wrap, Run.result_recover, hconnect, opening]
  cases store.connect (s.openedCount + 1) with
  | ok a => rfl
  | error f => cases hf : isDatabaseFault f <;> simp [hf]

theorem closeConnection_leaves (s : Session) :
    store.closeConnection.result s = (store.closing, s.extend [.closed]) :=
  result_closeConnection store s

theorem result_withConnection (body : Run α) (s : Session) :
    (store.withConnection body).result s = match store.opening (s.openedCount + 1) with
      | .error f => (.error f, s.extend [.opened])
      | .ok _ => match store.closing with
        | .error f => (.error f, (body.result (s.extend [.opened])).2.extend [.closed])
        | .ok _ => ((body.result (s.extend [.opened])).1, (body.result (s.extend [.opened])).2.extend [.closed]) := by
  rw [withConnection, Run.result_bind, result_openConnection]
  cases store.opening (s.openedCount + 1) with
  | error f => rfl
  | ok _ =>
    simp only
    rw [Run.result_attempt_bind, Run.result_bind, closeConnection_leaves]
    cases store.closing with
    | error f => rfl
    | ok _ => exact Run.result_lift _ _

/-- On a connection that can be opened, what the body leaves stands between its opening and its closing. -/
theorem extends_withConnection {body : Run α} {s : Session} (hopening : store.opening (s.openedCount + 1) = .ok ())
    {added : List Event} (h : (body.result (s.extend [.opened])).2 = (s.extend [.opened]).extend added) :
    ((store.withConnection body).result s).2 = s.extend (.opened :: (added ++ [.closed])) := by
  rw [result_withConnection, hopening]
  simp only
  cases store.closing <;> simp [h]

theorem openedCount_withConnection {body : Run α} (h : Run.Confined (Event.Inside table) body) (s : Session) :
    ((store.withConnection body).result s).2.openedCount = s.openedCount + 1 := by
  have hbody := h.openedCount_eq (fun e he => he.isOpened) (s.extend [.opened])
  have hopened : [Event.opened].countP Event.isOpened = 1 := rfl
  have hclosed : [Event.closed].countP Event.isOpened = 0 := rfl
  rw [result_withConnection]
  split
  · rw [Session.openedCount_extend, hopened]
  · split <;>
      rw [Session.openedCount_extend, hbody, Session.openedCount_extend, hopened, hclosed, Nat.add_zero]

end Store

/-! ## Extraction -/

/-- The name and the relation columns under which a table is exported. -/
def exportNaming (entities : EntityIndex) (relations : RelationTables) (table : String) :
    Except Fault (Json × Option RelationColumns) := do
  let name ← entities.exportedName relations table
  return (name, ← relations.get? name)

namespace Extractor
variable (x : Extractor)

/-- The rows of a table as they are exported, given what was read of it. -/
def mapRead (entities : EntityIndex) (table : String) (named : Json × Option RelationColumns)
    (read : List Column × List (List Value)) : Run ExtractedTable := do
  let rows ← x.mapRecords table ⟨entities.find? table, named.2⟩ read.1 read.2
  let rows ← if ← Run.lift (x.isHierarchyTable table) then x.followHierarchy table rows else pure rows
  return ⟨table, named.1, rows⟩

def extractNamed (entities : EntityIndex) (threshold : Json) (table : String)
    (named : Json × Option RelationColumns) : Run ExtractedTable := do
  x.mapRead entities table named (← x.readTable table threshold)

theorem extract_eq (entities : EntityIndex) (relations : RelationTables) (threshold : Json) (table : String) :
    x.extract entities relations threshold table =
      Run.lift (exportNaming entities relations table) >>= x.extractNamed entities threshold table := by
  unfold extract
  cases hn : entities.exportedName relations table with
  | error f =>
    have hnaming : exportNaming entities relations table = .error f := by rw [exportNaming, hn]; rfl
    rw [hnaming]
    rfl
  | ok name =>
    rw [Run.lift_ok_bind]
    cases hr : relations.get? name with
    | error f =>
      have hnaming : exportNaming entities relations table = .error f := by
        simp only [exportNaming, hn, hr, bind, Except.bind]
      rw [hnaming]
      rfl
    | ok columns =>
      have hnaming : exportNaming entities relations table = .ok (name, columns) := by
        simp only [exportNaming, hn, hr, bind, Except.bind, pure, Except.pure]
      rw [hnaming, Run.lift_ok_bind, Run.lift_ok_bind]
      rfl

theorem confined_mapRead (entities : EntityIndex) (table : String) (named : Json × Option RelationColumns)
    (read : List Column × List (List Value)) :
    Run.Confined (Event.Inside table) (x.mapRead entities table named read) := by
  refine ((x.confined_mapRecords table _ _ _).mono fun _ => Event.Reads.inside).bind fun rows => ?_
  refine (Run.confined_lift _).bind fun ordered => ?_
  split
  · exact (x.confined_followHierarchy table rows).bind fun _ => Run.confined_pure _
  · exact (Run.confined_pure _).bind fun _ => Run.confined_pure _

theorem confined_extractNamed (entities : EntityIndex) (threshold : Json) (table : String)
    (named : Json × Option RelationColumns) :
    Run.Confined (Event.Concerns table) (x.extractNamed entities threshold table named) := by
  have hbody := (x.confined_readBody table threshold).mono fun _ => Event.Reads.inside
  refine (x.store.confined_withConnection hbody).bind fun read => ?_
  exact (x.confined_mapRead entities table named read).mono fun _ => Event.Inside.concerns

theorem confined_extract (entities : EntityIndex) (relations : RelationTables) (threshold : Json) (table : String) :
    Run.Confined (Event.Concerns table) (x.extract entities relations threshold table) := by
  rw [extract_eq]
  exact (Run.confined_lift _).bind fun named => x.confined_extractNamed entities threshold table named

end Extractor

theorem confined_tableElements (p : ExportPlan) (table : String) :
    Run.Confined (Event.Concerns table) (tableElements p table) :=
  (p.extractor.confined_extract _ _ _ table).bind fun _ => Run.confined_lift _

/-! ## The connection of an extraction -/

/-- How many connections the extraction of a table opens. -/
def connectionsFor (p : ExportPlan) (table : String) : Nat :=
  match exportNaming p.entities p.relations table with
  | .ok _ => 1
  | .error _ => 0

section
variable (p : ExportPlan) {table : String}

theorem tableElements_eq (table : String) : tableElements p table =
    Run.lift (exportNaming p.entities p.relations table) >>= fun named =>
      p.extractor.extractNamed p.entities p.threshold table named >>= fun extracted =>
        Run.lift (extracted.rows.mapM (buildElement table extracted.exportedName)) := by
  rw [tableElements, Extractor.extract_eq, bind_assoc]

theorem result_tableElements_unnamed {f : Fault} (h : exportNaming p.entities p.relations table = .error f)
    (s : Session) : (tableElements p table).result s = (.error f, s) := by
  rw [tableElements_eq, h, Run.lift_error_bind, Run.result_throw]

theorem openedCount_extractNamed (table : String) (named : Json × Option RelationColumns) (s : Session) :
    ((p.extractor.extractNamed p.entities p.threshold table named).result s).2.openedCount = s.openedCount + 1 := by
  have hbody := (p.extractor.confined_readBody table p.threshold).mono fun _ => Event.Reads.inside
  have hread := p.extractor.store.openedCount_withConnection hbody s
  rw [← Extractor.readTable_eq] at hread
  rw [Extractor.extractNamed, Run.result_bind]
  rcases hr : (p.extractor.readTable table p.threshold).result s with ⟨f | read, t⟩
  · rw [hr] at hread
    exact hread
  · rw [hr] at hread
    rw [← hread]
    exact (p.extractor.confined_mapRead p.entities table named read).openedCount_eq (fun e he => he.isOpened) t

theorem openedCount_tableElements (s : Session) :
    ((tableElements p table).result s).2.openedCount = s.openedCount + connectionsFor p table := by
  unfold connectionsFor
  cases h : exportNaming p.entities p.relations table with
  | error f => rw [result_tableElements_unnamed p h]; rfl
  | ok named =>
    rw [tableElements_eq, h, Run.lift_ok_bind, ← openedCount_extractNamed p table named s, Run.result_bind]
    rcases (p.extractor.extractNamed p.entities p.threshold table named).result s with ⟨f | extracted, t⟩
    · rfl
    · simp

theorem connectionsFor_eq_one {s t : Session} {es : List Markup.Element}
    (h : (tableElements p table).result s = (.ok es, t)) : connectionsFor p table = 1 := by
  unfold connectionsFor
  cases hnaming : exportNaming p.entities p.relations table with
  | error f =>
    rw [result_tableElements_unnamed p hnaming] at h
    cases h
  | ok named => rfl

/-- A table that has elements was read on a connection, its columns first. -/
theorem extends_of_tableElements_ok {s t : Session} {es : List Markup.Element}
    (h : (tableElements p table).result s = (.ok es, t)) :
    ∃ more, t = s.extend (.opened :: .columnsRead table :: more) := by
  cases hnaming : exportNaming p.entities p.relations table with
  | error f => simp [result_tableElements_unnamed p hnaming] at h
  | ok named =>
    rw [tableElements_eq, hnaming, Run.lift_ok_bind] at h
    cases hopening : p.extractor.store.opening (s.openedCount + 1) with
    | error f =>
      simp [Run.result_bind, Extractor.extractNamed, Extractor.readTable_eq, Store.result_withConnection, hopening] at h
    | ok _ =>
      obtain ⟨inside, hbody⟩ := Run.Confined.extends_bind
        (fun columns => p.extractor.confined_readRows table p.threshold columns)
        (p.extractor.result_columns table (s.extend [.opened]))
      have hread := p.extractor.store.extends_withConnection hopening hbody
      obtain ⟨mapped, hextract⟩ := Run.Confined.extends_bind
        (fun read => p.extractor.confined_mapRead p.entities table named read) hread
      obtain ⟨more, hall⟩ := Run.Confined.extends_bind (P := Event.Inside table) (fun extracted : ExtractedTable =>
        Run.confined_lift (extracted.rows.mapM (buildElement table extracted.exportedName))) hextract
      refine ⟨inside ++ [.closed] ++ mapped ++ more, (congrArg Prod.snd h).symm.trans (hall.trans ?_)⟩
      simp

end

end TableDump
