import TableDump.Proofs.Export.ExtractionFrame
import TableDump.Proofs.Model.ColumnName

/-! # Rows of records

* `Value.encoded`: the text of a value in a column. What happened before does not change it.
* `Cells`: the entries that the columns of a record ask for, one for each value that is not absent, with the
  text of that value.
* A row is what is left when the entries are put one after the other (`row_of_mapRecord`). None is lost unless
  two columns collide (`mapRecord_keeps_columns`); colliding columns can share an entry
  (`mapRecord_loses_column`).
-/

namespace TableDump
open TableDump.Text
set_option autoImplicit false

/-! ## Texts of values -/

theorem blind_encode (e : Encoding) (column : Column) (v : Value) : Run.Blind (fun _ => True) (v.encode e column) := by
  unfold Value.encode Value.encodeAs
  split
  · exact Run.blind_pure _
  · split
    · unfold Value.encodeBinary
      split
      · exact Run.blind_lift _
      · split
        · exact (Run.blind_record trivial).bind fun _ => Run.blind_pure _
        · exact Run.blind_throw _
    · split
      · exact Run.blind_lift _
      · exact Run.blind_pure _

/-- The text of a value in a column, none when it is absent. -/
def Value.encoded (e : Encoding) (column : Column) (v : Value) : Except Fault (Option String) :=
  ((v.encode e column).result {}).1

theorem encoded_of_encode {e : Encoding} {column : Column} {v : Value} {text : Option String} {s t : Session}
    (h : (v.encode e column).result s = (.ok text, t)) : v.encoded e column = .ok text := by
  rw [Value.encoded, (blind_encode e column v).outcome_eq {} s, h]

/-! ## Entries of a record -/

variable {e : Encoding} {n : Naming}

inductive Cells (e : Encoding) (n : Naming) : List Column → List Value → Row → Prop
  | done (values : List Value) : Cells e n [] values []
  | absent {column : Column} {v : Value} {columns : List Column} {values : List Value} {cells : Row}
    (htext : v.encoded e column = .ok none) (hrest : Cells e n columns values cells) :
    Cells e n (column :: columns) (v :: values) cells
  | present {column : Column} {v : Value} {columns : List Column} {values : List Value} {cells : Row} {name text : String}
    (htext : v.encoded e column = .ok (some text)) (hname : n.columnName column.name = .ok name)
    (hrest : Cells e n columns values cells) : Cells e n (column :: columns) (v :: values) ((name, text) :: cells)

theorem Cells.exists_column {columns : List Column} {values : List Value} {cells : Row} (h : Cells e n columns values cells)
    {name : String} (hname : name ∈ cells.map Prod.fst) : ∃ column ∈ columns, n.columnName column.name = .ok name := by
  induction h with
  | done => simp at hname
  | absent _ _ ih =>
    obtain ⟨column, hcolumn, hnamed⟩ := ih hname
    exact ⟨column, List.mem_cons_of_mem _ hcolumn, hnamed⟩
  | present _ hnamed _ ih =>
    cases List.mem_cons.1 hname with
    | inl h => exact ⟨_, List.mem_cons_self, h ▸ hnamed⟩
    | inr h =>
      obtain ⟨column, hcolumn, hnamed⟩ := ih h
      exact ⟨column, List.mem_cons_of_mem _ hcolumn, hnamed⟩

/-- Entries under one name come from columns that collide. -/
theorem Cells.nodup {columns : List Column} {values : List Value} {cells : Row} (h : Cells e n columns values cells)
    (hdistinct : columns.Pairwise fun a b => sameName a.name b.name = false)
    (hcollides : n.entity.isSome = true → columns.Pairwise fun a b => ¬ Collides a.name b.name) : (cells.map Prod.fst).Nodup := by
  induction h with
  | done => exact List.nodup_nil
  | absent _ _ ih => exact ih (List.pairwise_cons.1 hdistinct).2 fun hentity => (List.pairwise_cons.1 (hcollides hentity)).2
  | present _ hname hrest ih =>
    obtain ⟨hhead, hdistinct⟩ := List.pairwise_cons.1 hdistinct
    refine List.nodup_cons.2 ⟨fun hmem => ?_, ih hdistinct fun hentity => (List.pairwise_cons.1 (hcollides hentity)).2⟩
    obtain ⟨other, hother, hname'⟩ := hrest.exists_column hmem
    obtain ⟨hentity, hboth⟩ := Naming.collides_of_columnName (hhead other hother) hname hname'
    exact (List.pairwise_cons.1 (hcollides hentity)).1 other hother hboth

/-! ## Rows -/

namespace Row

def putAll (row cells : Row) : Row := cells.foldl (fun row cell => row.put cell.1 cell.2) row

theorem put_of_notMem {row : Row} {name : String} (h : name ∉ row.map Prod.fst) (text : String) :
    row.put name text = row ++ [(name, text)] := by
  induction row with
  | nil => rfl
  | cons entry rest ih =>
    obtain ⟨other, kept⟩ := entry
    simp only [List.map_cons, List.mem_cons, not_or] at h
    rw [put, if_neg (Ne.symm h.1), ih h.2, List.cons_append]

theorem nodup_put {row : Row} (h : (row.map Prod.fst).Nodup) (name text : String) :
    ((row.put name text).map Prod.fst).Nodup := by
  rw [names_put]
  split
  · exact h
  · next hname => exact List.nodup_append.2 ⟨h, by simp, fun a ha b hb => by
      rw [List.mem_singleton.1 hb]
      exact fun heq => hname (heq ▸ ha)⟩

theorem putAll_of_nodup {row cells : Row} (h : ((row ++ cells).map Prod.fst).Nodup) : row.putAll cells = row ++ cells := by
  induction cells generalizing row with
  | nil =>
    rw [List.append_nil]
    rfl
  | cons cell rest ih =>
    have hname : cell.1 ∉ row.map Prod.fst := by
      rw [List.map_append, List.map_cons, List.nodup_append] at h
      exact fun hmem => h.2.2 _ hmem _ List.mem_cons_self rfl
    have hcells : row ++ cell :: rest = row ++ [cell] ++ rest := List.append_cons row cell rest
    rw [hcells] at h ⊢
    rw [putAll, List.foldl_cons, put_of_notMem hname, ← putAll, ih h]

theorem nodup_putAll (row : Row) (h : (row.map Prod.fst).Nodup) (cells : Row) : ((row.putAll cells).map Prod.fst).Nodup := by
  induction cells generalizing row with
  | nil => exact h
  | cons cell rest ih => exact ih _ (nodup_put h _ _)

end Row

/-- Every step puts the entry of its column, if there is one. -/
theorem putAll_of_mapColumns {columns : List Column} {values : List Value} {row row' : Row} {s t : Session}
    (h : (mapColumns e n row columns values).result s = (.ok row', t)) :
    ∃ cells, Cells e n columns values cells ∧ row' = row.putAll cells := by
  induction columns generalizing values row s with
  | nil =>
    cases h
    exact ⟨[], .done values, rfl⟩
  | cons column columns ih =>
    cases values with
    | nil => cases h
    | cons v values =>
      rw [mapColumns] at h
      obtain ⟨mapped, u, hvalue, hrest⟩ := Run.bind_eq_ok_iff.1 h
      obtain ⟨cells, hcells, rfl⟩ := ih hrest
      rw [mapValue] at hvalue
      obtain ⟨text, w, htext, hvalue⟩ := Run.bind_eq_ok_iff.1 hvalue
      cases text with
      | none =>
        cases hvalue
        exact ⟨cells, .absent (encoded_of_encode htext) hcells, rfl⟩
      | some text =>
        obtain ⟨name, _, hname, hput⟩ := Run.bind_eq_ok_iff.1 hvalue
        cases hput
        exact ⟨(name, text) :: cells, .present (encoded_of_encode htext) (Run.lift_eq_ok_iff.1 hname).1 hcells, rfl⟩

theorem row_of_mapRecord {columns : List Column} {record : List Value} {row : Row} {s t : Session}
    (h : (mapRecord e n columns record).result s = (.ok row, t)) :
    ∃ cells, Cells e n columns record cells ∧ row = Row.putAll [] cells := putAll_of_mapColumns h

theorem mapRecord_keeps_columns {columns : List Column} {record : List Value} {row : Row} {s t : Session}
    (hdistinct : columns.Pairwise fun a b => sameName a.name b.name = false)
    (hcollides : n.entity.isSome = true → columns.Pairwise fun a b => ¬ Collides a.name b.name)
    (h : (mapRecord e n columns record).result s = (.ok row, t)) :
    Cells e n columns record row ∧ (row.map Prod.fst).Nodup := by
  obtain ⟨cells, hcells, rfl⟩ := row_of_mapRecord h
  have hnodup := hcells.nodup hdistinct hcollides
  rw [Row.putAll_of_nodup (by simpa using hnodup), List.nil_append]
  exact ⟨hcells, hnodup⟩

/-! ## Columns that share an entry -/

/-- Users with a manager. -/
def managedUsers : Naming where
  entity := some { name := .str "User", attributes := [{ name := .str "manager" }] }

def managerColumns : List Column := [⟨"id", .untyped⟩, ⟨"MANAGER_ID", .typed .integer⟩, ⟨"Since", .typed .text⟩]

theorem mapRecord_keeps_columns_managerColumns :
    (managerColumns.Pairwise (fun a b => sameName a.name b.name = false) ∧
      managerColumns.Pairwise (fun a b => ¬ Collides a.name b.name) ∧
      (mapRecord {} managedUsers managerColumns [.integer 7, .integer 1, .null]).result {} =
        (.ok [("id", "7"), ("manager_id", "1")], {})) ∧
    Cells {} managedUsers managerColumns [.integer 7, .integer 1, .null] [("id", "7"), ("manager_id", "1")] ∧
      ["id", "manager_id"].Nodup := by
  have hdistinct : managerColumns.Pairwise fun a b => sameName a.name b.name = false := by decide +kernel
  have hcollides : managerColumns.Pairwise fun a b => ¬ Collides a.name b.name := by decide +kernel
  have hrow : (mapRecord {} managedUsers managerColumns [.integer 7, .integer 1, .null]).result {} =
      (.ok [("id", "7"), ("manager_id", "1")], {}) := by rfl
  exact ⟨⟨hdistinct, hcollides, hrow⟩, mapRecord_keeps_columns hdistinct (fun _ => hcollides) hrow⟩

def groupColumns : List Column := [⟨"MANAGER_ID", .typed .integer⟩, ⟨"MANAGER_GROUP_ID", .typed .integer⟩]

theorem mapRecord_loses_column :
    groupColumns.Pairwise (fun a b => sameName a.name b.name = false) ∧
      Cells {} managedUsers groupColumns [.integer 1, .integer 2] [("manager_id", "1"), ("manager_id", "2")] ∧
      (mapRecord {} managedUsers groupColumns [.integer 1, .integer 2]).result {} = (.ok [("manager_id", "2")], {}) := by
  have hfirst : managedUsers.columnName "MANAGER_ID" = .ok "manager_id" := by rfl
  have hsecond : managedUsers.columnName "MANAGER_GROUP_ID" = .ok "manager_id" := by rfl
  refine ⟨by decide +kernel, ?_, ?_⟩
  · exact .present (by rfl) hfirst (.present (by rfl) hsecond (.done []))
  · rfl

end TableDump
