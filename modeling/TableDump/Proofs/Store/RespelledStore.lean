import TableDump.Export.Extraction
import TableDump.Proofs.Export.ExtractionFrame
import TableDump.Proofs.Schema.Respelling
import TableDump.Store.Declared

/-! # Stores under other spellings

* `Respelling.Respells`: stores that give the same answers, but spell their tables and columns differently.
* `Store.WellNamed`: tables, and the columns of each, are told apart ignoring case, and key columns are
  spelled as columns are.
* What is read of a catalog is the same but for spellings; the rows of a table are the same
  (`parallel_readTable`).
* `DeclaredStore.respelled`: a declared store under other spellings (`DeclaredStore.respells`).
-/

namespace TableDump
open TableDump.Schema TableDump.Text
set_option autoImplicit false

def Store.Lists (store : Store) (schema : Option String) (table : String) : Prop :=
  ∃ listed, store.tables schema = .ok listed ∧ table ∈ listed

structure Store.WellNamed (store : Store) (schema : Option String) : Prop where
  tables : ∀ listed, store.tables schema = .ok listed → listed.Pairwise fun a b => sameName a b = false
  columns : ∀ table columns, store.Lists schema table → store.columns schema table = .ok columns →
    (columns.map Column.name).Pairwise fun a b => sameName a b = false
  key : ∀ table key columns, store.Lists schema table → store.key schema table = .ok key →
    store.columns schema table = .ok columns → ∀ name ∈ Catalog.presentNames key, name ∈ columns.map Column.name

namespace Respelling
variable (ρ : Respelling)

def renamed (table : String) (c : Column) : Column := { c with name := ρ.column table c.name }

def query (q : Query) : Query :=
  { q with
    table := ρ.table q.table
    columns := q.columns.map (ρ.column q.table)
    orderBy := q.orderBy.map (ρ.column q.table) }

/-- `other` is `store` with its tables and columns spelled differently. It may list its tables in another
order and refer to tables in any spelling; its faults are of the same kinds. -/
structure Respells (schema : Option String) (store other : Store) : Prop where
  driverFaults : other.driverFaults = store.driverFaults
  connect : ∀ n, Agree Eq (store.connect n) (other.connect n)
  close : Agree Eq store.close other.close
  inspect : Agree Eq store.inspect other.inspect
  tables : Agree (fun listed listed' => listed'.Perm (listed.map ρ.table)) (store.tables schema) (other.tables schema)
  references : ∀ table, store.Lists schema table →
    Agree (List.Forall₂ (Option.Rel fun a b => sameName a b = true)) (store.references schema table)
      (other.references schema (ρ.table table))
  key : ∀ table, store.Lists schema table →
    Agree (fun key key' => key' = key.map (Option.map (ρ.column table))) (store.key schema table)
      (other.key schema (ρ.table table))
  columns : ∀ table, store.Lists schema table →
    Agree (fun columns columns' => columns' = columns.map (ρ.renamed table)) (store.columns schema table)
      (other.columns schema (ρ.table table))
  rows : ∀ q columns, store.Lists schema q.table → store.columns schema q.table = .ok columns →
    (∀ name ∈ q.columns ++ q.orderBy, name ∈ columns.map Column.name) → Agree Eq (store.rows q) (other.rows (ρ.query q))

/-! ## Names -/

theorem pairwise_map {names : List String} {f : String → String} (hf : ∀ name, sameName name (f name) = true)
    (h : names.Pairwise fun a b => sameName a b = false) : (names.map f).Pairwise fun a b => sameName a b = false := by
  refine List.pairwise_map.2 (h.imp fun {a b} hab => ?_)
  rw [← sameName_congr (hf a) (hf b), hab]

theorem nodup_of_pairwise {names : List String} (h : names.Pairwise fun a b => sameName a b = false) : names.Nodup := by
  refine h.imp fun {a b} hab heq => ?_
  rw [heq, sameName_refl] at hab
  cases hab

theorem presentNames_column (table : String) (names : List (Option String)) :
    Catalog.presentNames (names.map (Option.map (ρ.column table))) = (Catalog.presentNames names).map (ρ.column table) := by
  induction names with
  | nil => rfl
  | cons name rest ih =>
    rw [Catalog.presentNames, Catalog.presentNames] at ih ⊢
    rw [List.map_cons, List.filterMap_cons, List.filterMap_cons, ih]
    cases name with
    | none => rfl
    | some name =>
      simp only [Option.map_some, Option.bind_some, ← isEmpty_congr (ρ.sameName_column table name)]
      cases name.isEmpty <;> rfl

theorem sameNames_presentNames {names names' : List (Option String)}
    (h : List.Forall₂ (Option.Rel fun a b => sameName a b = true) names names') :
    SameNames (Catalog.presentNames names) (Catalog.presentNames names') := by
  refine List.rel_filterMap (fun name name' hname => ?_) h
  cases hname with
  | none => exact .none
  | @some name name' hname =>
    simp only [Option.bind_some, isEmpty_congr hname]
    split
    · exact .none
    · exact .some hname

end Respelling

/-! ## Catalogs -/

theorem Agree.guarded {α β : Type} {R : α → β → Prop} {c c' : Catalog} {table table' : Option String}
    {answer : Except Fault α} {answer' : Except Fault β} (hinspect : Agree Eq c.store.inspect c'.store.inspect)
    (h : Agree R answer answer') : Agree R (c.guarded table answer) (c'.guarded table' answer') := by
  have hboth : Agree R (c.store.inspect >>= fun _ => answer) (c'.store.inspect >>= fun _ => answer') :=
    hinspect.bind fun _ _ _ => h
  rw [Catalog.guarded, Catalog.guarded]
  revert hboth
  generalize (c.store.inspect >>= fun _ => answer) = outcome
  generalize (c'.store.inspect >>= fun _ => answer') = outcome'
  rintro (hab | @⟨f, g, hkind⟩)
  · exact .ok hab
  · refine .error ?_
    simp only [hkind]
    split
    · rfl
    · exact hkind

namespace Respelling.Respells
variable {ρ : Respelling} {schema : Option String} {store other : Store} (h : ρ.Respells schema store other)
include h

theorem parallel_tables : Run.Parallel (fun listed listed' => store.tables schema = .ok listed ∧
    listed'.Perm (listed.map ρ.table)) (Catalog.tables ⟨store, schema⟩) (Catalog.tables ⟨other, schema⟩) := by
  refine Run.Parallel.bind (Run.parallel_record ?_) fun _ _ _ => Run.parallel_lift (Agree.guarded h.inspect ?_)
  · rfl
  exact h.tables.mono fun listed listed' hlisted _ hperm => ⟨hlisted, hperm⟩

theorem parallel_imports {table : String} (htable : store.Lists schema table) :
    Run.Parallel SameNames (Catalog.imports ⟨store, schema⟩ table) (Catalog.imports ⟨other, schema⟩ (ρ.table table)) := by
  refine Run.Parallel.bind (Run.parallel_record ?_) fun _ _ _ => Run.parallel_lift ?_
  · rfl
  exact (Agree.guarded h.inspect (h.references table htable)).map fun names names' hnames =>
    (sameNames_presentNames hnames).distinctNames

theorem parallel_key {table : String} (htable : store.Lists schema table) :
    Run.Parallel (fun key key' => (∃ names, store.key schema table = .ok names ∧ key = Catalog.presentNames names) ∧
      key' = key.map (ρ.column table)) (Catalog.key ⟨store, schema⟩ table) (Catalog.key ⟨other, schema⟩ (ρ.table table)) := by
  refine Run.Parallel.bind (Run.parallel_record ?_) fun _ _ _ => Run.parallel_lift ?_
  · rfl
  have hkey := (h.key table htable).mono (S := fun names names' => store.key schema table = .ok names ∧
    names' = names.map (Option.map (ρ.column table))) fun names names' hnames _ hmap => ⟨hnames, hmap⟩
  refine (Agree.guarded h.inspect hkey).map fun names names' hnames => ⟨⟨names, hnames.1, rfl⟩, ?_⟩
  rw [hnames.2, ρ.presentNames_column]

theorem parallel_columns {table : String} (htable : store.Lists schema table) :
    Run.Parallel (fun columns columns' => store.columns schema table = .ok columns ∧
      columns' = columns.map (ρ.renamed table)) (Catalog.columns ⟨store, schema⟩ table)
      (Catalog.columns ⟨other, schema⟩ (ρ.table table)) := by
  refine Run.Parallel.bind (Run.parallel_record ?_) fun _ _ _ => Run.parallel_lift (Agree.guarded h.inspect ?_)
  · rfl
  exact (h.columns table htable).mono fun columns columns' hcolumns _ hmap => ⟨hcolumns, hmap⟩

end Respelling.Respells

/-! ## Rows -/

theorem Extractor.kind_queryFault (table table' : String) {f g : Fault} (h : f.kind = g.kind) :
    (queryFault table f).kind = (queryFault table' g).kind := by
  rw [queryFault, queryFault, h]
  split
  · rfl
  · split
    · rfl
    · exact h

section
variable {x : Extractor} {ρ : Respelling} {other : Store} (h : ρ.Respells (schemaName x.schema) x.store other)
include h

theorem parallel_fetch {q : Query} {columns : List Column} (htable : x.store.Lists (schemaName x.schema) q.table)
    (hcolumns : x.store.columns (schemaName x.schema) q.table = .ok columns)
    (hnames : ∀ name ∈ q.columns ++ q.orderBy, name ∈ columns.map Column.name) :
    Run.Parallel Eq (x.fetch q) (({ x with store := other } : Extractor).fetch (ρ.query q)) := by
  rw [Extractor.fetch_eq, Extractor.fetch_eq]
  refine Run.Parallel.bind (Run.parallel_record ?_) fun _ _ _ => Run.parallel_lift ?_
  · rfl
  · exact (h.rows q columns htable hcolumns hnames).mapError fun f g hkind => Extractor.kind_queryFault _ _ hkind

omit h in
theorem agree_buildQuery (table : String) {columns : List Column} {key : List String}
    (hcolumns : (columns.map Column.name).Pairwise fun a b => sameName a b = false)
    (hkey : ∀ name ∈ key, name ∈ columns.map Column.name) (threshold : Json) :
    Agree (fun q q' => q.table = table ∧ (∀ name ∈ q.columns ++ q.orderBy, name ∈ columns.map Column.name) ∧
      q' = ρ.query q) (x.buildQuery table (columns.map Column.name) key threshold)
      (({ x with store := other } : Extractor).buildQuery (ρ.table table) ((columns.map (ρ.renamed table)).map Column.name)
        (key.map (ρ.column table)) threshold) := by
  have hrenamed : (columns.map (ρ.renamed table)).map Column.name = (columns.map Column.name).map (ρ.column table) := by
    rw [List.map_map, List.map_map]
    rfl
  have hdistinct := Respelling.nodup_of_pairwise (Respelling.pairwise_map (ρ.sameName_column table) hcolumns)
  have hkey' : ∀ name ∈ key.map (ρ.column table), name ∈ (columns.map Column.name).map (ρ.column table) := by
    rw [List.forall_mem_map]
    exact fun name hname => List.mem_map_of_mem (hkey name hname)
  rw [hrenamed, Extractor.buildQuery_eq (Respelling.nodup_of_pairwise hcolumns) hkey,
    Extractor.buildQuery_eq hdistinct hkey']
  refine (Agree.refl (rowLimit threshold)).map fun limit limit' hlimit => ⟨rfl, ?_, hlimit ▸ rfl⟩
  exact List.forall_mem_append.2 ⟨fun name hname => hname, hkey⟩

/-- A table is read into the same rows under columns that are spelled differently. -/
theorem parallel_readTable (hnames : x.store.WellNamed (schemaName x.schema)) {table : String}
    (htable : x.store.Lists (schemaName x.schema) table) (threshold : Json) :
    Run.Parallel (fun read read' => x.store.columns (schemaName x.schema) table = .ok read.1 ∧
      read' = (read.1.map (ρ.renamed table), read.2)) (x.readTable table threshold)
      (({ x with store := other } : Extractor).readTable (ρ.table table) threshold) := by
  refine Store.parallel_withConnection h.connect h.close ?_
  refine (h.parallel_columns htable).bind fun columns columns' hcolumns => ?_
  obtain ⟨hcolumns, rfl⟩ := hcolumns
  refine (h.parallel_key htable).bind fun key key' hkey => ?_
  obtain ⟨⟨names, hkey, rfl⟩, rfl⟩ := hkey
  refine (Run.parallel_lift (agree_buildQuery table (hnames.columns table columns htable hcolumns)
    (hnames.key table names columns htable hkey hcolumns) threshold)).bind fun q q' hq => ?_
  obtain ⟨rfl, hread, rfl⟩ := hq
  refine (parallel_fetch h htable hcolumns hread).bind fun records records' hrecords => Run.parallel_pure ⟨hcolumns, ?_⟩
  rw [hrecords]

end

/-! ## Declared stores -/

def DeclaredTable.respelled (ρ : Respelling) (t : DeclaredTable) : DeclaredTable :=
  { t with
    name := ρ.table t.name
    columns := t.columns.map (ρ.renamed t.name)
    key := t.key.map (Option.map (ρ.column t.name)) }

theorem eq_of_answerUnless {α : Type} {fault : Option Fault} {a b : α} (h : answerUnless fault a = .ok b) : a = b := by
  cases fault with
  | none => exact Except.ok.inj h
  | some f => cases h

theorem agree_answerUnless {α β : Type} {R : α → β → Prop} (fault : Option Fault) {a : α} {b : β} (h : R a b) :
    Agree R (answerUnless fault a) (answerUnless fault b) := by
  cases fault with
  | none => exact .ok h
  | some f => exact .error rfl

namespace DeclaredStore

/-- The store with its tables and columns spelled differently; references keep their spelling. -/
def respelled (ρ : Respelling) (s : DeclaredStore) : DeclaredStore :=
  { s with
    tables := s.tables.map (DeclaredTable.respelled ρ)
    listing := s.listing.map (List.map ρ.table) }

variable {ρ : Respelling} {s : DeclaredStore} {schema : Option String} {name : String}

theorem names_respelled (schema : Option String) : (s.respelled ρ).names schema = (s.names schema).map ρ.table := by
  obtain ⟨tables, listing, _⟩ := s
  rw [names, names, respelled]
  split
  · cases listing with
    | none => simp [DeclaredTable.respelled]
    | some listed => rfl
  · rfl

theorem find?_respelled (h : ∀ t ∈ s.tables, sameName t.name name = true → t.name = name) :
    (s.respelled ρ).tables.find? (fun t => t.name == ρ.table name) =
      (s.tables.find? fun t => t.name == name).map (DeclaredTable.respelled ρ) := by
  rw [respelled, List.find?_map]
  refine congrArg (Option.map _) (List.find?_congr fun t ht => ?_)
  rw [Bool.eq_iff_iff, Function.comp_apply, beq_iff_eq, beq_iff_eq]
  constructor
  · intro heq
    refine h t ht (sameName_trans (ρ.sameName_table t.name) ?_)
    exact sameName_symm (sameName_trans (ρ.sameName_table name) (heq ▸ sameName_refl _))
  · exact fun heq => congrArg ρ.table heq

theorem agree_table (h : ∀ t ∈ s.tables, sameName t.name name = true → t.name = name) :
    Agree (fun t t' => t.name = name ∧ t' = t.respelled ρ) (s.table schema name)
      ((s.respelled ρ).table schema (ρ.table name)) := by
  have hschema : (s.respelled ρ).schema = s.schema := rfl
  rw [table, table, find?_respelled h, hschema]
  by_cases hs : schema = s.schema
  · rw [if_pos hs, if_pos hs]
    cases hfound : s.tables.find? fun t => t.name == name with
    | none => exact .error (Eq.refl FaultKind.missingTable)
    | some t =>
      have hname := List.find?_some hfound
      exact .ok ⟨beq_iff_eq.1 hname, rfl⟩
  · rw [if_neg hs, if_neg hs]
    exact .error (Eq.refl FaultKind.missingTable)

theorem mem_names_of_lists (h : s.toStore.Lists schema name) : name ∈ s.names schema := by
  obtain ⟨listed, hlisted, hmem⟩ := h
  exact (eq_of_answerUnless hlisted : s.names schema = listed) ▸ hmem

theorem mem_of_table {t : DeclaredTable} (h : s.table schema name = .ok t) : t ∈ s.tables := by
  rw [table] at h
  split at h
  · next u hfound =>
    split at hfound
    · exact Except.ok.inj h ▸ List.mem_of_find?_eq_some hfound
    · cases hfound
  · cases h

/-- What a question about a table is answered with is declared of a table of the store. -/
theorem exists_of_answer {α : Type} {fault : DeclaredTable → Option Fault} {answer : DeclaredTable → α} {a : α}
    (h : (do let t ← s.table schema name; answerUnless (fault t) (answer t)) = .ok a) :
    ∃ t ∈ s.tables, s.table schema name = .ok t ∧ answer t = a := by
  obtain ⟨t, ht, ha⟩ := outcome_bind_eq_ok_iff.1 h
  exact ⟨t, mem_of_table ht, ht, eq_of_answerUnless ha⟩

/-- The names of a declared store are told apart when those of its listing are, and those of each table's columns. -/
theorem wellNamed (htables : (s.names schema).Pairwise fun a b => sameName a b = false)
    (hcolumns : ∀ t ∈ s.tables, (t.columns.map Column.name).Pairwise fun a b => sameName a b = false)
    (hkey : ∀ t ∈ s.tables, ∀ name ∈ Catalog.presentNames t.key, name ∈ t.columns.map Column.name) :
    s.toStore.WellNamed schema where
  tables listed hlisted := (eq_of_answerUnless hlisted : s.names schema = listed) ▸ htables
  columns table columns _ h := by
    obtain ⟨t, ht, -, rfl⟩ := exists_of_answer h
    exact hcolumns t ht
  key table key columns _ h h' := by
    obtain ⟨t, ht, htable, rfl⟩ := exists_of_answer h
    obtain ⟨u, -, hu, rfl⟩ := exists_of_answer h'
    cases htable.symm.trans hu
    exact hkey t ht

/-- A declared store in which no name but its own is that of a table, ignoring case, can be respelled. -/
theorem respells (hdistinct : ∀ name ∈ s.names schema, ∀ t ∈ s.tables, sameName t.name name = true → t.name = name) :
    ρ.Respells schema s.toStore (s.respelled ρ).toStore where
  driverFaults := rfl
  connect n := Agree.refl _
  close := Agree.refl _
  inspect := Agree.refl _
  tables := agree_answerUnless s.listingFault (names_respelled (ρ := ρ) (s := s) schema ▸ List.Perm.refl _)
  references table htable := by
    refine (agree_table (hdistinct table (mem_names_of_lists htable))).bind fun t t' ht => ?_
    rw [ht.2]
    refine agree_answerUnless t.referencesFault (List.forall₂_same.2 fun r _ => ?_)
    cases r with
    | none => exact .none
    | some r => exact .some (sameName_refl r)
  key table htable := by
    refine (agree_table (hdistinct table (mem_names_of_lists htable))).bind fun t t' ht => ?_
    rw [ht.2, ← ht.1]
    exact agree_answerUnless t.keyFault rfl
  columns table htable := by
    refine (agree_table (hdistinct table (mem_names_of_lists htable))).bind fun t t' ht => ?_
    rw [ht.2, ← ht.1]
    exact agree_answerUnless t.columnsFault rfl
  rows q columns htable _ _ := by
    have htable' : (ρ.query q).table = ρ.table q.table := rfl
    change Agree Eq (s.rows q) ((s.respelled ρ).rows (ρ.query q))
    rw [rows, rows, htable', find?_respelled (hdistinct q.table (mem_names_of_lists htable))]
    cases s.tables.find? fun t => t.name == q.table with
    | none => exact .error rfl
    | some t => exact Agree.refl _

/-- A declared store that lists its tables, and tells them apart ignoring case, can be respelled. -/
theorem respells_of_pairwise (hnames : s.names schema = s.tables.map DeclaredTable.name)
    (hdistinct : (s.names schema).Pairwise fun a b => sameName a b = false) :
    ρ.Respells schema s.toStore (s.respelled ρ).toStore :=
  respells fun _ hname _ ht hsame => eq_of_sameName_of_mem hdistinct (hnames ▸ List.mem_map_of_mem ht) hname hsame

end DeclaredStore
end TableDump
