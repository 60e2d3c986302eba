import TableDump.Config.DescribedFiles
import TableDump.Proofs.Config.HiddenPassword
import TableDump.Proofs.Export.RefusedModels
import TableDump.Proofs.Export.WholeDocument

/-! # Checked configurations

What each step from an environment to an export can end in.

* `Environment.Numbered`: the variables that are read as numbers hold numbers. Where they do a manager is made
  (`ends_make`), elsewhere none is (`make_refuses_text`). `Environment.NumbersDatabase` are those of the database alone.
* Validation ends in a configuration fault exactly where it finds problems (`ends_validate`, `problems_eq_nil_iff`).
* The settings of an environment are accepted, exclude texts and name the root (`exists_settings`).
* Loading models ends in a configuration fault or gives those that the file holds, where the system looks at its path
  (`ends_loadEntities`).
* An engine that cannot be made is a configuration fault, as far as libraries refuse arguments or miss modules
  (`kind_create`). `Engine.WrapsFaults`: the faults behind an engine are those of the database layer; so they are behind
  described files (`DescribedFiles.wrapsFaults_of_createEngine`).
-/

namespace TableDump
open TableDump.Markup TableDump.Text
set_option autoImplicit false

/-! ## Numbers in an environment -/

namespace Environment
variable {e : Environment} {name : String}

def HoldsWhole (e : Environment) (name : String) : Prop := ∀ s, e.get? name = some s → (Number.whole? s).isSome = true

theorem HoldsWhole.exists_whole (h : e.HoldsWhole name) (default : Int) : ∃ n, e.whole name default = .ok n := by
  cases hget : e.get? name with
  | none => exact ⟨default, by rw [whole, hget]⟩
  | some s =>
    obtain ⟨n, hn⟩ := Option.isSome_iff_exists.1 (h s hget)
    exact ⟨n, by simp only [whole, hget, hn]⟩

theorem whole_of_not_holdsWhole (h : ¬ e.HoldsWhole name) (default : Int) :
    ∃ s, e.whole name default = .error (.invalidWhole s) := by
  obtain ⟨s, h⟩ := not_forall.1 h
  obtain ⟨hget, hnone⟩ := Classical.not_imp.1 h
  refine ⟨s, ?_⟩
  rw [Bool.not_eq_true, Option.isSome_eq_false_iff, Option.isNone_iff_eq_none] at hnone
  simp only [whole, hget, hnone]

/-- The variables that are read as numbers hold numbers. That of the time-out is read where no URL is set. -/
structure Numbered (e : Environment) : Prop where
  poolSize : e.HoldsWhole "DB_POOL_SIZE"
  timeout : e.nonEmpty? "DATABASE_URL" = none → e.HoldsWhole "DB_CONNECTION_TIMEOUT"
  threshold : e.HoldsWhole "TABLE_THRESHOLD"

/-- The variables from which a database is read hold numbers where they are read as such. -/
structure NumbersDatabase (e : Environment) : Prop where
  poolSize : e.HoldsWhole "DB_POOL_SIZE"
  timeout : e.nonEmpty? "DATABASE_URL" = none → e.HoldsWhole "DB_CONNECTION_TIMEOUT"

theorem ne_empty_of_nonEmpty? {s : String} (h : e.nonEmpty? name = some s) : s.isEmpty = false := by
  obtain ⟨t, -, ht⟩ := Option.bind_eq_some_iff.1 h
  split at ht
  · cases ht
  · next hempty =>
    cases ht
    exact Bool.eq_false_iff.2 hempty

end Environment

/-! ## Parameters -/

section
variable {e : Environment}

theorem ConnectionParts.fromEnvironment_eq (e : Environment) :
    fromEnvironment e = (e.whole "DB_CONNECTION_TIMEOUT" 30).map fun timeout => {
      driver := e.get "DB_DRIVER" "ODBC Driver 17 for SQL Server"
      server := e.get "DB_SERVER" "localhost\\SQLEXPRESS"
      database := e.get "DB_DATABASE" "SyncopeDB"
      trusted := e.flag "DB_TRUSTED_CONNECTION" true
      user := e.get "DB_USERNAME" ""
      password := e.get "DB_PASSWORD" ""
      timeout } := by
  rw [fromEnvironment]
  cases e.whole "DB_CONNECTION_TIMEOUT" 30 <;> rfl

namespace DatabaseParameters

theorem exists_fromEnvironment (hpool : e.HoldsWhole "DB_POOL_SIZE")
    (htimeout : e.nonEmpty? "DATABASE_URL" = none → e.HoldsWhole "DB_CONNECTION_TIMEOUT") : ∃ d, fromEnvironment e = .ok d := by
  obtain ⟨poolSize, hpoolSize⟩ := hpool.exists_whole 5
  cases hurl : e.nonEmpty? "DATABASE_URL" with
  | some url => exact ⟨_, by simp only [fromEnvironment, hpoolSize, hurl]; rfl⟩
  | none =>
    obtain ⟨timeout, htimeout⟩ := (htimeout hurl).exists_whole 30
    rw [Environment.database_of_parts hurl, hpoolSize, ConnectionParts.fromEnvironment_eq, htimeout]
    exact ⟨_, rfl⟩

theorem fromEnvironment_eq_error (h : ¬ e.NumbersDatabase) : ∃ text, fromEnvironment e = .error (.invalidWhole text) := by
  by_cases hpool : e.HoldsWhole "DB_POOL_SIZE"
  · obtain ⟨hurl, htimeout⟩ := Classical.not_imp.1 fun htimeout => h ⟨hpool, htimeout⟩
    obtain ⟨n, hn⟩ := hpool.exists_whole 5
    obtain ⟨text, htext⟩ := Environment.whole_of_not_holdsWhole htimeout 30
    refine ⟨text, ?_⟩
    rw [Environment.database_of_parts hurl, hn, ConnectionParts.fromEnvironment_eq, htext]
    rfl
  · obtain ⟨text, htext⟩ := Environment.whole_of_not_holdsWhole hpool 5
    refine ⟨text, ?_⟩
    rw [fromEnvironment, htext]
    rfl

/-- The size of the pool is read first, and there always is some URL. -/
theorem of_fromEnvironment {d : DatabaseParameters} (h : fromEnvironment e = .ok d) :
    (∃ n, e.whole "DB_POOL_SIZE" 5 = .ok n ∧ d.poolSize = .int n) ∧ d.url.truth = true := by
  cases hurl : e.nonEmpty? "DATABASE_URL" with
  | some url =>
    simp only [fromEnvironment, hurl] at h
    obtain ⟨n, hn, h⟩ := outcome_bind_eq_ok_iff.1 h
    cases h
    refine ⟨⟨n, hn, rfl⟩, ?_⟩
    rw [Json.truth, Environment.ne_empty_of_nonEmpty? hurl, Bool.not_false]
  | none =>
    rw [Environment.database_of_parts hurl] at h
    obtain ⟨n, hn, h⟩ := outcome_bind_eq_ok_iff.1 h
    obtain ⟨p, -, rfl⟩ := outcome_map_eq_ok_iff.1 h
    refine ⟨⟨n, hn, rfl⟩, ?_⟩
    have hne : odbcUrl p.connectionString.render ≠ "" := by
      intro hempty
      have htext := DatabaseUrl.toList_odbcUrl p.connectionString.render
      rw [hempty] at htext
      simp at htext
    simpa [Environment.ofParts, Json.truth] using hne

end DatabaseParameters

namespace ExportParameters

theorem fromEnvironment_eq (e : Environment) :
    fromEnvironment e = (e.whole "TABLE_THRESHOLD" defaultThreshold).map fun threshold => {
      domain := .str (e.get "DOMAIN" "Master")
      threshold := .int threshold
      excludedPrefixes := .arr ((excludedFrom e).map .str)
      hierarchyTable := .str (e.get "HIERARCHY_TABLE" defaultHierarchyTable)
      hierarchyRoot := .str (e.get "HIERARCHY_ROOT" defaultHierarchyRoot) } := by
  rw [fromEnvironment]
  cases e.whole "TABLE_THRESHOLD" defaultThreshold <;> rfl

theorem exists_fromEnvironment (h : e.HoldsWhole "TABLE_THRESHOLD") : ∃ p, fromEnvironment e = .ok p := by
  obtain ⟨threshold, hthreshold⟩ := h.exists_whole defaultThreshold
  rw [fromEnvironment_eq, hthreshold]
  exact ⟨_, rfl⟩

theorem fromEnvironment_eq_error (h : ¬ e.HoldsWhole "TABLE_THRESHOLD") :
    ∃ text, fromEnvironment e = .error (.invalidWhole text) := by
  obtain ⟨text, htext⟩ := Environment.whole_of_not_holdsWhole h defaultThreshold
  refine ⟨text, ?_⟩
  rw [fromEnvironment_eq, htext]
  rfl

theorem of_fromEnvironment {p : ExportParameters} (h : fromEnvironment e = .ok p) :
    p.domain = .str (e.get "DOMAIN" "Master") ∧ p.excludedPrefixes = .arr ((excludedFrom e).map .str) := by
  rw [fromEnvironment_eq] at h
  obtain ⟨threshold, -, rfl⟩ := outcome_map_eq_ok_iff.1 h
  exact ⟨rfl, rfl⟩

end ExportParameters
end

/-! ## Files -/

namespace FileTree
variable {t : FileTree} {p : Path}

theorem look_eq (h : t.lookRefusal p = none) : t.look p = .ok (t.find? p) := by
  unfold look
  simp only [h]

theorem contains_eq (h : t.lookRefusal p = none) : t.contains p = .ok (t.find? p).isSome := by
  rw [contains, look_eq h]
  rfl

end FileTree

/-! ## Managers -/

namespace Manager
variable {m : Manager} {e : Environment} {files : FileTree}

theorem ends_make {database : DatabaseParameters} (hdatabase : DatabaseParameters.fromEnvironment e = .ok database)
    {exports : ExportParameters} (hexports : ExportParameters.fromEnvironment e = .ok exports) (base : Option String)
    {Q : Fault → Prop} :
    Run.Ends Q (fun m => m = ⟨ConfigPaths.fromEnvironment e (workingDirectory files) base, database, exports⟩)
      (make e files base) := by
  rw [make, hdatabase, hexports, Run.lift_ok_bind, Run.lift_ok_bind]
  exact (Run.ends_record _).bind fun _ _ => Run.ends_pure rfl

/-- Where a variable is no number no manager is made, and the fault is one of a value. -/
theorem make_refuses_text (h : ¬ e.Numbered) (files : FileTree) (base : Option String) (s : Session) :
    ∃ text, (make e files base).result s = (.error (.invalidWhole text), s) := by
  by_cases hnumbers : e.NumbersDatabase
  · obtain ⟨database, hdatabase⟩ := DatabaseParameters.exists_fromEnvironment hnumbers.poolSize hnumbers.timeout
    have hthreshold : ¬ e.HoldsWhole "TABLE_THRESHOLD" := fun hthreshold =>
      h ⟨hnumbers.poolSize, hnumbers.timeout, hthreshold⟩
    obtain ⟨text, hexports⟩ := ExportParameters.fromEnvironment_eq_error hthreshold
    refine ⟨text, ?_⟩
    rw [make, hdatabase, hexports]
    rfl
  · obtain ⟨text, hdatabase⟩ := DatabaseParameters.fromEnvironment_eq_error hnumbers
    refine ⟨text, ?_⟩
    rw [make, hdatabase]
    rfl

/-! ### Validation -/

theorem isPoolEmpty_int {n : Int} (h : m.database.poolSize = .int n) : m.isPoolEmpty = .ok (decide (n ≤ 0)) := by
  rw [isPoolEmpty, h, Json.compareZero]
  show Except.ok (some (compare n 0) == some .lt || some (compare n 0) == some .eq) = _
  congr 1
  rcases lt_trichotomy n 0 with hn | rfl | hn
  · simp [compare_lt_iff_lt.2 hn, hn.le]
  · simp
  · simp [compare_gt_iff_gt.2 hn, hn]

theorem problems_eq_nil_iff {baseThere poolEmpty : Bool} : m.problems baseThere poolEmpty = [] ↔
    m.database.url.truth = true ∧ baseThere = true ∧ m.exports.domain.truth = true ∧ poolEmpty = false := by
  simp [problems]

theorem ends_validate {baseThere poolEmpty : Bool} (hbase : files.contains m.paths.base = .ok baseThere)
    (h : m.isPoolEmpty = .ok poolEmpty) :
    Run.Ends (fun f => f.kind = .configuration ∧ m.problems baseThere poolEmpty ≠ [])
      (fun _ => m.problems baseThere poolEmpty = []) (m.validate files) := by
  rw [validate, hbase, h, Run.lift_ok_bind, Run.lift_ok_bind]
  cases hproblems : m.problems baseThere poolEmpty with
  | nil => exact (Run.ends_record _).mono (fun _ hf => hf) fun _ _ => rfl
  | cons problem rest => exact Run.ends_throw ⟨rfl, List.cons_ne_nil _ _⟩

/-! ### Settings -/

theorem exists_settings (h : ExportParameters.fromEnvironment e = .ok m.exports) : ∃ settings, m.settings = .ok settings ∧
    settings.IsAccepted ∧ settings.NamesRoot ∧ settings.ExcludesTexts := by
  obtain ⟨-, hprefixes⟩ := ExportParameters.of_fromEnvironment h
  have hmade : ∃ settings, m.settings = .ok settings ∧ settings.rootElement = .str defaultRootElement ∧
      settings.excludedPrefixes = .arr ((ExportParameters.excludedFrom e).map .str) := by
    rw [settings, hprefixes]
    cases ExportParameters.excludedFrom e with
    | nil => exact ⟨_, rfl, rfl, rfl⟩
    | cons first rest => exact ⟨_, rfl, rfl, rfl⟩
  obtain ⟨settings, hsettings, hroot, hexcluded⟩ := hmade
  refine ⟨settings, hsettings, ⟨_, mapError_eq_ok_iff.1 hsettings⟩, ?_, fun prefixes hitems p hp => ?_⟩
  · rw [Settings.NamesRoot, hroot]
    exact ⟨_, readRoot_name (by decide +kernel), by decide +kernel⟩
  · rw [hexcluded] at hitems
    cases hitems
    obtain ⟨text, -, rfl⟩ := List.mem_map.1 hp
    exact ⟨text, rfl⟩

/-! ### Entity models -/

variable {libraries : Libraries} {path : Path} {name : String} {f : Fault}

theorem kind_readModelFile {entry : FileEntry} (h : readModelFile libraries files path entry = .error f) :
    f.kind = .configuration := by
  unfold readModelFile at h
  split at h
  · cases h
    rfl
  · cases h
    rfl
  · split at h
    · cases h
      rfl
    · split at h
      · cases h
      · cases h
        rfl

theorem kind_readModels (hlooks : files.lookRefusal path = none) (h : readModels libraries files path name = .error f) :
    f.kind = .configuration := by
  rw [readModels, FileTree.look_eq hlooks] at h
  cases hfound : files.find? path with
  | none =>
    rw [hfound] at h
    cases h
    rfl
  | some entry =>
    rw [hfound] at h
    change (readModelFile libraries files path entry >>= entitiesOf name) = .error f at h
    rcases outcome_bind_eq_error_iff.1 h with h | ⟨j, -, h⟩
    · exact kind_readModelFile h
    · exact kind_parseEntities h

theorem ends_loadEntities (libraries : Libraries) (hlooks : files.lookRefusal (m.modelPath name) = none) : Run.Ends
    (fun f => f.kind = .configuration ∧ readModels libraries files (m.modelPath name) name = .error f)
    (fun models => readModels libraries files (m.modelPath name) name = .ok models)
    (m.loadEntities libraries files (some name)) := by
  refine Run.Ends.bind (Run.ends_lift (fun f hf => ⟨kind_readModels hlooks hf, hf⟩) fun _ hmodels => hmodels) ?_
  intro models hmodels
  exact (Run.ends_record _).bind fun _ _ => Run.ends_pure hmodels

end Manager

/-! ## Engines -/

namespace Engine
variable {libraries : Libraries} {poolSize url : Json} {f : Fault}

/-- An engine is refused as a fault of configuration where the URL and its arguments are refused as such, or a module is
missing. -/
theorem kind_create (hread : ∀ f, readUrl url = .error f → f.kind = .argument)
    (hmade : ∀ u f, readUrl url = .ok u → libraries.createEngine u (poolFor u poolSize) = .error f →
      f.kind = .argument ∨ f.kind = .missingModule)
    (h : create libraries poolSize url = .error f) : f.kind = .configuration := by
  rcases outcome_bind_eq_error_iff.1 h with h | ⟨u, hu, h⟩
  · obtain ⟨g, hg, rfl⟩ := mapError_eq_error_iff.1 h
    rw [urlFault, hread g hg]
    rfl
  · obtain ⟨g, hg, rfl⟩ := mapError_eq_error_iff.1 h
    rcases hmade u g (mapError_eq_ok_iff.1 hu) hg with hkind | hkind
    all_goals
      rw [engineFault, hkind]
      rfl

/-- Whatever the driver of an engine raises comes as a fault of the database layer. -/
structure WrapsFaults (e : Engine) : Prop where
  connect : ∀ files n f, (e.store files).connect n = .error f → f.kind.isDatabase = true
  close : ∀ files f, (e.store files).close = .error f → f.kind.isDatabase = true
  catalog : ∀ files, (e.store files).CatalogFaults

end Engine

/-- Tables that are not there are all that can be wrong with a database that is. -/
theorem Database.catalogFaults_toStore (db : Database) (connect : Except Fault Unit) : (db.toStore connect).CatalogFaults := by
  have htable : ∀ {α : Type} {name : String} {g : DatabaseTable → α} {f : Fault}, (db.table name).map g = .error f →
      f.kind.isDatabase = true := by
    intro α name g f h
    have h := outcome_map_eq_error_iff.1 h
    unfold table at h
    split at h
    · cases h
    · cases h
      rfl
  exact ⟨nofun, nofun, fun _ _ _ => htable, fun _ _ _ => htable, fun _ _ _ => htable⟩

namespace DescribedFiles

/-- What a described file can be behind an engine. -/
theorem store_cases (database : Option String) (files : FileTree) :
    (∃ db, store database files = Database.toStore db (.ok ())) ∨ store database files = unopenable ∨
      store database files = unreadable := by
  unfold store
  split
  · exact .inl ⟨{}, rfl⟩
  · split
    · exact .inl ⟨{}, rfl⟩
    · unfold openFile
      split
      · exact .inr (.inl rfl)
      · split
        · exact .inl ⟨{}, rfl⟩
        · exact .inr (.inl rfl)
        · split
          · next db _ => exact .inl ⟨db, rfl⟩
          · exact .inr (.inr rfl)

theorem wrapsFaults_of_createEngine {u : DatabaseUrl} {pool : Option Json} {e : Engine} (h : createEngine u pool = .ok e) :
    e.WrapsFaults := by
  unfold createEngine at h
  split at h
  · cases h
    refine ⟨fun files n f hf => ?_, fun files f hf => ?_, fun files => ?_⟩
    all_goals simp only at *
    · obtain ⟨db, hstore⟩ | hstore | hstore := store_cases u.database files
      all_goals
        rw [hstore] at hf
        cases hf
      rfl
    · obtain ⟨db, hstore⟩ | hstore | hstore := store_cases u.database files
      all_goals
        rw [hstore] at hf
        cases hf
    · obtain ⟨db, hstore⟩ | hstore | hstore := store_cases u.database files
      all_goals rw [hstore]
      · exact db.catalogFaults_toStore _
      · exact Database.catalogFaults_toStore _ _
      · exact ⟨nofun, by rintro - f ⟨⟩; rfl, by rintro - - f ⟨⟩; rfl, by rintro - - f ⟨⟩; rfl, by rintro - - f ⟨⟩; rfl⟩
  · cases h

end DescribedFiles
end TableDump
