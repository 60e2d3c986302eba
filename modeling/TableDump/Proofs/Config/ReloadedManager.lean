import TableDump.Proofs.Config.CheckedManager

/-! # Configurations that are read again

What is left of a configuration when its parameters are read again, in the same environment or in another one.

* `Manager.reloaded_of_ok`, `Manager.reloaded_of_exports`, `Manager.reloaded_of_database`: reading ends well, in a fault of the
  export, or in a fault of the database. Only the first gives both groups of parameters anew.
* `Manager.reload_all_or_nothing`: a reload that fails on a number of the database keeps the whole manager. One that fails on the
  threshold has assigned the database before (`Manager.reload_mixes_environments`).
* `Manager.reload_matches_new`: a reload that succeeds leaves what a new manager of that environment has, where the variables of
  the paths did not change; the paths are not read again (`Manager.reload_keeps_old_paths`).
-/

namespace TableDump
set_option autoImplicit false

/-- The variables of the paths are the same. That of the base is read where no other base is given. -/
structure Environment.AgreesOnPaths (e e' : Environment) (base : Option String) : Prop where
  entityModel : e.get "ENTITY_MODEL_PATH" "config/entity_model.json" = e'.get "ENTITY_MODEL_PATH" "config/entity_model.json"
  base : (∀ b, base = some b → b = "") → e.get? "CONFIG_PATH" = e'.get? "CONFIG_PATH"

namespace Manager
variable {m : Manager} {e : Environment} {database : DatabaseParameters} {exports : ExportParameters} {f : Fault}

/-! ## Reading again -/

theorem reloaded_of_ok (hdatabase : DatabaseParameters.fromEnvironment e = .ok database)
    (hexports : ExportParameters.fromEnvironment e = .ok exports) : m.reloaded e = (⟨m.paths, database, exports⟩, none) := by
  simp only [reloaded, hdatabase, hexports]

theorem reloaded_of_exports (hdatabase : DatabaseParameters.fromEnvironment e = .ok database)
    (hexports : ExportParameters.fromEnvironment e = .error f) : m.reloaded e = ({ m with database }, some f) := by
  simp only [reloaded, hdatabase, hexports]

theorem reloaded_of_database (hdatabase : DatabaseParameters.fromEnvironment e = .error f) : m.reloaded e = (m, some f) := by
  simp only [reloaded, hdatabase]

/-- Only a reload that ends well leaves a record. -/
theorem exists_result_reload (m : Manager) (e : Environment) (s : Session) :
    ∃ t, (m.reload e).result s = (.ok (m.reloaded e), t) ∧ ((m.reloaded e).2 ≠ none → t = s) := by
  rcases hreloaded : m.reloaded e with ⟨m', fault⟩
  rw [reload, hreloaded]
  cases fault with
  | none => exact ⟨_, rfl, fun h => absurd rfl h⟩
  | some f => exact ⟨s, rfl, fun _ => rfl⟩

/-- All parameters are those of the environment, or all of the manager is as it was. In between there is only the database of the
environment, where its own numbers hold and the threshold turns out to be none. -/
theorem reload_all_or_nothing (e : Environment) (m : Manager) (s : Session) : ∃ m' fault t,
    (m.reload e).result s = (.ok (m', fault), t) ∧ (fault = none ↔ e.Numbered) ∧ m'.paths = m.paths ∧
    (fault = none → DatabaseParameters.fromEnvironment e = .ok m'.database ∧
      ExportParameters.fromEnvironment e = .ok m'.exports) ∧
    (fault ≠ none → m'.exports = m.exports ∧ t = s ∧ (¬ e.NumbersDatabase → m' = m) ∧
      (e.NumbersDatabase → DatabaseParameters.fromEnvironment e = .ok m'.database)) := by
  obtain ⟨t, hresult, hsilent⟩ := exists_result_reload m e s
  by_cases hnumbers : e.NumbersDatabase
  · obtain ⟨database, hdatabase⟩ := DatabaseParameters.exists_fromEnvironment hnumbers.poolSize hnumbers.timeout
    by_cases hthreshold : e.HoldsWhole "TABLE_THRESHOLD"
    · obtain ⟨exports, hexports⟩ := ExportParameters.exists_fromEnvironment hthreshold
      rw [reloaded_of_ok hdatabase hexports] at hresult
      have hnumbered : e.Numbered := ⟨hnumbers.poolSize, hnumbers.timeout, hthreshold⟩
      exact ⟨_, none, t, hresult, iff_of_true rfl hnumbered, rfl, fun _ => ⟨hdatabase, hexports⟩, fun h => absurd rfl h⟩
    · obtain ⟨text, hexports⟩ := ExportParameters.fromEnvironment_eq_error hthreshold
      rw [reloaded_of_exports hdatabase hexports] at hresult hsilent
      refine ⟨_, _, t, hresult, iff_of_false nofun fun h => hthreshold h.threshold, rfl, nofun, fun h => ?_⟩
      exact ⟨rfl, hsilent h, absurd hnumbers, fun _ => hdatabase⟩
  · obtain ⟨text, hdatabase⟩ := DatabaseParameters.fromEnvironment_eq_error hnumbers
    rw [reloaded_of_database hdatabase] at hresult hsilent
    refine ⟨m, _, t, hresult, iff_of_false nofun fun h => hnumbers ⟨h.poolSize, h.timeout⟩, rfl, nofun, fun h => ?_⟩
    exact ⟨rfl, hsilent h, fun _ => rfl, fun hread => absurd hread hnumbers⟩

/-- Names another database, and a threshold that is no number. -/
def movedWithWordyThreshold : Environment :=
  Environment.set (Environment.set [] "TABLE_THRESHOLD" (some "many")) "DATABASE_URL" (some "sqlite:///new.db")

/-- A reload that fails on the threshold leaves the new database beside the old parameters of the export. -/
theorem reload_mixes_environments : ∃ (m m' : Manager) (f : Fault) (s : Session),
    (make (Environment.set [] "DATABASE_URL" (some "sqlite:///old.db")) {} none).result {} = (.ok m, s) ∧
    (m.reload movedWithWordyThreshold).result s = (.ok (m', some f), s) ∧
    m.database.url = .str "sqlite:///old.db" ∧ m'.database.url = .str "sqlite:///new.db" ∧ m'.exports = m.exports :=
  ⟨_, _, _, _, rfl, rfl, rfl, rfl, rfl⟩

/-! ## Making a manager anew -/

variable {files : FileTree} {base : Option String} {s t : Session}

theorem make_eq_ok_iff : (∃ t, (make e files base).result s = (.ok m, t)) ↔
    m.paths = ConfigPaths.fromEnvironment e (workingDirectory files) base ∧
      DatabaseParameters.fromEnvironment e = .ok m.database ∧ ExportParameters.fromEnvironment e = .ok m.exports := by
  constructor
  · rintro ⟨t, h⟩
    rw [make] at h
    obtain ⟨database, u, hdatabase, h⟩ := Run.bind_eq_ok_iff.1 h
    obtain ⟨exports, v, hexports, h⟩ := Run.bind_eq_ok_iff.1 h
    cases h
    exact ⟨rfl, (Run.lift_eq_ok_iff.1 hdatabase).1, (Run.lift_eq_ok_iff.1 hexports).1⟩
  · rintro ⟨hpaths, hdatabase, hexports⟩
    obtain ⟨paths, database, exports⟩ := m
    obtain rfl : paths = _ := hpaths
    rw [make, hdatabase, hexports]
    exact ⟨_, rfl⟩

theorem reloaded_eq_none_iff {m' : Manager} : m.reloaded e = (m', none) ↔ m'.paths = m.paths ∧
    DatabaseParameters.fromEnvironment e = .ok m'.database ∧ ExportParameters.fromEnvironment e = .ok m'.exports := by
  constructor
  · intro h
    unfold reloaded at h
    split at h
    · cases h
    · next database hdatabase =>
      split at h
      · cases h
      · next exports hexports =>
        cases h
        exact ⟨rfl, hdatabase, hexports⟩
  · rintro ⟨hpaths, hdatabase, hexports⟩
    rw [reloaded_of_ok hdatabase hexports, ← hpaths]

theorem paths_eq_of_agreesOnPaths {e' : Environment} (h : e.AgreesOnPaths e' base) (workingDirectory : Path) :
    ConfigPaths.fromEnvironment e workingDirectory base = ConfigPaths.fromEnvironment e' workingDirectory base := by
  simp only [ConfigPaths.fromEnvironment, h.entityModel]
  cases base with
  | none =>
    have hnone : ∀ b, (none : Option String) = some b → b = "" := by
      rintro b ⟨⟩
    rw [h.base hnone]
  | some b =>
    by_cases hempty : b = ""
    · rw [h.base fun c hc => (Option.some.inj hc).symm.trans hempty]
    · simp only [String.isEmpty_iff, hempty, if_false]

/-- A reload that succeeds leaves the database and the parameters of the export that a new manager of that environment has, and
where the variables of the paths are the same the whole manager. -/
theorem reload_matches_new {e' : Environment} {m' : Manager} {u v : Session}
    (hmade : (make e files base).result s = (.ok m, t)) (hreload : (m.reload e').result u = (.ok (m', none), v)) (w : Session) :
    ∃ new x, (make e' files base).result w = (.ok new, x) ∧ new.database = m'.database ∧ new.exports = m'.exports ∧
      (e.AgreesOnPaths e' base → new = m') := by
  obtain ⟨hpaths, -, -⟩ := make_eq_ok_iff.1 ⟨t, hmade⟩
  obtain ⟨v', hresult, -⟩ := exists_result_reload m e' u
  have hreloaded : m.reloaded e' = (m', none) := Except.ok.inj (Prod.mk.inj (hresult.symm.trans hreload)).1
  obtain ⟨hkept, hdatabase, hexports⟩ := reloaded_eq_none_iff.1 hreloaded
  obtain ⟨paths, database, exports⟩ := m'
  let new : Manager := ⟨ConfigPaths.fromEnvironment e' (workingDirectory files) base, database, exports⟩
  obtain ⟨x, hnew⟩ := (make_eq_ok_iff (m := new) (s := w)).2 ⟨rfl, hdatabase, hexports⟩
  refine ⟨new, x, hnew, rfl, rfl, fun hagree => ?_⟩
  have hsame : paths = ConfigPaths.fromEnvironment e' (workingDirectory files) base := by
    rw [← paths_eq_of_agreesOnPaths hagree, ← hpaths]
    exact hkept
  rw [hsame]

/-- Caps tables at ten rows. -/
def cappedAtTen : Environment := Environment.set [] "TABLE_THRESHOLD" (some "10")

theorem reload_matches_new_cap : ∃ (m m' : Manager) (s t : Session),
    (make [] {} (some "conf")).result {} = (.ok m, s) ∧ (m.reload cappedAtTen).result s = (.ok (m', none), t) ∧
    m'.exports.threshold = .int 10 ∧ ∃ x, (make cappedAtTen {} (some "conf")).result {} = (.ok m', x) := by
  obtain ⟨m, m', s, t, hmade, hreload, hcap⟩ : ∃ (m m' : Manager) (s t : Session),
      (make [] {} (some "conf")).result {} = (.ok m, s) ∧ (m.reload cappedAtTen).result s = (.ok (m', none), t) ∧
      m'.exports.threshold = .int 10 := ⟨_, _, _, _, rfl, rfl, rfl⟩
  have hagree : Environment.AgreesOnPaths [] cappedAtTen (some "conf") :=
    ⟨rfl, fun h => absurd (h _ rfl) (by decide)⟩
  obtain ⟨new, x, hnew, -, -, hsame⟩ := reload_matches_new hmade hreload {}
  exact ⟨m, m', s, t, hmade, hreload, hcap, x, hsame hagree ▸ hnew⟩

/-- Names another file of entity models. -/
def otherModelFile : Environment := Environment.set [] "ENTITY_MODEL_PATH" (some "other.json")

/-- A reload keeps the old file of entity models, where a new manager with the same base has the new one. -/
theorem reload_keeps_old_paths : ∃ (m m' new : Manager) (s t x : Session),
    (make [] {} (some "conf")).result {} = (.ok m, s) ∧ (m.reload otherModelFile).result s = (.ok (m', none), t) ∧
    (make otherModelFile {} (some "conf")).result t = (.ok new, x) ∧
    m'.paths.entityModel = "config/entity_model.json" ∧ new.paths.entityModel = "other.json" :=
  ⟨_, _, _, _, _, _, rfl, rfl, rfl, rfl, rfl⟩

end Manager
end TableDump
