import TableDump.CommandLine.Command
import TableDump.Proofs.Config.CheckedManager

/-! # Exit codes

How a command ends, by what it finds in its environment, on its command line and in the files.

* `exitOf`: an expected fault ends a command with exit code 1, another one leaves it (`exit_runOptions`).
* `Misconfigured`: what can be wrong with a configuration, in the order in which it is found out. What a YAML file holds, which
  engines can be made and what is behind them is left to the libraries of the world.
* `Configured`: a command up to the opening of its output file (`prepare_eq`). It gets there with a manager that is
  `MadeFor` it and with what was `Checked` (`ends_configure`).
* `Readable`: as far as it is read, numbers, URL and names of relation tables can be read, and the system looks at the paths.
  Where the faults behind the engine are those of the database layer, a readable configuration that is wrong always ends a
  command with exit code 1, and only an output file that cannot be opened lets a fault leave it (`exit_of_readable`). Variables
  that are no numbers always do (`exit_of_not_numbered`).
-/

namespace TableDump.CommandLine
open TableDump.Text
set_option autoImplicit false

/-! ## Ends of commands -/

theorem isExpected_iff {f : Fault} : isExpected f = true ↔ f.kind = .configuration ∨ f.kind = .connection := by
  rw [isExpected, Bool.or_eq_true, beq_iff_eq, beq_iff_eq]

/-- The exit code of what a command does, or the fault that leaves it. -/
def exitOf : Except Fault Nat → Except Fault Nat
  | .ok code => .ok code
  | .error f => if isExpected f then .ok 1 else .error f

theorem outcome_recover_failed (r : Run Nat) (s : Session) :
    ((Run.recover isExpected failed r).result s).1 = exitOf (r.result s).1 := by
  rw [Run.result_recover]
  rcases r.result s with ⟨f | code, t⟩
  · unfold exitOf
    simp only
    split
    · rfl
    · rfl
  · rfl

theorem exit_runOptions (w : World) (o : Options) :
    (runOptions w o).exit = exitOf ((prepare w o >>= exportPrepared o).result {}).1 := by
  unfold runOptions
  rw [Run.result_bind]
  rcases (prepare w o).result {} with ⟨f | p, s⟩
  · exact outcome_recover_failed _ s
  · exact outcome_recover_failed _ s

/-! ## Configurations -/

section
variable (w : World) (o : Options)

def basePath : Path := (ConfigPaths.fromEnvironment w.environment (Manager.workingDirectory w.files) o.configPath).base

def modelName : String := (given? o.entityModel).getD (w.environment.get "ENTITY_MODEL_PATH" "config/entity_model.json")

def modelPath : Path := (basePath w o).append (Path.read (modelName w o))

/-- The URL of the command line, or else of the environment. -/
def databaseUrl : Except Fault Json :=
  match given? o.databaseUrl with
  | some url => .ok (.str url)
  | none => (DatabaseParameters.fromEnvironment w.environment).map DatabaseParameters.url

/-- The engine for that URL. -/
def databaseEngine : Except Fault Engine := do
  let poolSize ← w.environment.whole "DB_POOL_SIZE" 5
  Engine.create w.libraries (.int poolSize) (← databaseUrl w o)

/-- The models that the entity model file holds when the output file is open. -/
def fileModels (place : Option (List String)) : Except Fault (List Entity) :=
  Manager.readModels w.libraries (filesAtStart w place) (modelPath w o) (modelName w o)

/-- What is wrong with a configuration. Database and entity model file are opened after the output file; the first connection
is that of the export. -/
inductive Misconfigured : Prop
  | number (h : ¬ w.environment.Numbered)
  | poolSize {n : Int} (h : w.environment.whole "DB_POOL_SIZE" 5 = .ok n) (hn : n ≤ 0)
  | domain (h : w.environment.get "DOMAIN" "Master" = "")
  | base (h : w.files.contains (basePath w o) ≠ .ok true)
  | url {f : Fault} (h : databaseEngine w o = .error f)
  | models {place : Option (List String)} (hplace : outputPlace w o = .ok place)
      (hthere : w.files.contains (modelPath w o) ≠ .ok false) (h : ¬ Indexable (fileModels w o place))
  | database {e : Engine} {place : Option (List String)} {f : Fault} (hengine : databaseEngine w o = .ok e)
      (hplace : outputPlace w o = .ok place) (h : (e.store (filesAtStart w place)).connect 1 = .error f)

/-- What validation looks at is right. -/
structure Valid : Prop where
  poolSize : ∀ n, w.environment.whole "DB_POOL_SIZE" 5 = .ok n → 0 < n
  domain : w.environment.get "DOMAIN" "Master" ≠ ""
  base : w.files.contains (basePath w o) = .ok true

/-- Whatever is read on the way gives no faults beside the expected ones: the variables of numbers hold numbers, the system looks
at the paths, a URL that cannot be read and one for which no engine can be made are arguments that cannot be used, or lack a
module, and the names of relation tables can be put in order. -/
structure Readable : Prop where
  numbers : w.environment.Numbered
  base : w.files.lookRefusal (basePath w o) = none
  url : Valid w o → ∀ url f, databaseUrl w o = .ok url → readUrl url = .error f → f.kind = .argument
  engine : Valid w o → ∀ url u n f, databaseUrl w o = .ok url → readUrl url = .ok u →
    w.environment.whole "DB_POOL_SIZE" 5 = .ok n → w.libraries.createEngine u (Engine.poolFor u (.int n)) = .error f →
    f.kind = .argument ∨ f.kind = .missingModule
  model : Valid w o → w.files.lookRefusal (modelPath w o) = none
  relations : Valid w o → ∀ place models, outputPlace w o = .ok place → w.files.contains (modelPath w o) = .ok true →
    fileModels w o place = .ok models → NamesTables models → NamesRelations models

end

/-! ## Checks -/

structure Configured where
  manager : Manager
  settings : Settings
  engine : Engine
  modelFile : Option String

/-- A command before it opens its output file. -/
def configure (w : World) (o : Options) : Run Configured := do
  let manager := withSchema o (← Manager.make w.environment w.files o.configPath)
  manager.validate w.files
  let settings ← Run.lift manager.settings
  let engine ← Run.lift (manager.engine w.libraries o.databaseUrl)
  let modelFile ← manager.modelFile? w.files o.entityModel
  return { manager, settings, engine, modelFile }

def Configured.prepared (w : World) (o : Options) (c : Configured) (place : Option (List String)) : Prepared :=
  let name := (given? o.domain).getD c.manager.exports.domain.toText
  let domain := c.manager.domain w.libraries (filesAtStart w place) c.engine c.modelFile
  let exporter : Exporter := { toMachine := w.toMachine, domains := [(name, domain)], settings := c.settings }
  { exporter, domain := name, place }

theorem prepare_eq (w : World) (o : Options) : prepare w o = do
    let c ← configure w o
    let place ← Run.lift (outputPlace w o)
    return c.prepared w o place := by
  unfold prepare configure
  simp only [bind_assoc, pure_bind]
  rfl

section
variable {w : World} {o : Options}

theorem exists_withSchema (o : Options) (m : Manager) :
    ∃ schema, withSchema o m = { m with database := { m.database with schema } } := by
  unfold withSchema
  cases given? o.schema with
  | none => exact ⟨m.database.schema, rfl⟩
  | some s => exact ⟨.str s, rfl⟩

theorem modelFile?_eq (m : Manager) (files : FileTree) (name : Option String) : m.modelFile? files name = do
    let chosen := (given? name).getD m.paths.entityModel
    if ← Run.lift (files.contains (m.modelPath chosen)) then return some chosen
    else
      Run.log .warning ("No entity model file at " ++ (m.modelPath chosen).text ++ ", exporting physical names")
      return none := by
  unfold Manager.modelFile?
  cases name with
  | none => rfl
  | some n =>
    simp only [given?, Option.bind_some]
    split <;> rfl

theorem ends_modelFile? {m : Manager} {files : FileTree} {name : Option String} {there : Bool}
    (hthere : files.contains (m.modelPath ((given? name).getD m.paths.entityModel)) = .ok there) {Q : Fault → Prop} :
    Run.Ends Q (fun file => file = if there = true then some ((given? name).getD m.paths.entityModel) else none)
      (m.modelFile? files name) := by
  rw [modelFile?_eq]
  simp only [hthere, Run.lift_ok_bind]
  split
  · exact Run.ends_pure rfl
  · exact (Run.ends_record _).bind fun _ _ => Run.ends_pure rfl

theorem exists_databaseUrl {m : Manager} {d : DatabaseParameters} (hd : DatabaseParameters.fromEnvironment w.environment = .ok d)
    (hm : m.database.url = d.url) : ∃ url, databaseUrl w o = .ok url ∧
      m.engine w.libraries o.databaseUrl = Engine.create w.libraries m.database.poolSize url := by
  unfold databaseUrl Manager.engine
  rw [hd, hm]
  cases o.databaseUrl with
  | none => exact ⟨d.url, rfl, rfl⟩
  | some url =>
    simp only [given?, Option.bind_some]
    by_cases hempty : url.isEmpty = true
    · simp only [if_pos hempty]
      exact ⟨d.url, rfl, rfl⟩
    · simp only [if_neg hempty]
      exact ⟨.str url, rfl, rfl⟩

/-- The manager of a command. -/
structure MadeFor (w : World) (o : Options) (m : Manager) : Prop where
  paths : m.paths = ConfigPaths.fromEnvironment w.environment (Manager.workingDirectory w.files) o.configPath
  exports : ExportParameters.fromEnvironment w.environment = .ok m.exports
  poolSize : ∃ n, w.environment.whole "DB_POOL_SIZE" 5 = .ok n ∧ m.database.poolSize = .int n
  hasUrl : m.database.url.truth = true
  url : ∃ url, databaseUrl w o = .ok url ∧
    m.engine w.libraries o.databaseUrl = Engine.create w.libraries m.database.poolSize url

theorem ends_manager (h : w.environment.Numbered) {Q : Fault → Prop} :
    Run.Ends Q (fun m => MadeFor w o (withSchema o m)) (Manager.make w.environment w.files o.configPath) := by
  obtain ⟨d, hd⟩ := DatabaseParameters.exists_fromEnvironment h.poolSize h.timeout
  obtain ⟨exports, hexports⟩ := ExportParameters.exists_fromEnvironment h.threshold
  obtain ⟨⟨n, hn, hpool⟩, htruth⟩ := DatabaseParameters.of_fromEnvironment hd
  refine (Manager.ends_make hd hexports o.configPath).mono (fun _ hf => hf) fun m hm => ?_
  obtain ⟨schema, hschema⟩ := exists_withSchema o m
  rw [hschema, hm]
  exact ⟨rfl, hexports, ⟨n, hn, hpool⟩, htruth, exists_databaseUrl hd rfl⟩

namespace MadeFor
variable {m : Manager}

theorem modelName_eq (h : MadeFor w o m) : (given? o.entityModel).getD m.paths.entityModel = modelName w o := by
  rw [h.paths]
  rfl

theorem modelPath_eq (h : MadeFor w o m) : m.modelPath (modelName w o) = modelPath w o := by
  rw [Manager.modelPath, h.paths]
  rfl

theorem ends_validate (h : MadeFor w o m) (hlooks : w.files.lookRefusal (basePath w o) = none) :
    Run.Ends (fun f => f.kind = .configuration ∧ Misconfigured w o) (fun _ => Valid w o) (m.validate w.files) := by
  obtain ⟨n, hn, hpool⟩ := h.poolSize
  obtain ⟨hdomain, -⟩ := ExportParameters.of_fromEnvironment h.exports
  have hcontains := FileTree.contains_eq hlooks
  generalize (w.files.find? (basePath w o)).isSome = there at hcontains
  have hbase : w.files.contains m.paths.base = .ok there := by rw [h.paths, ← hcontains, basePath]
  have hproblems : ∀ {poolEmpty}, m.problems there poolEmpty = [] ↔
      there = true ∧ w.environment.get "DOMAIN" "Master" ≠ "" ∧ poolEmpty = false := by
    intro poolEmpty
    rw [Manager.problems_eq_nil_iff, h.hasUrl, hdomain]
    simp [Json.truth]
  refine (Manager.ends_validate hbase (Manager.isPoolEmpty_int hpool)).mono (fun f hf => ⟨hf.1, ?_⟩) fun _ hsound => ?_
  · by_contra hwrong
    refine hf.2 (hproblems.2 ⟨?_, fun hempty => hwrong (.domain hempty), ?_⟩)
    · by_contra hmissing
      refine hwrong (.base fun hthere => hmissing ?_)
      exact Except.ok.inj (hcontains.symm.trans hthere)
    · by_contra hempty
      exact hwrong (.poolSize hn (by simpa using hempty))
  · obtain ⟨rfl, hnamed, hempty⟩ := hproblems.1 hsound
    refine ⟨fun n' hn' => ?_, hnamed, hcontains⟩
    cases hn.symm.trans hn'
    simpa using hempty

theorem engine_eq (h : MadeFor w o m) : m.engine w.libraries o.databaseUrl = databaseEngine w o := by
  obtain ⟨n, hn, hpool⟩ := h.poolSize
  obtain ⟨url, hurl, hengine⟩ := h.url
  rw [hengine, databaseEngine, hn, hurl, hpool]
  rfl

theorem ends_engine (h : MadeFor w o m) (hread : Readable w o) (hvalid : Valid w o) :
    Run.Ends (fun f => f.kind = .configuration ∧ Misconfigured w o) (fun e => databaseEngine w o = .ok e)
      (Run.lift (m.engine w.libraries o.databaseUrl)) := by
  obtain ⟨n, hn, hpool⟩ := h.poolSize
  obtain ⟨url, hurl, hcreate⟩ := h.url
  refine Run.ends_lift (fun f hf => ⟨?_, .url (h.engine_eq.symm.trans hf)⟩) fun e he => h.engine_eq.symm.trans he
  rw [hcreate, hpool] at hf
  exact Engine.kind_create (fun g hg => hread.url hvalid url g hurl hg)
    (fun u g hu hg => hread.engine hvalid url u n g hurl hu hn hg) hf

end MadeFor

/-- What is known of a command that opens its output file. -/
structure Checked (w : World) (o : Options) (c : Configured) : Prop where
  valid : Valid w o
  path : c.manager.modelPath (modelName w o) = modelPath w o
  accepted : c.settings.IsAccepted
  root : c.settings.NamesRoot
  texts : c.settings.ExcludesTexts
  engine : databaseEngine w o = .ok c.engine
  modelFile : c.modelFile = if (w.files.find? (modelPath w o)).isSome = true then some (modelName w o) else none

theorem ends_configure (h : Readable w o) :
    Run.Ends (fun f => f.kind = .configuration ∧ Misconfigured w o) (Checked w o) (configure w o) := by
  rw [configure]
  refine (ends_manager h.numbers).bind fun made hmade => ?_
  generalize withSchema o made = m at hmade
  refine (hmade.ends_validate h.base).bind fun _ hvalid => ?_
  obtain ⟨settings, hsettings, haccepted, hroot, htexts⟩ := Manager.exists_settings hmade.exports
  rw [hsettings, Run.lift_ok_bind]
  refine (hmade.ends_engine h hvalid).bind fun e he => ?_
  have hthere := FileTree.contains_eq (h.model hvalid)
  rw [← hmade.modelPath_eq, ← hmade.modelName_eq] at hthere
  refine (ends_modelFile? hthere).bind fun file hfile => Run.ends_pure ?_
  rw [hmade.modelName_eq, hmade.modelPath_eq] at hfile
  exact ⟨hvalid, hmade.modelPath_eq, haccepted, hroot, htexts, he, hfile⟩

/-- Nothing but records comes of it. -/
theorem confined_configure (w : World) (o : Options) : Run.Confined Event.IsRecord (configure w o) := by
  have hlog : ∀ level text, Run.Confined Event.IsRecord (Run.log level text) := fun _ _ => Run.confined_log ⟨_, rfl⟩
  have hmake : Run.Confined Event.IsRecord (Manager.make w.environment w.files o.configPath) := by
    refine (Run.confined_lift _).bind fun _ => (Run.confined_lift _).bind fun _ => ?_
    exact (hlog _ _).bind fun _ => Run.confined_pure _
  have hvalidate : ∀ m : Manager, Run.Confined Event.IsRecord (m.validate w.files) := by
    refine fun m => (Run.confined_lift _).bind fun _ => (Run.confined_lift _).bind fun _ => ?_
    simp only
    split
    · exact hlog _ _
    · exact Run.confined_throw _
  have hfile : ∀ m : Manager, Run.Confined Event.IsRecord (m.modelFile? w.files o.entityModel) := by
    intro m
    rw [modelFile?_eq]
    refine (Run.confined_lift _).bind fun there => ?_
    split
    · exact Run.confined_pure _
    · exact (hlog _ _).bind fun _ => Run.confined_pure _
  rw [configure]
  refine hmake.bind fun _ => (hvalidate _).bind fun _ => (Run.confined_lift _).bind fun _ => ?_
  exact (Run.confined_lift _).bind fun _ => (hfile _).bind fun _ => Run.confined_pure _

/-! ## Exports -/

theorem ends_logReport (r : Report) {Q : Fault → Prop} : Run.Ends Q (fun _ => True) (logReport r) := by
  refine (Run.ends_record _).bind fun _ _ => ?_
  exact (Run.ends_forIn fun error _ => Run.ends_record _).bind fun _ _ => Run.ends_pure trivial

variable {c : Configured} {place : Option (List String)}

theorem domain_prepared (w : World) (o : Options) (c : Configured) (place : Option (List String)) :
    (c.prepared w o place).exporter.domain (c.prepared w o place).domain =
      .ok (c.manager.domain w.libraries (filesAtStart w place) c.engine c.modelFile) := by
  unfold Exporter.domain Configured.prepared
  simp only [List.lookup_cons_self]

theorem lookRefusal_filesAtStart (w : World) (place : Option (List String)) :
    (filesAtStart w place).lookRefusal = w.files.lookRefusal := by
  cases place <;> rfl

theorem ends_loadDomain (h : Readable w o) (hc : Checked w o c) (hplace : outputPlace w o = .ok place) (name : String) :
    Run.Ends (fun f => f.kind = .configuration ∧ Misconfigured w o)
      (fun _ => w.files.contains (modelPath w o) ≠ .ok false → Indexable (fileModels w o place))
      ((c.manager.domain w.libraries (filesAtStart w place) c.engine c.modelFile).loadEntities name) := by
  have hfile := hc.modelFile
  have hcontains := FileTree.contains_eq (h.model hc.valid)
  split at hfile
  · next hthere =>
    rw [hthere] at hcontains
    have hmodels : (c.manager.domain w.libraries (filesAtStart w place) c.engine c.modelFile).models =
        some (c.manager.loadEntities w.libraries (filesAtStart w place) (some (modelName w o))) := by
      rw [Manager.domain, hfile]
      rfl
    have hlooks : (filesAtStart w place).lookRefusal (c.manager.modelPath (modelName w o)) = none := by
      rw [lookRefusal_filesAtStart, hc.path, h.model hc.valid]
    have hload := Manager.ends_loadEntities w.libraries hlooks
    rw [hc.path] at hload
    have hrelations := fun models => h.relations hc.valid place models hplace hcontains
    refine (Domain.ends_loadEntities hmodels hload hrelations name).mono ?_ ?_
    · exact fun f hf => ⟨hf.1, .models hplace (by rw [hcontains]; nofun) hf.2⟩
    · exact fun _ hindexable _ => hindexable
  · next hmissing =>
    rw [Bool.not_eq_true] at hmissing
    rw [hmissing] at hcontains
    have hmodels : (c.manager.domain w.libraries (filesAtStart w place) c.engine c.modelFile).models = none := by
      rw [Manager.domain, hfile]
      rfl
    exact (Domain.ends_loadEntities_of_none hmodels name).mono (fun _ hf => hf) fun _ _ hthere => absurd hcontains hthere

/-- What is known of a command that has opened its output file and its database. -/
structure Opened (w : World) (o : Options) (c : Configured) (place : Option (List String)) : Prop where
  models : w.files.contains (modelPath w o) ≠ .ok false → Indexable (fileModels w o place)
  database : (c.engine.store (filesAtStart w place)).connect 1 = .ok ()

theorem endsAt_serve (h : Readable w o) (hc : Checked w o c) (hwraps : c.engine.WrapsFaults)
    (hplace : outputPlace w o = .ok place) (threshold : Option Json) : Run.EndsAt 0 (fun f => isExpected f = true ∧ Misconfigured w o) (fun _ => Opened w o c place)
      ((c.prepared w o place).exporter.serve { domain := (c.prepared w o place).domain, threshold }) := by
  rw [Exporter.serve, if_pos rfl, Exporter.exportDomain_eq (domain_prepared w o c place)]
  have hconfined : Run.Confined Event.IsRecord
      ((c.manager.domain w.libraries (filesAtStart w place) c.engine c.modelFile).loadEntities (c.prepared w o place).domain) :=
    Domain.confined_loadEntities (c.manager.confined_models w.libraries _ c.engine c.modelFile) _
  refine Run.Ends.bindAt (G := fun _ => w.files.contains (modelPath w o) ≠ .ok false → Indexable (fileModels w o place))
    ?_ hconfined fun loading hloaded => ?_
  · refine (ends_loadDomain h hc hplace _).mono (fun f hf => ?_) fun _ hindexable => hindexable
    exact ⟨isExpected_iff.2 (.inl hf.1), hf.2⟩
  · refine (Exporter.endsAt_exportLoaded hc.accepted hc.root hc.texts (hwraps.catalog _) (hwraps.connect _ 1)
      (hwraps.close _) _).mono ?_ fun report hopens => ⟨hloaded, hopens⟩
    rintro f ⟨hkind, g, hg⟩
    exact ⟨isExpected_iff.2 (.inr hkind), .database hc.engine hplace hg⟩

theorem endsAt_exportPrepared (h : Readable w o) (hc : Checked w o c) (hwraps : c.engine.WrapsFaults)
    (hplace : outputPlace w o = .ok place) : Run.EndsAt 0 (fun f => isExpected f = true ∧ Misconfigured w o)
      (fun code => code = 0 ∧ Opened w o c place) (exportPrepared o (c.prepared w o place)) := by
  rw [exportPrepared]
  refine (endsAt_serve h hc hwraps hplace _).bind fun report hopened => ?_
  exact (ends_logReport report).bind fun _ _ => Run.ends_pure ⟨rfl, hopened⟩

/-! ## Whole commands -/

/-- A configuration that passed every check is not wrong. -/
theorem not_misconfigured (h : Readable w o) (hc : Checked w o c)
    (hopened : ∀ place, outputPlace w o = .ok place → Opened w o c place) : ¬ Misconfigured w o := by
  intro hwrong
  cases hwrong with
  | number hnumber => exact hnumber h.numbers
  | poolSize hn hle => exact absurd (hc.valid.poolSize _ hn) (Int.not_lt.2 hle)
  | domain hempty => exact hc.valid.domain hempty
  | base hmissing => exact hmissing hc.valid.base
  | url hfault => cases hc.engine.symm.trans hfault
  | models hplace hthere hunusable => exact hunusable ((hopened _ hplace).models hthere)
  | database hmade hplace hfault =>
    cases hc.engine.symm.trans hmade
    cases (hopened _ hplace).database.symm.trans hfault

/-- How a command ends up to its last step: in an expected fault where the configuration is wrong, and elsewhere as its output
file can be opened. -/
theorem endsAt_command (h : Readable w o) (hwraps : ∀ e, databaseEngine w o = .ok e → e.WrapsFaults) : Run.EndsAt 0
    (fun f => isExpected f = true ∧ Misconfigured w o ∨ outputPlace w o = .error f ∧ ¬ Misconfigured w o)
    (fun code => code = 0 ∧ (∃ place, outputPlace w o = .ok place) ∧ ¬ Misconfigured w o) (prepare w o >>= exportPrepared o) := by
  rw [prepare_eq, bind_assoc]
  have hconfigured := (ends_configure h).mono (R := fun f => isExpected f = true ∧ Misconfigured w o ∨
    outputPlace w o = .error f ∧ ¬ Misconfigured w o) (fun f hf => .inl ⟨isExpected_iff.2 (.inl hf.1), hf.2⟩) fun _ hc => hc
  refine hconfigured.bindAt (confined_configure w o) fun c hc => ?_
  rw [bind_assoc]
  cases hplace : outputPlace w o with
  | error f =>
    refine (Run.ends_throw (.inr ⟨rfl, not_misconfigured h hc fun place hopen => ?_⟩)).endsAt 0
    cases hplace.symm.trans hopen
  | ok place =>
    rw [Run.lift_ok_bind, pure_bind]
    refine (endsAt_exportPrepared h hc (hwraps _ hc.engine) hplace).mono (fun f hf => .inl hf) fun code hcode => ?_
    refine ⟨hcode.1, ⟨place, rfl⟩, not_misconfigured h hc fun place' hplace' => ?_⟩
    cases hplace.symm.trans hplace'
    exact hcode.2

theorem isExpected_of_outputPlace {f : Fault} (h : outputPlace w o = .error f) : isExpected f = false := by
  unfold outputPlace at h
  split at h
  · have h := outcome_map_eq_error_iff.1 h
    unfold FileTree.checkWritable at h
    split at h
    · cases h
      rfl
    · split at h
      · cases h
        split <;> rfl
      · split at h
        · cases h
          rfl
        · cases h
  · cases h

theorem exit_of_readable {arguments : List String} (hread : readOptions arguments = .ok o) (h : Readable w o)
    (hwraps : ∀ e, databaseEngine w o = .ok e → e.WrapsFaults) :
    (Misconfigured w o → (runCommand w arguments).exit = .ok 1) ∧
      (¬ Misconfigured w o → (runCommand w arguments).exit = (outputPlace w o).map fun _ => 0) := by
  have hexit : (runCommand w arguments).exit = exitOf ((prepare w o >>= exportPrepared o).result {}).1 := by
    rw [runCommand, hread]
    exact exit_runOptions w o
  rw [hexit]
  rcases hresult : (prepare w o >>= exportPrepared o).result {} with ⟨f | code, t⟩
  · rcases (endsAt_command h hwraps).fault rfl hresult with ⟨hexpected, hwrong⟩ | ⟨hplace, hright⟩
    · refine ⟨fun _ => ?_, fun hright => absurd hwrong hright⟩
      rw [exitOf, if_pos hexpected]
    · refine ⟨fun hwrong => absurd hwrong hright, fun _ => ?_⟩
      rw [exitOf, isExpected_of_outputPlace hplace, hplace]
      rfl
  · obtain ⟨rfl, ⟨place, hplace⟩, hright⟩ := (endsAt_command h hwraps).value rfl hresult
    refine ⟨fun hwrong => absurd hwrong hright, fun _ => ?_⟩
    rw [hplace]
    rfl

/-- Libraries of a working directory whose entity models are the number five. -/
def fiveLibraries : Libraries where
  readYaml s := if s = "entities: 5" then some (.obj [("entities", .int 5)]) else none
  createEngine := DescribedFiles.createEngine

def brokenModels : World where
  environment := [("CONTENT_EXPORTER_DATABASE_URL", "sqlite://"), ("CONTENT_EXPORTER_ENTITY_MODEL_PATH", "models.yaml")]
  files := { workingDirectory := ["app"], files := [(["app", "models.yaml"], utf8 "entities: 5")] }
  libraries := fiveLibraries

theorem fileModels_brokenModels : fileModels brokenModels {} none =
    .error (.unparsableModels "models.yaml" (.notIterable .integer)) := by
  have hlook : (filesAtStart brokenModels none).look (modelPath brokenModels {}) = .ok (some (.file (utf8 "entities: 5"))) := by
    rfl
  have hread : Manager.readModelFile fiveLibraries (filesAtStart brokenModels none) (modelPath brokenModels {})
      (.file (utf8 "entities: 5")) = .ok (.obj [("entities", .int 5)]) := by
    rfl
  rw [fileModels, Manager.readModels, hlook]
  change (Manager.readModelFile fiveLibraries (filesAtStart brokenModels none) (modelPath brokenModels {})
    (.file (utf8 "entities: 5")) >>= Manager.entitiesOf (modelName brokenModels {})) = _
  rw [hread]
  rfl

theorem exit_of_readable_brokenModels : readOptions [] = .ok {} ∧ Readable brokenModels {} ∧
    (∀ e, databaseEngine brokenModels {} = .ok e → e.WrapsFaults) ∧ Misconfigured brokenModels {} ∧
    (runCommand brokenModels []).exit = .ok 1 := by
  have hengine : databaseEngine brokenModels {} = DescribedFiles.createEngine { driver := "sqlite" } none := rfl
  have hwraps : ∀ e, databaseEngine brokenModels {} = .ok e → e.WrapsFaults := fun e he =>
    DescribedFiles.wrapsFaults_of_createEngine (hengine.symm.trans he)
  have hreadable : Readable brokenModels {} := by
    refine ⟨⟨nofun, nofun, nofun⟩, rfl, ?_, ?_, fun _ => rfl, ?_⟩
    · rintro - _ f ⟨⟩ hfault
      cases hfault
    · rintro - _ u n f ⟨⟩ ⟨⟩ - hfault
      cases hfault
    · rintro - _ models ⟨⟩ - hmodels
      cases fileModels_brokenModels.symm.trans hmodels
  have hwrong : Misconfigured brokenModels {} := by
    have hplace : outputPlace brokenModels {} = .ok none := rfl
    refine .models hplace (fun hmissing => ?_) ?_
    · have hthere : brokenModels.files.contains (modelPath brokenModels {}) = .ok true := rfl
      cases hthere.symm.trans hmissing
    · rintro ⟨models, hmodels, -⟩
      cases fileModels_brokenModels.symm.trans hmodels
  exact ⟨rfl, hreadable, hwraps, hwrong, (exit_of_readable rfl hreadable hwraps).1 hwrong⟩

theorem exit_of_not_numbered (h : ¬ w.environment.Numbered) : ∃ text, (runOptions w o).exit = .error (.invalidWhole text) := by
  obtain ⟨text, htext⟩ := Manager.make_refuses_text h w.files o.configPath {}
  refine ⟨text, ?_⟩
  rw [exit_runOptions, prepare, bind_assoc, Run.result_bind, htext]
  rfl

/-- A pool size that is a word. -/
def wordyPool : World where
  environment := [("CONTENT_EXPORTER_DB_POOL_SIZE", "many")]
  libraries := DescribedFiles.libraries

/-- A database URL whose port is a word. -/
def wordyPort : World where
  environment := [("CONTENT_EXPORTER_DATABASE_URL", "postgresql://host:port/shop")]
  libraries := DescribedFiles.libraries

/-- A base directory that the system does not look at. -/
def closedBase : World where
  environment := [("CONTENT_EXPORTER_CONFIG_PATH", "closed/base")]
  files := {
    lookRefusal := fun p =>
      if p.parts.head? = some "closed" then some "[Errno 13] Permission denied: 'closed/base'" else none }
  libraries := DescribedFiles.libraries

/-- Numbers are read before anything watches over the configuration, and neither faults of ports nor those of the system are
among the faults that are watched for. -/
theorem faults_leave_commands : readOptions [] = .ok {} ∧
    Misconfigured wordyPool {} ∧ (runCommand wordyPool []).exit = .error (.invalidWhole "many") ∧
    Misconfigured wordyPort {} ∧ (runCommand wordyPort []).exit = .error (.invalidWhole "port") ∧
    Misconfigured closedBase {} ∧
    (runCommand closedBase []).exit = .error (.reported .system "[Errno 13] Permission denied: 'closed/base'") := by
  have hpool : ¬ wordyPool.environment.Numbered := by
    intro hnumbers
    exact absurd (hnumbers.poolSize "many" rfl) (by decide +kernel)
  have hport : databaseEngine wordyPort {} = .error (.invalidWhole "port") := rfl
  have hbase : closedBase.files.contains (basePath closedBase {}) =
      .error (.reported .system "[Errno 13] Permission denied: 'closed/base'") := rfl
  have hmissing : closedBase.files.contains (basePath closedBase {}) ≠ .ok true := by
    rw [hbase]
    nofun
  exact ⟨rfl, .number hpool, rfl, .url hport, rfl, .base hmissing, rfl⟩

end

end TableDump.CommandLine
