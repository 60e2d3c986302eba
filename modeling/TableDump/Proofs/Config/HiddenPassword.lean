import TableDump.Config.Manager
import TableDump.Proofs.Config.OdbcUrl

/-! # Summaries and passwords

What a summary of a configuration tells of the password of the database.

* `Environment.AgreesExcept`: environments that may differ in one variable. What is read of other variables
  is the same.
* `DatabaseUrl.read_withPassword`: the password of a URL decides nothing of its other parts, and rendering
  shows only that there is one.
* `Environment.DifferInPassword`: environments that differ in a password, which stands in a variable of its
  own or in the URL.
* A summary does not tell two such environments apart, unless the password was put into a connection
  string (`summary_hides_password`); there it is shown (`summary_shows_password`).
-/

namespace TableDump
open TableDump.Text
set_option autoImplicit false

/-! ## Environments that differ in one variable -/

namespace Environment

def AgreesExcept (name : String) (e e' : Environment) : Prop := ∀ other, other ≠ name → e.get? other = e'.get? other

namespace AgreesExcept
variable {name : String} {e e' : Environment} (h : AgreesExcept name e e') (other : String) (hother : other ≠ name)
include h hother

theorem get_eq (default : String) : e.get other default = e'.get other default := by rw [get, get, h other hother]

theorem nonEmpty?_eq : e.nonEmpty? other = e'.nonEmpty? other := by rw [nonEmpty?, nonEmpty?, h other hother]

theorem whole_eq (default : Int) : e.whole other default = e'.whole other default := by
  rw [whole, whole, h other hother]

theorem flag_eq (default : Bool) : e.flag other default = e'.flag other default := by rw [flag, flag, h other hother]

end AgreesExcept

theorem agreesExcept_set (e : Environment) (name : String) (value value' : Option String) :
    AgreesExcept name (e.set name value) (e.set name value') := by
  intro other hother
  have hkey : environmentPrefix ++ other ≠ environmentPrefix ++ name := by
    rwa [Ne, String.append_right_inj]
  have hothers : (e.filter fun entry => entry.1 != environmentPrefix ++ name).lookup (environmentPrefix ++ other) =
      e.lookup (environmentPrefix ++ other) := by
    induction e with
    | nil => rfl
    | cons entry rest ih =>
      obtain ⟨key, v⟩ := entry
      by_cases hentry : key = environmentPrefix ++ name
      · rw [List.filter_cons_of_neg (by simp [hentry]), ih, hentry, List.lookup_cons, beq_false_of_ne hkey]
      · rw [List.filter_cons_of_pos (by simpa using hentry), List.lookup_cons, List.lookup_cons, ih]
  have hlookup : ∀ v, (e.set name v).get? other = e.get? other := by
    intro v
    cases v with
    | none => exact hothers
    | some v => rw [get?, set, List.lookup_cons, beq_false_of_ne hkey, hothers, get?]
  rw [hlookup, hlookup]

end Environment

/-! ## URLs with a password -/

namespace DatabaseUrl

/-- A URL with a user and a password, before whatever else it tells. -/
def withPassword (driver user password rest : String) : String :=
  driver ++ "://" ++ user ++ ":" ++ password ++ "@" ++ rest

theorem splitUser_append {user password : List Char} (huser : ∀ c ∈ user, c ∉ [':', '/'])
    (hpassword : ∀ c ∈ password, c ∉ ['@'])
    (rest : List Char) :
    splitUser (user ++ ':' :: (password ++ '@' :: rest)) = (some user, some password, rest) := by
  have hname := spanUntil_append huser ':' (by decide) (password ++ '@' :: rest)
  have hsecret := spanUntil_append hpassword '@' (by decide) rest
  rw [splitUser, hname]
  simp only
  rw [hsecret]

/-- The password of a URL decides nothing but itself. -/
theorem read_withPassword {driver user : String} (hne : driver ≠ "") (hdriver : ∀ c ∈ driver.toList, isDriverChar c = true)
    (huser : ∀ c ∈ user.toList, c ∉ [':', '/']) (rest : String) :
    ∃ parts : Except Fault DatabaseUrl, ∀ password : String, '@' ∉ password.toList →
      read (withPassword driver user password rest) =
        parts.map fun u => { u with password := some (percentDecode password) } := by
  refine ⟨(read (withPassword driver user "" rest)), fun password hpassword => ?_⟩
  have hparts : ∀ secret : String, '@' ∉ secret.toList →
      splitDriver (withPassword driver user secret rest).toList =
          some (driver, user.toList ++ ':' :: (secret.toList ++ '@' :: rest.toList)) ∧
        splitUser (user.toList ++ ':' :: (secret.toList ++ '@' :: rest.toList)) =
          (some user.toList, some secret.toList, rest.toList) := by
    intro secret hsecret
    refine ⟨?_, splitUser_append huser (fun c hc hat => hsecret ?_) _⟩
    rotate_left
    · rwa [← List.mem_singleton.1 hat]
    have htext : (withPassword driver user secret rest).toList =
        driver.toList ++ ':' :: '/' :: '/' :: (user.toList ++ ':' :: (secret.toList ++ '@' :: rest.toList)) := by
      simp [withPassword]
    rw [htext, splitDriver_append (by simpa using hne) hdriver, String.ofList_toList]
  obtain ⟨hsplit, hsplitUser⟩ := hparts password hpassword
  obtain ⟨hsplit', hsplitUser'⟩ := hparts "" (by simp)
  rw [read, read, hsplit, hsplit']
  simp only
  rw [hsplitUser, hsplitUser']
  simp only
  cases readPort (splitMarked ':' ['/', '?'] (splitHost rest.toList).2).1 with
  | error f => rfl
  | ok port => simp [decoded, Except.map, bind, Except.bind, pure, Except.pure]

theorem render_password (u : DatabaseUrl) (password password' : String) :
    { u with password := some password }.render = { u with password := some password' }.render := rfl

end DatabaseUrl

/-! ## Connection strings with a password -/

namespace ConnectionParts

/-- Where a login by name is asked for, the password stands in the connection string as it is. -/
theorem connectionString_render {p : ConnectionParts} (h : p.trusted = false) :
    ∃ before after : String, ∀ password,
      { p with password }.connectionString.render = before ++ (password ++ after) := by
  refine ⟨ConnectionString.render [("DRIVER", ConnectionString.braced p.driver), ("SERVER", p.server),
      ("DATABASE", p.database), ("UID", p.user)] ++ ("PWD" ++ "="),
    ";" ++ ConnectionString.render [("Connection Timeout", toString p.timeout), ("Application Name", "XML Content Exporter"),
      ("TrustServerCertificate", "yes")], fun password => ?_⟩
  simp only [connectionString, login, h, Bool.false_eq_true, if_false, ConnectionString.render, List.map_append, List.map_cons,
    List.map_nil, String.join_append, String.join_cons, String.join_nil, String.append_empty, String.append_assoc]

theorem connectionString_ne_empty (p : ConnectionParts) : p.connectionString.render ≠ "" := by
  intro hempty
  have hchars := congrArg String.toList hempty
  simp only [connectionString, ConnectionString.render, List.map_append, List.map_cons, List.cons_append, String.join_cons,
    String.toList_append, String.toList_empty, List.append_eq_nil_iff] at hchars
  exact absurd hchars.1.1.1.1 (by decide)

end ConnectionParts

/-! ## Environments that differ in a password -/

namespace Environment

/-- The password stands in a variable of its own, or behind the user in the URL of the database. -/
inductive DifferInPassword (e e' : Environment) : Prop
  | inVariable (h : AgreesExcept "DB_PASSWORD" e e')
  | inUrl (driver user rest password password' : String) (h : AgreesExcept "DATABASE_URL" e e')
    (hne : driver ≠ "") (hdriver : ∀ c ∈ driver.toList, DatabaseUrl.isDriverChar c = true)
    (huser : ∀ c ∈ user.toList, c ∉ [':', '/']) (hpassword : '@' ∉ password.toList) (hpassword' : '@' ∉ password'.toList)
    (hurl : e.get? "DATABASE_URL" = some (DatabaseUrl.withPassword driver user password rest))
    (hurl' : e'.get? "DATABASE_URL" = some (DatabaseUrl.withPassword driver user password' rest))

/-- The password is put into a connection string: there is no URL, and a login by name is asked for. -/
def PutsPassword (e : Environment) : Prop :=
  e.nonEmpty? "DATABASE_URL" = none ∧ e.flag "DB_TRUSTED_CONNECTION" true = false

instance (e : Environment) : Decidable e.PutsPassword := inferInstanceAs (Decidable (_ ∧ _))

variable {e e' : Environment}

namespace AgreesExcept
variable {name : String} (h : AgreesExcept name e e')
include h

theorem paths_eq (hbase : "CONFIG_PATH" ≠ name) (hmodel : "ENTITY_MODEL_PATH" ≠ name) (workingDirectory : Path)
    (base : Option String) :
    ConfigPaths.fromEnvironment e workingDirectory base = ConfigPaths.fromEnvironment e' workingDirectory base := by
  simp only [ConfigPaths.fromEnvironment, h _ hbase, h.get_eq _ hmodel]

theorem exports_eq (hname : name ∉ ["DOMAIN", "TABLE_THRESHOLD", "EXCLUDED_PREFIXES", "HIERARCHY_TABLE", "HIERARCHY_ROOT"]) :
    ExportParameters.fromEnvironment e = ExportParameters.fromEnvironment e' := by
  simp only [List.mem_cons, List.not_mem_nil, or_false, not_or] at hname
  obtain ⟨hdomain, hthreshold, hprefixes, htable, hroot⟩ := hname
  simp only [ExportParameters.fromEnvironment, ExportParameters.excludedFrom, h _ (Ne.symm hprefixes),
    h.get_eq _ (Ne.symm hdomain), h.whole_eq _ (Ne.symm hthreshold), h.get_eq _ (Ne.symm htable), h.get_eq _ (Ne.symm hroot)]

end AgreesExcept

theorem AgreesExcept.parts_eq (h : AgreesExcept "DB_PASSWORD" e e') :
    ConnectionParts.fromEnvironment e' =
      (ConnectionParts.fromEnvironment e).map fun p => { p with password := e'.get "DB_PASSWORD" "" } := by
  simp only [ConnectionParts.fromEnvironment, h.get_eq "DB_DRIVER" (by decide),
    h.get_eq "DB_SERVER" (by decide), h.get_eq "DB_DATABASE" (by decide),
    h.flag_eq "DB_TRUSTED_CONNECTION" (by decide), h.get_eq "DB_USERNAME" (by decide),
    h.whole_eq "DB_CONNECTION_TIMEOUT" (by decide)]
  cases e'.whole "DB_CONNECTION_TIMEOUT" 30 <;> rfl

theorem login_of_parts {p : ConnectionParts} (h : ConnectionParts.fromEnvironment e = .ok p) :
    p.trusted = e.flag "DB_TRUSTED_CONNECTION" true ∧ p.password = e.get "DB_PASSWORD" "" := by
  rw [ConnectionParts.fromEnvironment] at h
  cases htimeout : e.whole "DB_CONNECTION_TIMEOUT" 30 with
  | error f =>
    rw [htimeout] at h
    cases h
  | ok timeout =>
    rw [htimeout] at h
    cases h
    exact ⟨rfl, rfl⟩

/-- A trusted connection needs no password. -/
theorem connectionString_password {p : ConnectionParts} (h : p.trusted = true) (password : String) :
    { p with password }.connectionString = p.connectionString := by
  simp only [ConnectionParts.connectionString, ConnectionParts.login, h, if_true]

/-- What a database is made of when there is no URL. -/
def ofParts (schema : Option String) (poolSize : Int) (p : ConnectionParts) : DatabaseParameters where
  url := .str (odbcUrl p.connectionString.render)
  driver := .str p.driver
  server := .str p.server
  database := .str p.database
  trusted := .bool p.trusted
  timeout := .int p.timeout
  schema := DatabaseParameters.ofText? schema
  poolSize := .int poolSize

theorem database_of_parts (hurl : e.nonEmpty? "DATABASE_URL" = none) :
    DatabaseParameters.fromEnvironment e = (e.whole "DB_POOL_SIZE" 5).bind fun poolSize =>
      (ConnectionParts.fromEnvironment e).map (ofParts (e.nonEmpty? "DB_SCHEMA") poolSize) := by
  simp only [DatabaseParameters.fromEnvironment, hurl]
  cases e.whole "DB_POOL_SIZE" 5 with
  | error f => rfl
  | ok poolSize => cases ConnectionParts.fromEnvironment e <;> rfl

/-- A password in a variable of its own decides nothing of the database unless it is put into a connection
string. -/
theorem database_eq (h : AgreesExcept "DB_PASSWORD" e e') (hputs : ¬ e.PutsPassword) :
    DatabaseParameters.fromEnvironment e = DatabaseParameters.fromEnvironment e' := by
  have hschema := h.nonEmpty?_eq "DB_SCHEMA" (by decide)
  have hpool := h.whole_eq "DB_POOL_SIZE" (by decide) 5
  have hurl := h.nonEmpty?_eq "DATABASE_URL" (by decide)
  cases hgiven : e.nonEmpty? "DATABASE_URL" with
  | some url => simp only [DatabaseParameters.fromEnvironment, hschema, hpool, ← hurl, hgiven]
  | none =>
    have htrusted : e.flag "DB_TRUSTED_CONNECTION" true = true := by
      rw [PutsPassword, not_and] at hputs
      simpa using hputs hgiven
    rw [database_of_parts hgiven, database_of_parts (hurl ▸ hgiven), h.parts_eq, hpool, hschema]
    congr 1
    funext poolSize
    cases hparts : ConnectionParts.fromEnvironment e with
    | error f => rfl
    | ok p =>
      have hsame := connectionString_password ((login_of_parts hparts).1.trans htrusted) (e'.get "DB_PASSWORD" "")
      simp only [Except.map, ofParts, hsame]

theorem database_of_url {url : String} (hurl : e.get? "DATABASE_URL" = some url) (hne : url ≠ "") :
    DatabaseParameters.fromEnvironment e = (e.whole "DB_POOL_SIZE" 5).map fun poolSize =>
      { url := .str url, schema := DatabaseParameters.ofText? (e.nonEmpty? "DB_SCHEMA"), poolSize := .int poolSize } := by
  have hgiven : e.nonEmpty? "DATABASE_URL" = some url := by simp [nonEmpty?, hurl, hne]
  simp only [DatabaseParameters.fromEnvironment, hgiven]
  cases e.whole "DB_POOL_SIZE" 5 <;> rfl

end Environment

/-! ## Summaries -/

namespace Manager

/-- The summary of a manager made in an environment. -/
def summaryIn (e : Environment) (files : FileTree) (base : Option String) : Run Json := do
  let m ← make e files base
  Run.lift m.summary

theorem summaryIn_eq (e : Environment) (files : FileTree) (base : Option String) :
    summaryIn e files base = (do
      let paths := ConfigPaths.fromEnvironment e (workingDirectory files) base
      let database ← Run.lift (DatabaseParameters.fromEnvironment e)
      let exports ← Run.lift (ExportParameters.fromEnvironment e)
      Run.log .info ("ConfigManager initialized with base path: " ++ paths.base.text)
      Run.lift (summary ⟨paths, database, exports⟩)) := by
  simp only [summaryIn, make, bind_assoc, pure_bind]

/-- Connects to a database with a URL that names a user. -/
def hostWith (password : String) : Environment :=
  Environment.set [] "DATABASE_URL" (some (DatabaseUrl.withPassword "postgresql" "syncope" password "dbhost/syncope"))

theorem summary_url (paths : ConfigPaths) (d : DatabaseParameters) (exports : ExportParameters) {url url' : String}
    (hsame : (DatabaseUrl.read url).map DatabaseUrl.render = (DatabaseUrl.read url').map DatabaseUrl.render) :
    summary ⟨paths, { d with url := .str url }, exports⟩ = summary ⟨paths, { d with url := .str url' }, exports⟩ := by
  simp only [summary, readUrl]
  cases hread : DatabaseUrl.read url with
  | error f =>
    cases hread' : DatabaseUrl.read url' with
    | error f' =>
      rw [hread, hread'] at hsame
      cases hsame
      rfl
    | ok u' =>
      rw [hread, hread'] at hsame
      cases hsame
  | ok u =>
    cases hread' : DatabaseUrl.read url' with
    | error f' =>
      rw [hread, hread'] at hsame
      cases hsame
    | ok u' =>
      rw [hread, hread'] at hsame
      have hrender : u.render = u'.render := Except.ok.inj hsame
      simp only [bind, Except.bind, hrender]

open Environment in
/-- Environments that differ in a password have the same summary, unless the password is put into a
connection string. -/
theorem summary_hides_password {e e' : Environment} (h : e.DifferInPassword e') (hputs : ¬ e.PutsPassword)
    (files : FileTree) (base : Option String) : summaryIn e files base = summaryIn e' files base := by
  cases h with
  | inVariable h =>
    simp only [summaryIn_eq, h.paths_eq (by decide) (by decide), database_eq h hputs, h.exports_eq (by decide)]
  | inUrl driver user rest password password' h hne hdriver huser hpassword hpassword' hurl hurl' =>
    obtain ⟨parts, hread⟩ := DatabaseUrl.read_withPassword hne hdriver huser rest
    have hrender : (DatabaseUrl.read (DatabaseUrl.withPassword driver user password rest)).map DatabaseUrl.render =
        (DatabaseUrl.read (DatabaseUrl.withPassword driver user password' rest)).map DatabaseUrl.render := by
      rw [hread password hpassword, hread password' hpassword']
      cases parts with
      | error f => rfl
      | ok u => exact congrArg Except.ok (u.render_password _ _)
    have hnonempty : ∀ secret, DatabaseUrl.withPassword driver user secret rest ≠ "" := by
      intro secret hempty
      simp [DatabaseUrl.withPassword] at hempty
    have hschema := h.nonEmpty?_eq "DB_SCHEMA" (by decide)
    have hpool := h.whole_eq "DB_POOL_SIZE" (by decide) 5
    rw [summaryIn_eq, summaryIn_eq, h.paths_eq (by decide) (by decide), h.exports_eq (by decide),
      database_of_url hurl (hnonempty _), database_of_url hurl' (hnonempty _), hschema, hpool]
    generalize ConfigPaths.fromEnvironment e' (workingDirectory files) base = paths
    cases e'.whole "DB_POOL_SIZE" 5 with
    | error f => rfl
    | ok poolSize =>
      have hsame : ∀ exports, _ := fun exports => summary_url paths
        { url := .null, schema := DatabaseParameters.ofText? (e'.nonEmpty? "DB_SCHEMA"), poolSize := .int poolSize }
        exports hrender
      simp only [Except.map, Run.lift, pure_bind, hsame]

open Environment in
theorem summary_hides_password_hostWith :
    ((hostWith "secret").DifferInPassword (hostWith "other") ∧ ¬ (hostWith "secret").PutsPassword) ∧
      summaryIn (hostWith "secret") {} none = summaryIn (hostWith "other") {} none := by
  have hdiffer : (hostWith "secret").DifferInPassword (hostWith "other") :=
    .inUrl "postgresql" "syncope" "dbhost/syncope" "secret" "other" (agreesExcept_set _ _ _ _) (by decide)
      (List.all_eq_true.1 (by decide)) (List.all_iff_forall_prop.1 (by decide)) (by decide) (by decide) (get?_set _ _ _) (get?_set _ _ _)
  have hputs : ¬ (hostWith "secret").PutsPassword := by decide +kernel
  exact ⟨⟨hdiffer, hputs⟩, summary_hides_password hdiffer hputs {} none⟩

/-! ## Summaries that show a password -/

/-- The URL that a summary shows. -/
def shownUrl? : Json → Option Json
  | .obj (("database", .obj (("url", url) :: _)) :: _) => some url
  | _ => none

theorem shownUrl?_summary {m : Manager} {summary : Json} (h : m.summary = .ok summary) :
    ∃ url, readUrl m.database.url = .ok url ∧ shownUrl? summary = some (.str url.render) := by
  rw [Manager.summary] at h
  cases hread : readUrl m.database.url with
  | error f =>
    rw [hread] at h
    cases h
  | ok url =>
    cases hitems : m.exports.excludedPrefixes.items with
    | error f =>
      rw [hread, hitems] at h
      cases h
    | ok excluded =>
      rw [hread, hitems] at h
      cases h
      exact ⟨url, rfl, rfl⟩

/-- A password that is put into a connection string can be read off the summary. -/
theorem shownUrl?_summaryIn {e : Environment} (hputs : e.PutsPassword) {files : FileTree} {base : Option String}
    {s t : Session} {summary : Json} (h : (summaryIn e files base).result s = (.ok summary, t)) :
    ∃ p, ConnectionParts.fromEnvironment e = .ok p ∧
      shownUrl? summary = some (.str (odbcUrl p.connectionString.render)) := by
  rw [summaryIn_eq, Environment.database_of_parts hputs.1] at h
  simp only [Run.result_bind, Run.result_lift, Run.result_log] at h
  cases hpool : e.whole "DB_POOL_SIZE" 5 with
  | error f =>
    rw [hpool] at h
    cases h
  | ok poolSize =>
    cases hparts : ConnectionParts.fromEnvironment e with
    | error f =>
      rw [hpool, hparts] at h
      cases h
    | ok p =>
      refine ⟨p, rfl, ?_⟩
      cases hexports : ExportParameters.fromEnvironment e with
      | error f =>
        rw [hpool, hparts, hexports] at h
        cases h
      | ok exports =>
        rw [hpool, hparts, hexports] at h
        obtain ⟨url, hread, hshown⟩ := shownUrl?_summary (Prod.mk.inj h).1
        have hrender := DatabaseUrl.render_read_odbcUrl p.connectionString_ne_empty
        have hurl : DatabaseUrl.read (odbcUrl p.connectionString.render) = .ok url := hread
        rw [hurl] at hrender
        rw [hshown, Except.ok.inj hrender]

open Environment in
/-- Where a password is put into a connection string, two passwords have two summaries. -/
theorem password_of_summaryIn {e e' : Environment} (h : AgreesExcept "DB_PASSWORD" e e') (hputs : e.PutsPassword)
    {files : FileTree} {base : Option String} {s t : Session} {summary : Json}
    (hok : (summaryIn e files base).result s = (.ok summary, t))
    (hok' : (summaryIn e' files base).result s = (.ok summary, t)) :
    e.get "DB_PASSWORD" "" = e'.get "DB_PASSWORD" "" := by
  have hputs' : e'.PutsPassword := by
    rw [PutsPassword, ← h.nonEmpty?_eq "DATABASE_URL" (by decide),
      ← h.flag_eq "DB_TRUSTED_CONNECTION" (by decide)]
    exact hputs
  obtain ⟨p, hparts, hshown⟩ := shownUrl?_summaryIn hputs hok
  obtain ⟨p', hparts', hshown'⟩ := shownUrl?_summaryIn hputs' hok'
  have hsame : p.connectionString.render = p'.connectionString.render :=
    DatabaseUrl.odbcUrl_injective (Json.str.inj (Option.some.inj (hshown.symm.trans hshown')))
  have hpassword' : p' = { p with password := e'.get "DB_PASSWORD" "" } := by
    rw [h.parts_eq, hparts] at hparts'
    exact (Except.ok.inj hparts').symm
  obtain ⟨htrusted, hpassword⟩ := login_of_parts hparts
  obtain ⟨before, after, hrender⟩ := p.connectionString_render (htrusted.trans hputs.2)
  rw [hpassword'] at hsame
  have hplaces := (hrender p.password).symm.trans (hsame.trans (hrender _))
  rw [String.append_right_inj, String.append_left_inj] at hplaces
  exact hpassword.symm.trans hplaces

/-- A login by name at the default server. -/
def loginWith (password : String) : Environment :=
  Environment.set [("CONTENT_EXPORTER_DB_TRUSTED_CONNECTION", "false")] "DB_PASSWORD" (some password)

open Environment in
theorem summary_shows_password : (loginWith "secret").DifferInPassword (loginWith "other") ∧
    summaryIn (loginWith "secret") {} none ≠ summaryIn (loginWith "other") {} none := by
  have hagree : AgreesExcept "DB_PASSWORD" (loginWith "secret") (loginWith "other") := agreesExcept_set _ _ _ _
  have hputs : (loginWith "secret").PutsPassword := by decide +kernel
  refine ⟨.inVariable hagree, fun hsame => ?_⟩
  rcases hresult : (summaryIn (loginWith "secret") {} none).result {} with ⟨f | summary, t⟩
  · have hpool : (loginWith "secret").whole "DB_POOL_SIZE" 5 = .ok 5 := rfl
    obtain ⟨p, hparts⟩ : ∃ p, ConnectionParts.fromEnvironment (loginWith "secret") = .ok p := ⟨_, rfl⟩
    obtain ⟨exports, hexports, excluded, hitems⟩ :
        ∃ exports, ExportParameters.fromEnvironment (loginWith "secret") = .ok exports ∧
          ∃ excluded, exports.excludedPrefixes.items = .ok excluded := ⟨_, rfl, _, rfl⟩
    have hread := DatabaseUrl.read_odbcUrl p.connectionString_ne_empty
    rw [summaryIn_eq, database_of_parts hputs.1, hpool, hparts, hexports] at hresult
    simp only [Except.bind, Except.map, Run.result_bind, Run.result_lift, Run.result_log, summary, ofParts, readUrl, hread,
      hitems] at hresult
    exact absurd (Prod.mk.inj hresult).1 (by rintro ⟨⟩)
  · have hpassword := password_of_summaryIn hagree hputs hresult (hsame ▸ hresult)
    rw [Environment.get, Environment.get, loginWith, loginWith, get?_set, get?_set] at hpassword
    exact absurd hpassword (by decide)

end Manager

end TableDump
