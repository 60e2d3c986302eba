import TableDump.Proofs.Export.DiscoveredTables
import TableDump.Proofs.Text.LoneCapitals

/-! # Spellings that are allowed alike

Names are compared in small letters and excluded prefixes in capitals.

* All settings treat two spellings of a name alike just where they are one text in capitals (`allows_eq_iff`). That is so
  wherever neither of them holds a lone capital, and some settings tell a lone capital from its small letters
  (`exists_allows_ne_lone`).
* `RaisesAlike`: the spellings of each name of a listing are one text in capitals. Its tables are then exported under their
  first spelling or not at all (`Settings.FirstSpellings`), and it does not matter which spellings the listing has
  (`discover_sameNames`).
* Where a listing holds a name with a lone capital and without it, an excluded prefix can tell the two
  (`allows_tells_spellings`).
-/

namespace TableDump
open TableDump.Schema TableDump.Text
set_option autoImplicit false

/-- The spellings of each of the names are one text in capitals. -/
def RaisesAlike (names : List String) : Prop := ∀ t ∈ names, ∀ u ∈ names, sameName t u = true → upper t = upper u

theorem raisesAlike_of_rises {names : List String} (h : ∀ t ∈ names, Rises t) : RaisesAlike names :=
  fun t ht u hu hname => upper_eq_of_sameName (h t ht) (h u hu) hname

namespace Settings
variable {settings : Settings} {t u : String} {listed listed' tables : List String}

/-! ## One name -/

theorem startsWith_iff {start s : String} : startsWith start s = true ↔ start.toList <+: s.toList :=
  List.isPrefixOf_iff_prefix

theorem startsWith_self (s : String) : startsWith s s = true := startsWith_iff.2 (List.prefix_refl _)

theorem allows_congr (h : upper t = upper u) : settings.allows t = settings.allows u := by
  rw [allows, allows, h]

theorem isAllowed_congr (h : upper t = upper u) : settings.isAllowed t = settings.isAllowed u := by
  rw [isAllowed, isAllowed, allows_congr h]

/-- Settings that exclude what begins with a text. -/
def excluding (start : String) : Settings := { excludedPrefixes := .arr [.str start] }

theorem isAccepted_excluding (start : String) : (excluding start).IsAccepted := ⟨excluding start, rfl⟩

theorem allows_excluding (start t : String) : (excluding start).allows t = .ok (!startsWith (upper start) (upper t)) := by
  have hitems : (excluding start).excludedPrefixes.items = .ok [.str start] := rfl
  have htext : (Json.str start).textFor "upper" = .ok start := rfl
  simp only [allows, hitems, bind, Except.bind, allowsUpper, htext]
  cases startsWith (upper start) (upper t) <;> rfl

theorem allows_eq_iff :
    (∀ settings : Settings, settings.IsAccepted → settings.allows t = settings.allows u) ↔ upper t = upper u := by
  constructor
  · intro h
    -- excluding one of the two spellings excludes the other one, so each of them begins with the other
    have hbegins : ∀ start, startsWith (upper start) (upper t) = startsWith (upper start) (upper u) := by
      intro start
      have hboth := h (excluding start) (isAccepted_excluding start)
      rw [allows_excluding, allows_excluding] at hboth
      exact Bool.not_inj (Except.ok.inj hboth)
    have htu : (upper t).toList <+: (upper u).toList := startsWith_iff.1 ((hbegins t).symm.trans (startsWith_self _))
    have hut : (upper u).toList <+: (upper t).toList := startsWith_iff.1 ((hbegins u).trans (startsWith_self _))
    exact String.toList_inj.1 (htu.eq_of_length_le hut.length_le)
  · exact fun h settings _ => allows_congr h

/-- Some settings tell a lone capital from its small letters. -/
theorem exists_allows_ne_lone {c : Char} (h : c ∈ loneCapitals) : ∃ settings : Settings, settings.IsAccepted ∧
    settings.allows (String.singleton c) ≠ settings.allows (lower (String.singleton c)) := by
  by_contra hnone
  push Not at hnone
  exact (upper_lone c h).2 (allows_eq_iff.1 hnone)

/-! ## Listings -/

/-- The allowed tables of a listing, each once and under its first spelling. -/
structure FirstSpellings (settings : Settings) (listed tables : List String) : Prop where
  distinct : tables.Pairwise fun a b => sameName a b = false
  mem_iff : ∀ t, t ∈ tables ↔ listed.find? (sameName t) = some t ∧ settings.allows t = .ok true
  allowed_iff : ∀ u ∈ listed, settings.allows u = .ok true ↔ ∃ t ∈ tables, sameName t u = true

theorem FirstSpellings.perm {tables' : List String} (h : settings.FirstSpellings listed tables) (hperm : tables'.Perm tables) :
    settings.FirstSpellings listed tables' where
  distinct := h.distinct.perm hperm.symm fun {a b} hab => (sameName_comm b a).trans hab
  mem_iff t := hperm.mem_iff.trans (h.mem_iff t)
  allowed_iff u hu := (h.allowed_iff u hu).trans (exists_congr fun _ => and_congr_left' hperm.mem_iff.symm)

/-- The first spelling of a name is the first one that is allowed. -/
theorem firstAllowed_iff_of_raisesAlike (hraises : RaisesAlike listed)
    (hallows : ∀ u ∈ listed, settings.allows u = .ok (settings.isAllowed u)) :
    settings.FirstAllowed listed t ↔ listed.find? (sameName t) = some t ∧ settings.allows t = .ok true := by
  rw [List.find?_eq_some_iff_append]
  constructor
  · rintro ⟨hallowed, before, after, rfl, hbefore⟩
    refine ⟨⟨sameName_refl t, before, after, rfl, fun u hu => ?_⟩, hallowed⟩
    rw [Bool.not_eq_true', Bool.eq_false_iff]
    intro hname
    -- a spelling that stands before it would be allowed as well
    have hsame := hraises t (List.mem_append_right _ List.mem_cons_self) u (List.mem_append_left _ hu) hname
    have hrefused := hbefore u hu (sameName_symm hname)
    rw [← allows_congr hsame, hallowed] at hrefused
    cases hrefused
  · rintro ⟨⟨-, before, after, rfl, hbefore⟩, hallowed⟩
    refine ⟨hallowed, before, after, rfl, fun u hu hname => ?_⟩
    have hother := hbefore u hu
    rw [sameName_comm, hname] at hother
    cases hother

theorem firstSpellings_of_discover (hraises : RaisesAlike listed) (h : settings.discover listed = .ok tables) :
    settings.FirstSpellings listed tables := by
  have hdiscovers := discovers_of_discover h
  have hallows : ∀ u ∈ listed, settings.allows u = .ok (settings.isAllowed u) := by
    obtain ⟨f, -, hallowed⟩ | ⟨hallows, -⟩ := settings.allowed_cases listed
    · rw [discover, hallowed] at h
      cases h
    · exact hallows
  refine ⟨pairwise_discover h, fun t => ?_, fun u hu => ⟨hdiscovers.covers u hu, ?_⟩⟩
  · rw [hdiscovers.spellings, firstAllowed_iff_of_raisesAlike hraises hallows]
  · rintro ⟨t, ht, hname⟩
    obtain ⟨hlisted, hallowed⟩ := mem_of_discover h ht
    rw [← allows_congr (hraises t hlisted u hu hname), hallowed]

/-! ## Other spellings -/

/-- Listings of the same names, which are the same texts in capitals. -/
def Respells : List String → List String → Prop := List.Forall₂ fun t u => sameName t u = true ∧ upper t = upper u

theorem sameNames_iff {names names' : List String} : SameNames names names' ↔ names.map lower = names'.map lower := by
  rw [SameNames, ← List.forall₂_eq_eq_eq, List.forall₂_map_left_iff, List.forall₂_map_right_iff]
  simp only [sameName_iff]

theorem map_lower_sortByLower (names : List String) :
    (sortByLower names).map lower = (names.map lower).mergeSort fun a b => decide (a ≤ b) :=
  List.map_mergeSort fun _ _ _ _ => rfl

theorem sameNames_sortByLower {names names' : List String} (h : SameNames names names') :
    SameNames (sortByLower names) (sortByLower names') := by
  rw [sameNames_iff] at h ⊢
  rw [map_lower_sortByLower, map_lower_sortByLower, h]

theorem discover_sameNames (hrespells : Respells listed listed') (h : settings.discover listed = .ok tables) :
    ∃ tables', settings.discover listed' = .ok tables' ∧ SameNames tables tables' := by
  obtain ⟨f, -, hallowed⟩ | ⟨hallows, hallowed⟩ := settings.allowed_cases listed
  · rw [discover, hallowed] at h
    cases h
  · obtain ⟨f', ⟨u, hu, hf'⟩, -⟩ | ⟨-, hallowed'⟩ := settings.allowed_cases listed'
    · obtain ⟨t, ht, -, hupper⟩ := exists_of_forall₂ hrespells hu
      rw [← allows_congr hupper, hallows t ht] at hf'
      cases hf'
    · rw [discover, hallowed] at h
      obtain rfl := Except.ok.inj h
      have hkept : SameNames (listed.filter settings.isAllowed) (listed'.filter settings.isAllowed) :=
        (List.rel_filter (fun {a b} hab => by simp only [isAllowed_congr hab.2]) hrespells).imp fun _ _ => And.left
      rw [discover, hallowed']
      exact ⟨_, rfl, sameNames_sortByLower hkept.distinctNames⟩

end Settings

/-! ## Exports -/

namespace Exporter
variable {x : Exporter} {r : Request} {d : Domain} {s t : Session} {report : Report} {listed : List String}

theorem firstSpellings_of_serve (hd : x.domain r.domain = .ok d) (hlisted : d.store.tables (schemaName d.schema) = .ok listed)
    (hraises : RaisesAlike listed) (hserve : (x.serve r).result s = (.ok report, t)) (houtcomes : report.outcomes ≠ []) :
    x.settings.FirstSpellings listed (report.outcomes.map TableOutcome.table) := by
  obtain ⟨order, ⟨c⟩⟩ := course_of_outcomes hd hserve houtcomes
  obtain ⟨found, tables, u, hread, hdiscover, -, hperm⟩ := steps_of_tableOrder c.orders
  have hfound : d.store.tables (schemaName d.schema) = .ok found := by
    obtain ⟨_, _, -, hanswer⟩ := Run.bind_eq_ok_iff.1 hread
    exact Catalog.eq_ok_of_guarded (Run.lift_eq_ok_iff.1 hanswer).1
  obtain rfl := Except.ok.inj (hlisted.symm.trans hfound)
  rw [c.tables]
  exact (Settings.firstSpellings_of_discover hraises hdiscover).perm hperm

end Exporter

/-- All settings treat two spellings of a name alike just where they are one text in capitals, and without lone capitals they
are. A listing of such spellings gives its tables under their first spelling or not at all, in a report too, and under other
spellings it gives the same tables. -/
theorem exclusion_respects_names {t u : String} (hname : sameName t u = true) (settings : Settings) (listed : List String) :
    ((∀ other : Settings, other.IsAccepted → other.allows t = other.allows u) ↔ upper t = upper u) ∧
    (Rises t → Rises u → upper t = upper u) ∧
    (settings.IsAccepted → settings.ExcludesTexts → ∃ tables, settings.discover listed = .ok tables) ∧
    (∀ listed' tables, Settings.Respells listed listed' → settings.discover listed = .ok tables →
      ∃ tables', settings.discover listed' = .ok tables' ∧ SameNames tables tables') ∧
    (RaisesAlike listed →
      (∀ tables, settings.discover listed = .ok tables → settings.FirstSpellings listed tables) ∧
        ∀ (x : Exporter) (r : Exporter.Request) (d : Domain) (s s' : Session) (report : Report), x.settings = settings →
          x.domain r.domain = .ok d → d.store.tables (schemaName d.schema) = .ok listed →
          (x.serve r).result s = (.ok report, s') →
          report.outcomes = [] ∨ settings.FirstSpellings listed (report.outcomes.map TableOutcome.table)) := by
  refine ⟨Settings.allows_eq_iff, fun ht hu => upper_eq_of_sameName ht hu hname, fun haccepted htexts =>
    Settings.exists_discover haccepted htexts listed, fun listed' tables => Settings.discover_sameNames, ?_⟩
  refine fun hraises => ⟨fun tables => Settings.firstSpellings_of_discover hraises, ?_⟩
  intro x r d s s' report hsettings hd hlisted hserve
  by_cases houtcomes : report.outcomes = []
  · exact .inl houtcomes
  · rw [← hsettings]
    exact .inr (Exporter.firstSpellings_of_serve hd hlisted hraises hserve houtcomes)

/-- Several spellings of one table, the first of which stands first. -/
def spelledListing : List String := ["customers", "CUSTOMERS", "notes", "orders", "Customers"]

def spelledShop : Exporter :=
  { domains := [("shop", { Exporter.shopDomain with store := Exporter.shopStore.listing fun _ => .ok spelledListing })] }

theorem discover_spelledListing : Exporter.shop.settings.discover spelledListing = .ok ["customers", "notes", "orders"] := by
  have hallowed : Exporter.shop.settings.allowed spelledListing = .ok spelledListing := by decide +kernel
  have hdistinct : distinctNames spelledListing = ["customers", "notes", "orders"] := by decide
  have hsorted : Settings.sortByLower ["customers", "notes", "orders"] = ["customers", "notes", "orders"] :=
    List.mergeSort_of_pairwise (by decide)
  rw [Settings.discover, hallowed, Except.map, hdistinct, hsorted]

theorem serve_spelledShop : ∃ report t, (spelledShop.serve { domain := "shop" }).result {} = (.ok report, t) ∧
    report.outcomes ≠ [] := by
  have hrelists : Exporter.shop.Relists spelledShop { domain := "shop" } ["customers", "notes", "orders"] spelledListing :=
    ⟨rfl, rfl, Exporter.shopDomain, fun _ => .ok spelledListing, rfl, rfl, rfl, rfl⟩
  have hdiscover : Exporter.shop.settings.discover spelledListing =
      Exporter.shop.settings.discover ["customers", "notes", "orders"] :=
    discover_spelledListing.trans (Settings.discover_eq_ok rfl (by decide) (by decide)).symm
  obtain ⟨report, t, ⟨c⟩⟩ := Exporter.course_shop
  refine ⟨report, t, (Exporter.serve_relisted hrelists hdiscover {}).trans (c.serves rfl), fun hnone => ?_⟩
  have htables := c.tables
  rw [hnone] at htables
  cases htables

/-- Both small sigmas are one capital, so both spellings of a word that ends in one are excluded together. -/
theorem exclusion_respects_names_spelled : ∃ report t,
    (sameName "ΟΔΟΣ" "οδος" = true ∧ Rises "ΟΔΟΣ" ∧ Rises "οδος" ∧
      ∀ settings : Settings, settings.IsAccepted → settings.allows "ΟΔΟΣ" = settings.allows "οδος") ∧
    RaisesAlike spelledListing ∧ (spelledShop.serve { domain := "shop" }).result {} = (.ok report, t) ∧
    report.outcomes ≠ [] ∧ spelledShop.settings.FirstSpellings spelledListing (report.outcomes.map TableOutcome.table) ∧
    spelledShop.settings.FirstSpellings spelledListing ["customers", "notes", "orders"] := by
  obtain ⟨report, t, hserve, houtcomes⟩ := serve_spelledShop
  have hname : sameName "ΟΔΟΣ" "οδος" = true := by decide +kernel
  have hcapitals : Rises "ΟΔΟΣ" := by decide
  have hsmall : Rises "οδος" := by decide
  have hraises : RaisesAlike spelledListing := raisesAlike_of_rises (by decide)
  obtain ⟨hboth, hrises, -, -, hfirsts⟩ := exclusion_respects_names hname spelledShop.settings spelledListing
  obtain ⟨hdiscover, hreport⟩ := hfirsts hraises
  have hfirst := (hreport spelledShop { domain := "shop" } _ {} t report rfl rfl rfl hserve).resolve_left houtcomes
  exact ⟨report, t, ⟨hname, hcapitals, hsmall, hboth.2 (hrises hcapitals hsmall)⟩, hraises, hserve, houtcomes, hfirst,
    hdiscover _ discover_spelledListing⟩

/-- The Kelvin sign is a small letter in small letters, but no capital K. -/
theorem allows_tells_spellings :
    (¬ ∀ (settings : Settings) (t u : String), settings.IsAccepted → sameName t u = true →
      settings.allows t = settings.allows u) ∧
    Exporter.kelvinListing.find? (sameName "keys") = some "keys" ∧
    Exporter.kelvinSettings.discover Exporter.kelvinListing = .ok ["\u212Aeys", "Orders"] := by
  refine ⟨fun h => ?_, by decide, Exporter.discover_kelvin⟩
  have hname : sameName "keys" "\u212Aeys" = true := by decide +kernel
  have hsame := h Exporter.kelvinSettings "keys" "\u212Aeys" ⟨Exporter.kelvinSettings, rfl⟩ hname
  have hrefused : Exporter.kelvinSettings.allows "keys" = .ok false := by decide +kernel
  have hallowed : Exporter.kelvinSettings.allows "\u212Aeys" = .ok true := by decide +kernel
  rw [hrefused, hallowed] at hsame
  cases hsame

end TableDump
