import Mathlib.Data.String.Basic
import TableDump.Proofs.Export.FailureIsolation
import TableDump.Proofs.Export.WholeDocument

/-! # Discovered tables

What an export makes of the listing of a catalog.

* `Settings.FirstAllowed`: the first spelling of a name, in a listing, that is allowed. Spellings of one name can differ
  in whether they are allowed, as prefixes are compared in capitals and names in small letters.
* `Settings.Discovers`: the first allowed spellings of a listing, in strict order of their names.
* `Exporter.Relists`: exporters that differ in what the store of a domain lists. Where the listings have the same tables in
  another order, a request is served with the same outcome, document and events (`discover_first_spellings`).
-/

namespace TableDump
open TableDump.Schema TableDump.Text
set_option autoImplicit false

/-! ## Spellings in a listing -/

/-- The distinct spellings are those that stand first. -/
theorem Schema.mem_distinctNames_iff {t : String} {names : List String} :
    t ∈ distinctNames names ↔ names.find? (sameName t) = some t := by
  rw [← find?_distinctNames]
  refine ⟨fun ht => ?_, List.mem_of_find?_eq_some⟩
  have hfilter := filter_sameName (pairwise_distinctNames names) t
  rw [← Option.mem_toList, ← hfilter]
  exact List.mem_filter.2 ⟨ht, sameName_refl t⟩

namespace Settings
variable {settings : Settings} {listed tables : List String} {t : String}

structure FirstAllowed (settings : Settings) (listed : List String) (t : String) : Prop where
  allowed : settings.allows t = .ok true
  first : ∃ before after, listed = before ++ t :: after ∧ ∀ u ∈ before, sameName u t = true → settings.allows u = .ok false

structure Discovers (settings : Settings) (listed tables : List String) : Prop where
  ordered : tables.Pairwise fun a b => lower a < lower b
  spellings : ∀ t, t ∈ tables ↔ settings.FirstAllowed listed t
  covers : ∀ u ∈ listed, settings.allows u = .ok true → ∃ t ∈ tables, sameName t u = true

theorem firstAllowed_iff (hallows : ∀ u ∈ listed, settings.allows u = .ok (settings.isAllowed u)) :
    settings.FirstAllowed listed t ↔ t ∈ distinctNames (listed.filter settings.isAllowed) := by
  rw [mem_distinctNames_iff, List.find?_filter, List.find?_eq_some_iff_append]
  constructor
  · rintro ⟨hallowed, before, after, rfl, hbefore⟩
    have ht : settings.isAllowed t = true := by rw [isAllowed, hallowed]
    refine ⟨by simp [ht, sameName_refl], before, after, rfl, fun u hu => ?_⟩
    have hu' := hallows u (List.mem_append_left _ hu)
    cases hname : sameName t u with
    | false => simp
    | true =>
      rw [hbefore u hu ((sameName_comm u t).trans hname)] at hu'
      simp [← Except.ok.inj hu']
  · rintro ⟨ht, before, after, rfl, hbefore⟩
    obtain ⟨hallowed, -⟩ := of_decide_eq_true ht
    refine ⟨?_, before, after, rfl, fun u hu hname => ?_⟩
    · rw [hallows t (List.mem_append_right _ List.mem_cons_self), hallowed]
    · have hrefused := hbefore u hu
      rw [sameName_comm u t] at hname
      simp only [hname, and_true, Bool.decide_eq_true, Bool.not_eq_true'] at hrefused
      rw [hallows u (List.mem_append_left _ hu), hrefused]

theorem discovers_of_discover (h : settings.discover listed = .ok tables) : settings.Discovers listed tables := by
  have hdistinct := pairwise_discover h
  rw [discover] at h
  obtain ⟨f, -, hallowed⟩ | ⟨hallows, hallowed⟩ := settings.allowed_cases listed
  · rw [hallowed] at h
    cases h
  · rw [hallowed] at h
    cases h
    have hmem : ∀ t, t ∈ sortByLower (distinctNames (listed.filter settings.isAllowed)) ↔
        t ∈ distinctNames (listed.filter settings.isAllowed) := fun t => (List.mergeSort_perm _ _).mem_iff
    refine ⟨?_, fun t => (hmem t).trans (firstAllowed_iff hallows).symm, fun u hu hallowed' => ?_⟩
    · refine ((pairwise_sortByLower _).and hdistinct).imp fun {a b} hab => ?_
      have hne : lower a ≠ lower b := fun hsame => absurd (sameName_iff.2 hsame) (by rw [hab.2]; exact Bool.false_ne_true)
      exact lt_of_le_of_ne (of_decide_eq_true hab.1) hne
    · have hkept : settings.isAllowed u = true := by rw [isAllowed, hallowed']
      obtain ⟨t, ht, hname⟩ := exists_mem_distinctNames (List.mem_filter.2 ⟨hu, hkept⟩)
      exact ⟨t, (hmem t).2 ht, hname⟩

theorem exists_discover (haccepted : settings.IsAccepted) (htexts : settings.ExcludesTexts) (listed : List String) :
    ∃ tables, settings.discover listed = .ok tables := by
  cases h : settings.discover listed with
  | ok tables => exact ⟨tables, rfl⟩
  | error f => exact absurd htexts (not_excludesTexts_of_discover haccepted h)

/-- The order of a listing does not matter, where no two of its names are equal ignoring case. -/
theorem discover_perm {listed' : List String} (hperm : listed'.Perm listed)
    (hdistinct : listed.Pairwise fun a b => sameName a b = false) : settings.discover listed' = settings.discover listed := by
  have hsame : settings.discover listed' = (settings.discover listed).map (List.map id) :=
    Respelling.discover_eq ⟨id, fun _ => id, fun _ => rfl, fun _ _ => rfl⟩ hdistinct (hperm.trans (by rw [List.map_id]))
  rw [hsame]
  cases settings.discover listed with
  | ok tables => exact congrArg Except.ok (List.map_id tables)
  | error f => rfl

end Settings

/-! ## Exports of another listing -/

def Store.listing (store : Store) (tables : Option String → Except Fault (List String)) : Store := { store with tables }

theorem Catalog.result_tables {c : Catalog} {listed : List String} (h : c.store.tables c.schema = .ok listed) (s : Session) :
    c.tables.result s = (c.guarded none (.ok listed), s.extend [.tablesListed]) := by
  rw [Catalog.tables, Run.result_bind, Run.result_record]
  simp only [Run.result_lift, h]
  rfl

/-- What is exported depends on what is discovered only. -/
theorem exportTables_listing {settings : Settings} {p : ExportPlan} {listed listed' : List String}
    {tables : Option String → Except Fault (List String)}
    (hlisted : p.extractor.store.tables (schemaName p.extractor.schema) = .ok listed)
    (hlisted' : tables (schemaName p.extractor.schema) = .ok listed')
    (hdiscover : settings.discover listed' = settings.discover listed) (s : Session) :
    (exportTables settings (p.withStore (p.extractor.store.listing tables))).result s = (exportTables settings p).result s := by
  have hguarded : ∀ names : List String, (p.withStore (p.extractor.store.listing tables)).extractor.catalog.guarded none
      (.ok names) = p.extractor.catalog.guarded none (.ok names) := fun _ => rfl
  have hrest : exportInOrder (p.withStore (p.extractor.store.listing tables)) = exportInOrder p := rfl
  rw [exportTables, exportTables, hrest, Run.result_attempt_bind, Run.result_attempt_bind,
    Catalog.result_tables hlisted', Catalog.result_tables hlisted, hguarded]
  cases hinspect : p.extractor.store.inspect with
  | error f => simp [Catalog.guarded, Extractor.catalog, Catalog.make, hinspect, bind, Except.bind]
  | ok _ => simp [Catalog.guarded, Extractor.catalog, Catalog.make, hinspect, bind, Except.bind, hdiscover]

namespace Exporter
variable {x y : Exporter} {r : Request} {listed listed' : List String}

/-- The two serve a request from stores that differ in what they list. -/
structure Relists (x y : Exporter) (r : Request) (listed listed' : List String) : Prop where
  settings : y.settings = x.settings
  machine : y.toMachine = x.toMachine
  domains : ∃ d tables, x.domain r.domain = .ok d ∧ y.domain r.domain = .ok { d with store := d.store.listing tables } ∧
    d.store.tables (schemaName d.schema) = .ok listed ∧ tables (schemaName d.schema) = .ok listed'

theorem serve_relisted (h : x.Relists y r listed listed') (hdiscover : x.settings.discover listed' = x.settings.discover listed)
    (s : Session) : (y.serve r).result s = (x.serve r).result s := by
  obtain ⟨d, tables, hx, hy, hlisted, hlisted'⟩ := h.domains
  have hloads : Domain.loadEntities { d with store := d.store.listing tables } r.domain = d.loadEntities r.domain := rfl
  have hloaded : ∀ loading, y.exportLoaded r.domain (d.store.listing tables)
      (y.planFor r { d with store := d.store.listing tables } loading) =
        x.exportLoaded r.domain d.store (x.planFor r d loading) := by
    intro loading
    have hfaults : (d.store.listing tables).driverFaults = d.store.driverFaults := rfl
    have hplan := planFor_withStore h.settings h.machine r d hfaults loading
    have hexports : exportTables x.settings ((x.planFor r d loading).withStore (d.store.listing tables)) =
        exportTables x.settings (x.planFor r d loading) := funext fun u => exportTables_listing hlisted hlisted' hdiscover u
    rw [exportLoaded, exportLoaded, h.settings, hplan, hexports]
    rfl
  rw [serve, serve]
  split
  · rw [exportDomain_eq hx, exportDomain_eq hy, hloads, funext hloaded]
  · rfl

/-- The discovered tables are the first allowed spellings of a listing, and it does not matter in which order it has them. -/
theorem discover_first_spellings (settings : Settings) (listed : List String) :
    (settings.IsAccepted → settings.ExcludesTexts → ∃ tables, settings.discover listed = .ok tables) ∧
      (∀ tables, settings.discover listed = .ok tables → settings.Discovers listed tables) ∧
      ∀ listed' : List String, listed'.Perm listed → (listed.Pairwise fun a b => sameName a b = false) →
        settings.discover listed' = settings.discover listed ∧
          ∀ (x y : Exporter) (r : Request) (s : Session), x.settings = settings → x.Relists y r listed listed' →
            (y.serve r).result s = (x.serve r).result s := by
  refine ⟨fun haccepted htexts => Settings.exists_discover haccepted htexts listed, fun tables => Settings.discovers_of_discover,
    fun listed' hperm hdistinct => ⟨Settings.discover_perm hperm hdistinct, fun x y r s hsettings hrelists => ?_⟩⟩
  obtain rfl := hsettings
  exact serve_relisted hrelists (Settings.discover_perm hperm hdistinct) s

/-- The Kelvin sign is a small letter in small letters, and stays what it is in capitals. -/
def kelvinSettings : Settings := { excludedPrefixes := .arr [.str "k"] }

def kelvinListing : List String := ["Orders", "keys", "\u212Aeys", "ORDERS", "KEYS"]

theorem discover_kelvin : kelvinSettings.discover kelvinListing = .ok ["\u212Aeys", "Orders"] := by
  have hallowed : kelvinSettings.allowed kelvinListing = .ok ["Orders", "\u212Aeys", "ORDERS"] := by decide +kernel
  have hdistinct : distinctNames ["Orders", "\u212Aeys", "ORDERS"] = ["Orders", "\u212Aeys"] := by decide
  have hle : decide (lower "Orders" ≤ lower "\u212Aeys") = false := by decide
  rw [Settings.discover, hallowed, Except.map, hdistinct, Settings.sortByLower]
  unfold List.mergeSort
  simp [-not_le, List.MergeSort.Internal.splitInTwo, hle]

/-- The shop with its tables listed in another order. -/
def relistedShop : Exporter :=
  { domains := [("shop", { shopDomain with store := shopStore.listing fun _ => .ok ["orders", "notes", "customers"] })] }

theorem relists_shop : shop.Relists relistedShop { domain := "shop" } ["customers", "notes", "orders"]
    ["orders", "notes", "customers"] where
  settings := rfl
  machine := rfl
  domains := ⟨shopDomain, _, rfl, rfl, rfl, rfl⟩

theorem discover_first_spellings_shop :
    (kelvinSettings.IsAccepted ∧ kelvinSettings.ExcludesTexts ∧
      kelvinSettings.discover kelvinListing = .ok ["\u212Aeys", "Orders"] ∧
      kelvinSettings.Discovers kelvinListing ["\u212Aeys", "Orders"]) ∧
    ∃ report t, ["orders", "notes", "customers"].Perm ["customers", "notes", "orders"] ∧
      (["customers", "notes", "orders"].Pairwise fun a b => sameName a b = false) ∧
      shop.Relists relistedShop { domain := "shop" } ["customers", "notes", "orders"] ["orders", "notes", "customers"] ∧
      report.exported = ["customers", "orders"] ∧ (shop.serve { domain := "shop" }).result {} = (.ok report, t) ∧
      (relistedShop.serve { domain := "shop" }).result {} = (.ok report, t) := by
  have htexts : kelvinSettings.ExcludesTexts := by
    rintro prefixes ⟨⟩
    exact List.forall_mem_singleton.2 ⟨_, rfl⟩
  have haccepted : kelvinSettings.IsAccepted := ⟨kelvinSettings, rfl⟩
  obtain ⟨hexists, hdiscovers, -⟩ := discover_first_spellings kelvinSettings kelvinListing
  obtain ⟨tables, htables⟩ := hexists haccepted htexts
  obtain rfl := Except.ok.inj (htables.symm.trans discover_kelvin)
  refine ⟨⟨haccepted, htexts, htables, hdiscovers _ htables⟩, ?_⟩
  obtain ⟨report, t, ⟨c⟩⟩ := course_shop
  have hserve : (shop.serve { domain := "shop" }).result {} = (.ok report, t) := c.serves rfl
  have hperm : ["orders", "notes", "customers"].Perm ["customers", "notes", "orders"] := by decide
  have hdistinct : ["customers", "notes", "orders"].Pairwise fun a b => sameName a b = false := by decide
  have hsame := ((discover_first_spellings shop.settings _).2.2 _ hperm hdistinct).2 shop relistedShop _ {} rfl relists_shop
  exact ⟨report, t, hperm, hdistinct, relists_shop, exported_shop c, hserve, hsame.trans hserve⟩

end Exporter
end TableDump
