import Mathlib.Data.List.Find
import TableDump.Proofs.RunFrame
import TableDump.Proofs.Schema.ReferenceGraph

/-! # Tables in order of reference

What sorting makes of some tables when everything that they refer to can be read.

* `referencesOf`: the references of tables, each table once and under its first spelling.
* `Precedes`: all places of one name stand before all places of another one.
* Sorting gives every table once, in its first spelling, and nothing else (`sortTables_first_spellings`).
* A table stands behind what it imports, unless a chain of imports leads back
  (`sortTables_imports_first`).
-/

namespace TableDump.Schema
open TableDump.Text
set_option autoImplicit false

def referencesOf (referenced : String → List String) (tables : List String) : References :=
  (distinctNames tables).map fun t => (t, referenced t)

/-- `names` falls into two parts: `a` stands in the first one only, `b` in the second one only. -/
def Precedes (names : List String) (a b : String) : Prop :=
  ∃ before after, names = before ++ after ∧
    (∃ x ∈ before, sameName a x = true) ∧ (∀ x ∈ after, sameName a x = false) ∧
    (∃ y ∈ after, sameName b y = true) ∧ (∀ y ∈ before, sameName b y = false)

/-! ## First spellings -/

theorem find?_distinctNames (name : String) (names : List String) :
    (distinctNames names).find? (sameName name) = names.find? (sameName name) := by
  induction names with
  | nil => rfl
  | cons t rest ih =>
    rw [distinctNames, List.find?_cons, List.find?_cons]
    cases h : sameName name t with
    | true => rfl
    | false =>
      rw [← ih, List.find?_filter]
      refine List.find?_congr fun u _ => ?_
      cases hu : sameName name u with
      | false => simp
      | true =>
        have htu : sameName t u = false := by
          rw [sameName_comm t u, ← sameName_congr (sameName_refl u) (sameName_refl t), ← h]
          exact sameName_congr (sameName_symm hu) (sameName_refl t)
        simp [htu]

theorem findName?_eq (name : String) (names : List String) :
    findName? name names = names.find? (sameName name) :=
  List.find?_congr fun u _ => sameName_comm u name

theorem find?_congr_name {a b : String} (h : sameName a b = true) (names : List String) :
    names.find? (sameName a) = names.find? (sameName b) :=
  List.find?_congr fun u _ => sameName_congr h (sameName_refl u)

/-- Of pairwise different names, at most one is a given one. -/
theorem filter_sameName {names : List String} (h : names.Pairwise fun a b => sameName a b = false)
    (name : String) : names.filter (sameName name) = (names.find? (sameName name)).toList := by
  induction names with
  | nil => rfl
  | cons t rest ih =>
    obtain ⟨ht, hrest⟩ := List.pairwise_cons.1 h
    rw [List.filter_cons, List.find?_cons]
    cases hn : sameName name t with
    | false => exact ih hrest
    | true =>
      have hnil : rest.filter (sameName name) = [] := List.filter_eq_nil_iff.2 fun u hu => by
        rw [sameName_congr hn (sameName_refl u), ht u hu]
        exact Bool.false_ne_true
      simp [hnil]

/-! ## Order of a graph -/

namespace Graph

theorem pairwise_order {g : Graph} (hg : g.WellFormed) : g.order.Pairwise fun a b => sameName a b = false := by
  refine List.pairwise_map.2 (List.Pairwise.imp_of_mem ?_ (rests_traversal hg.closed).inv.nodup_finished)
  intro i j hi hj hij
  have hi' := (mem_finished_traversal hg.closed).1 hi
  have hj' := (mem_finished_traversal hg.closed).1 hj
  exact Bool.eq_false_iff.2 fun hsame => hij (eq_of_sameName hg hi' hj' hsame)

theorem exists_mem_order {g : Graph} (hg : g.WellFormed) {a : String} (h : g.contains a = true) :
    ∃ b ∈ g.order, sameName a b = true := by
  obtain ⟨i, hi, hname⟩ := contains_iff.1 h
  exact ⟨g.name i, List.mem_map.2 ⟨i, (mem_finished_traversal hg.closed).2 hi, rfl⟩, sameName_symm hname⟩

end Graph

/-! ## Sorted references -/

theorem sameName_of_findName? {n c : String} {names : List String} (h : findName? n names = some c) :
    sameName n c = true := by
  rw [findName?_eq] at h
  exact List.find?_some h

/-- Respelling some pairwise different names keeps one name under its new spelling. -/
theorem filter_respelled {names : List String} (h : names.Pairwise fun a b => sameName a b = false)
    (spellings : List String) (name : String) :
    (names.filterMap fun n => findName? n spellings).filter (sameName name) =
      if (names.find? (sameName name)).isSome then (spellings.find? (sameName name)).toList else [] := by
  have hone : ∀ n, (findName? n spellings).filter (sameName name) =
      if sameName name n then spellings.find? (sameName name) else none := by
    intro n
    cases hf : findName? n spellings with
    | none =>
      rw [findName?_eq] at hf
      cases hn : sameName name n with
      | false => rfl
      | true =>
        rw [find?_congr_name hn, hf]
        rfl
    | some c =>
      have hc := sameName_of_findName? hf
      rw [findName?_eq] at hf
      rw [Option.filter_some, sameName_congr (sameName_refl name) (sameName_symm hc)]
      cases hn : sameName name n with
      | false => rfl
      | true => rw [find?_congr_name hn, hf]
  rw [List.filter_filterMap]
  simp only [hone]
  rw [← List.filterMap_filter, filter_sameName h]
  cases names.find? (sameName name) with
  | none => rfl
  | some n => cases spellings.find? (sameName name) <;> simp

theorem filter_sortReferences (references : References) (name : String) :
    (sortReferences references).filter (sameName name) =
      ((references.map Prod.fst).find? (sameName name)).toList := by
  have hg := wellFormed_referenceGraph references
  rw [sortReferences, filter_respelled (Graph.pairwise_order hg)]
  split
  · rfl
  · next hnone =>
    cases hc : (references.map Prod.fst).find? (sameName name) with
    | none => rfl
    | some c =>
      -- a table of the list is a node, so the order holds its name
      obtain ⟨entry, hentry, hfst⟩ := List.mem_map.1 (List.mem_of_find?_eq_some hc)
      have hname : sameName name c = true := List.find?_some hc
      have hmentions : Mentions references name :=
        ⟨entry, hentry, Or.inl (by rw [hfst]; exact sameName_symm hname)⟩
      obtain ⟨b, hb, hsame⟩ := Graph.exists_mem_order hg (contains_referenceGraph.2 hmentions)
      refine absurd ?_ hnone
      rw [List.find?_isSome]
      exact ⟨b, hb, hsame⟩

/-- Sorting rearranges tables of different names. -/
theorem perm_sortReferences {references : References}
    (h : (references.map Prod.fst).Pairwise fun a b => sameName a b = false) :
    (sortReferences references).Perm (references.map Prod.fst) := by
  have hcount : ∀ (names : List String) (t : String), names.count t = (names.filter (sameName t)).count t :=
    fun names t => (List.count_filter (sameName_refl t)).symm
  rw [List.perm_iff_count]
  intro t
  rw [hcount, filter_sortReferences, ← filter_sameName h, ← hcount]

theorem mem_respelled {names spellings : List String} {x : String}
    (h : x ∈ names.filterMap fun n => findName? n spellings) : ∃ n ∈ names, sameName n x = true := by
  obtain ⟨n, hn, hx⟩ := List.mem_filterMap.1 h
  exact ⟨n, hn, sameName_of_findName? hx⟩

theorem exists_mem_respelled {names spellings : List String} {n a c : String} (hn : n ∈ names)
    (hna : sameName n a = true) (hc : c ∈ spellings) (hac : sameName a c = true) :
    ∃ x ∈ names.filterMap fun n => findName? n spellings, sameName a x = true := by
  have hsome : (findName? n spellings).isSome = true := by
    rw [findName?_eq, List.find?_isSome]
    exact ⟨c, hc, sameName_trans hna hac⟩
  obtain ⟨x, hx⟩ := Option.isSome_iff_exists.1 hsome
  exact ⟨x, List.mem_filterMap.2 ⟨n, hn, hx⟩,
    sameName_trans (sameName_symm hna) (sameName_of_findName? hx)⟩

/-- Nodes of a graph in two parts, one of a name in each: the names stand in these parts only. -/
theorem precedes_respelled {g : Graph} (hg : g.WellFormed) {first last : List Nat} {u v : Nat}
    (hfinished : g.traversal.finished = first ++ last) (hu : u ∈ first) (hv : v ∈ last) {a b : String}
    (hua : sameName (g.name u) a = true) (hvb : sameName (g.name v) b = true) {spellings : List String}
    (ha : ∃ c ∈ spellings, sameName a c = true) (hb : ∃ c ∈ spellings, sameName b c = true) :
    Precedes (g.order.filterMap fun n => findName? n spellings) a b := by
  have hnodup := (Graph.rests_traversal hg.closed).inv.nodup_finished
  have hlt : ∀ w ∈ first ++ last, w < g.size := fun w hw =>
    (Graph.mem_finished_traversal hg.closed).1 (hfinished ▸ hw)
  have hdisjoint := (List.nodup_append.1 (hfinished ▸ hnodup)).2.2
  have hapart : ∀ {w c : String} {i j : Nat}, i ∈ first ++ last → j ∈ first ++ last → i ≠ j →
      sameName (g.name i) c = true → sameName (g.name j) w = true → sameName c w = false := by
    intro w c i j hi hj hij hc hw
    refine Bool.eq_false_iff.2 fun hcw => hij (Graph.eq_of_sameName hg (hlt i hi) (hlt j hj) ?_)
    exact sameName_trans (sameName_trans hc hcw) (sameName_symm hw)
  obtain ⟨c, hc, hac⟩ := ha
  obtain ⟨e, he, hbe⟩ := hb
  refine ⟨(first.map g.name).filterMap fun n => findName? n spellings,
    (last.map g.name).filterMap fun n => findName? n spellings, ?_, ?_, fun x hx => ?_, ?_, fun y hy => ?_⟩
  · rw [Graph.order, hfinished, List.map_append, List.filterMap_append]
  · exact exists_mem_respelled (List.mem_map_of_mem hu) hua hc hac
  · obtain ⟨n, hn, hnx⟩ := mem_respelled hx
    obtain ⟨w, hw, rfl⟩ := List.mem_map.1 hn
    exact hapart (List.mem_append_left _ hu) (List.mem_append_right _ hw) (hdisjoint u hu w hw) hua hnx
  · exact exists_mem_respelled (List.mem_map_of_mem hv) hvb he hbe
  · obtain ⟨n, hn, hny⟩ := mem_respelled hy
    obtain ⟨w, hw, rfl⟩ := List.mem_map.1 hn
    exact hapart (List.mem_append_right _ hv) (List.mem_append_left _ hw) (hdisjoint w hw v hv).symm hvb hny

theorem precedes_sortReferences {references : References} {t r : String} (himports : Imports references t r)
    (hr : ∃ entry ∈ references, sameName entry.1 r = true) (hback : ¬ ImportPath references r t) :
    Precedes (sortReferences references) r t := by
  have hg := wellFormed_referenceGraph references
  obtain ⟨u, v, hedge, hu, hv⟩ := hasEdge_referenceGraph.2 himports
  obtain ⟨entry, hentry, het, _, hother⟩ := himports
  have hunreached : ¬ (referenceGraph references).Reaches v u := by
    intro hreach
    rcases path_of_reaches hreach with rfl | hpath
    · rw [sameName_congr (sameName_symm hv) (sameName_symm hu), sameName_refl] at hother
      cases hother
    · exact hback (hpath.congr hu hv)
  obtain ⟨first, last, hfinished, hlast⟩ :=
    Graph.settled_traversal hg.closed (Graph.lt_of_edge hedge) hedge hunreached
  obtain ⟨entry', hentry', her⟩ := hr
  have hparts : (referenceGraph references).traversal.finished = (first ++ [u]) ++ last := by
    rw [hfinished, List.append_assoc, List.singleton_append]
  refine precedes_respelled hg hparts (List.mem_append_right _ List.mem_cons_self) hlast hu hv ?_ ?_
  · exact ⟨entry'.1, List.mem_map_of_mem hentry', sameName_symm her⟩
  · exact ⟨entry.1, List.mem_map_of_mem hentry, sameName_symm het⟩

/-! ## Sorted tables -/

/-- References without those of a table to itself. -/
def withoutSelf (references : References) : References :=
  references.map fun entry => (entry.1, entry.2.filter fun r => !sameName r entry.1)

theorem imports_withoutSelf {references : References} {a b : String} :
    Imports (withoutSelf references) a b ↔ Imports references a b := by
  constructor
  · rintro ⟨entry, hentry, hea, ⟨r, hr, hrb⟩, hother⟩
    obtain ⟨old, hold, rfl⟩ := List.mem_map.1 hentry
    exact ⟨old, hold, hea, ⟨r, (List.mem_filter.1 hr).1, hrb⟩, hother⟩
  · rintro ⟨entry, hentry, hea, ⟨r, hr, hrb⟩, hother⟩
    refine ⟨_, List.mem_map.2 ⟨entry, hentry, rfl⟩, hea, ⟨r, List.mem_filter.2 ⟨hr, ?_⟩, hrb⟩, hother⟩
    rw [sameName_comm, sameName_congr hea hrb, hother]
    rfl

/-- What imports keep, chains of imports keep. -/
theorem ImportPath.keeps {references : References} {S : String → Prop}
    (hS : ∀ a b, Imports references a b → S a → S b) {a b : String} (h : ImportPath references a b) (ha : S a) :
    S b := by
  induction h with
  | single h => exact hS _ _ h ha
  | cons h _ ih => exact ih (hS _ _ h ha)

theorem path_of_path_withoutSelf {references : References} {a b : String}
    (h : ImportPath (withoutSelf references) a b) : ImportPath references a b := by
  induction h with
  | single h => exact .single (imports_withoutSelf.1 h)
  | cons h _ ih => exact .cons (imports_withoutSelf.1 h) ih

theorem distinctNames_eq_self {names : List String} (h : names.Pairwise fun a b => sameName a b = false) :
    distinctNames names = names := by
  induction names with
  | nil => rfl
  | cons t rest ih =>
    obtain ⟨ht, hrest⟩ := List.pairwise_cons.1 h
    rw [distinctNames, ih hrest, List.filter_eq_self.2 fun u hu => by rw [ht u hu]; rfl]

theorem perm_sortTables {imports : String → Run (List String)} {tables order : List String}
    (hdistinct : tables.Pairwise fun a b => sameName a b = false) {s t : Session}
    (h : (sortTables imports tables).result s = (.ok order, t)) : order.Perm tables := by
  rw [sortTables, distinctNames_eq_self hdistinct] at h
  obtain ⟨references, u, hread, h⟩ := Run.bind_eq_ok_iff.1 h
  cases h
  have htables : List.Forall₂ (fun t entry => t = entry.1) tables references := by
    refine (Run.forall₂_of_mapM hread).imp fun t entry hentry => ?_
    obtain ⟨u, v, hresult⟩ := hentry
    obtain ⟨referenced, w, _, hpure⟩ := Run.bind_eq_ok_iff.1 hresult
    cases hpure
    rfl
  have hfst : references.map Prod.fst = tables := by
    have hmap := List.forall₂_map_right_iff.2 htables
    rwa [List.forall₂_eq_eq_eq, eq_comm] at hmap
  rw [← hfst] at hdistinct ⊢
  exact perm_sortReferences hdistinct

variable (imports : String → Run (List String)) (referenced : String → List String) (tables : List String)

theorem outcome_sortTables (hread : ∀ t ∈ tables, ∀ s, ((imports t).result s).1 = .ok (referenced t))
    (s : Session) : ((sortTables imports tables).result s).1 =
      .ok (sortReferences (withoutSelf (referencesOf referenced tables))) := by
  have hreadOne : ∀ t ∈ distinctNames tables, ∀ s, ((readReferences imports t).result s).1 =
      .ok (t, (referenced t).filter fun r => !sameName r t) := by
    intro t ht s
    rw [readReferences, Run.outcome_bind_of_ok (hread t (mem_of_mem_distinctNames ht) s)]
    rfl
  rw [sortTables, Run.outcome_bind_of_ok (Run.outcome_mapM hreadOne s), withoutSelf, referencesOf, List.map_map]
  rfl

theorem tables_referencesOf :
    (withoutSelf (referencesOf referenced tables)).map Prod.fst = distinctNames tables := by
  rw [withoutSelf, referencesOf, List.map_map, List.map_map]
  exact List.map_id' _

/-- The sorted tables hold every name once, in its first spelling, and no other name. -/
theorem sortTables_first_spellings
    (hread : ∀ t ∈ tables, ∀ s, ((imports t).result s).1 = .ok (referenced t)) (s : Session) :
    ∃ order, ((sortTables imports tables).result s).1 = .ok order ∧
      ∀ name, order.filter (sameName name) = (tables.find? (sameName name)).toList := by
  refine ⟨_, outcome_sortTables imports referenced tables hread s, fun name => ?_⟩
  rw [filter_sortReferences, tables_referencesOf, find?_distinctNames]

theorem sortTables_first_spellings_repeated :
    ∃ order, ((sortTables (fun _ => pure ["A", "Outside", "C"]) ["b", "a", "B", "C"]).result {}).1 = .ok order ∧
      order.filter (sameName "A") = ["a"] ∧ order.filter (sameName "B") = ["b"] ∧
      order.filter (sameName "outside") = [] := by
  obtain ⟨order, horder, hnames⟩ := sortTables_first_spellings (fun _ => pure ["A", "Outside", "C"])
    (fun _ => ["A", "Outside", "C"]) ["b", "a", "B", "C"] (fun _ _ _ => rfl) {}
  exact ⟨order, horder, (hnames _).trans (by decide), (hnames _).trans (by decide), (hnames _).trans (by decide)⟩

/-- What a table imports stands before it unless a chain of imports leads back; where no chain leads
back to its start, all imported tables stand before the tables that import them. -/
theorem sortTables_imports_first
    (hread : ∀ t ∈ tables, ∀ s, ((imports t).result s).1 = .ok (referenced t)) (s : Session) :
    ∃ order, ((sortTables imports tables).result s).1 = .ok order ∧
      (∀ t ∈ tables, ∀ r ∈ tables, Imports (referencesOf referenced tables) t r →
        ¬ ImportPath (referencesOf referenced tables) r t → Precedes order r t) ∧
      ((∀ t, ¬ ImportPath (referencesOf referenced tables) t t) →
        ∀ t ∈ tables, ∀ r ∈ tables, Imports (referencesOf referenced tables) t r → Precedes order r t) := by
  have hfirst : ∀ t ∈ tables, ∀ r ∈ tables, Imports (referencesOf referenced tables) t r →
      ¬ ImportPath (referencesOf referenced tables) r t →
      Precedes (sortReferences (withoutSelf (referencesOf referenced tables))) r t := by
    intro t _ r hr himports hback
    obtain ⟨c, hc, hrc⟩ := exists_mem_distinctNames hr
    rw [← tables_referencesOf referenced tables] at hc
    obtain ⟨entry, hentry, rfl⟩ := List.mem_map.1 hc
    exact precedes_sortReferences (imports_withoutSelf.2 himports) ⟨entry, hentry, hrc⟩
      fun hpath => hback (path_of_path_withoutSelf hpath)
  refine ⟨_, outcome_sortTables imports referenced tables hread s, hfirst, fun hacyclic t ht r hr himports => ?_⟩
  exact hfirst t ht r hr himports fun hpath => hacyclic t (.cons himports hpath)

/-- A table that imports one of two tables which import each other. -/
def besideCycle : String → List String
  | "Invoice" => ["CUSTOMER", "invoice", "Outside"]
  | "customer" => ["Region"]
  | "Region" => ["Customer"]
  | _ => []

theorem sortTables_imports_first_besideCycle :
    ∃ order, ((sortTables (fun t => pure (besideCycle t)) ["Invoice", "customer", "Region"]).result {}).1 =
      .ok order ∧ Precedes order "customer" "Invoice" := by
  obtain ⟨order, horder, hfirst, _⟩ := sortTables_imports_first (fun t => pure (besideCycle t)) besideCycle
    ["Invoice", "customer", "Region"] (fun _ _ _ => rfl) {}
  have hall : referencesOf besideCycle ["Invoice", "customer", "Region"] =
      [("Invoice", ["CUSTOMER", "invoice", "Outside"]), ("customer", ["Region"]), ("Region", ["Customer"])] := by
    decide
  have himports : Imports (referencesOf besideCycle ["Invoice", "customer", "Region"]) "Invoice" "customer" :=
    ⟨("Invoice", ["CUSTOMER", "invoice", "Outside"]), by decide, by decide, ⟨"CUSTOMER", by decide, by decide⟩,
      by decide⟩
  refine ⟨order, horder, hfirst _ (by decide) _ (by decide) himports fun hpath => ?_⟩
  -- no import leads from another table to the invoices
  have hleft : sameName "Invoice" "Invoice" = false := by
    refine hpath.keeps (S := fun a => sameName "Invoice" a = false) (fun a b himports ha => ?_) (by decide)
    obtain ⟨entry, hentry, hea, ⟨r, hr, hrb⟩, _⟩ := himports
    have hr' : r = "Region" ∨ r = "Customer" := by
      have hentry' : entry = ("Invoice", ["CUSTOMER", "invoice", "Outside"]) ∨ entry = ("customer", ["Region"]) ∨
          entry = ("Region", ["Customer"]) := by simpa [hall] using hentry
      rcases hentry' with rfl | rfl | rfl
      · rw [hea] at ha
        cases ha
      · exact Or.inl (List.mem_singleton.1 hr)
      · exact Or.inr (List.mem_singleton.1 hr)
    rw [← sameName_congr (sameName_refl "Invoice") hrb]
    rcases hr' with rfl | rfl <;> decide
  rw [sameName_refl] at hleft
  cases hleft

end TableDump.Schema
