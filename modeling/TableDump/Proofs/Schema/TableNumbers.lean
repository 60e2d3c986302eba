import TableDump.Proofs.Schema.GraphHistory
import TableDump.Proofs.Schema.ReferenceOrder

/-! # Numbers, children and roots by their history

What a graph answers after building steps in any order, told from the steps alone.

* A table has the place of its name among the names that were mentioned, first spellings in order (`idOf?_ofSteps`). Steps
  that follow keep it, since names are only added behind the others (`distinctNames_prefix`).
* Whatever spelling a name has, it is shown in the one of its first mention (`findName?_of_mem_distinctNames`).
* `ofSteps_tells_history`: the numbers, the number of tables, the children of each of them and the roots.
-/

namespace TableDump.Schema
open TableDump.Text
set_option autoImplicit false

/-! ## Names in order -/

theorem distinctNames_prefix (names more : List String) : distinctNames names <+: distinctNames (names ++ more) := by
  induction more using List.reverseRecOn with
  | nil => simp
  | append_singleton more t ih =>
    rw [← List.append_assoc, distinctNames_concat]
    exact ih.trans (List.prefix_append _ _)

/-- A name is found in the spelling in which it was mentioned first. -/
theorem findName?_of_mem_distinctNames {names : List String} {a r : String} (ha : a ∈ distinctNames names)
    (hr : sameName r a = true) : findName? r names = some a := by
  have hmem : a ∈ (distinctNames names).filter (sameName r) := List.mem_filter.2 ⟨ha, hr⟩
  rw [filter_sameName (pairwise_distinctNames names), find?_distinctNames] at hmem
  rw [findName?_eq]
  exact Option.mem_toList.1 hmem

theorem referrers_congr {t u : String} (h : sameName t u = true) (references : List (String × String)) :
    referrers references t = referrers references u := by
  have hsame : ∀ r, sameName r t = sameName r u := fun r => sameName_congr (sameName_refl r) h
  simp only [referrers, hsame]

/-! ## Graphs -/

namespace Graph
variable {g : Graph} {tables : List String} {references : List (String × String)}

theorem idOf?_eq_findIdx? (g : Graph) (t : String) : g.idOf? t = (g.nodes.map Node.name).findIdx? (sameName t) := by
  rw [idOf?, List.findIdx?_map]
  exact congrArg (fun p => g.nodes.findIdx? p) (funext fun n => sameName_comm n.name t)

theorem Holds.size_eq (h : g.Holds tables references) : g.size = (distinctNames tables).length := by
  rw [size, ← h.names, List.length_map]

theorem Holds.name_mem (h : g.Holds tables references) {v : Nat} (hv : v < g.size) : g.name v ∈ distinctNames tables := by
  rw [← h.names, name_eq hv]
  exact List.mem_map_of_mem (List.getElem_mem hv)

theorem Holds.exists_idOf? (h : g.Holds tables references) {t : String} (ht : ∃ u ∈ tables, sameName u t = true) :
    ∃ u, g.idOf? t = some u :=
  Option.isSome_iff_exists.1 (h.contains_iff.2 ht)

theorem children_eq_ok_iff {t : String} {children : List String} :
    g.children t = .ok children ↔ ∃ u, g.idOf? t = some u ∧ (g.childIds u).map g.name = children := by
  rw [Graph.children]
  cases g.idOf? t <;> simp

/-- The children of a table, each found by a table that refers to it. -/
theorem Holds.children_eq (h : g.Holds tables references) {t : String} {u : Nat} (hu : g.idOf? t = some u) :
    ((g.childIds u).map g.name).map some =
      (distinctNames (referrers references t)).map fun r => findName? r tables := by
  obtain ⟨hlt, hname⟩ := idOf?_eq_some hu
  have hfound : ∀ v ∈ g.childIds u, some (g.name v) = findName? (g.name v) tables := fun v hv =>
    (findName?_of_mem_distinctNames (h.name_mem (h.closed u v hv)) (sameName_refl _)).symm
  -- what is found depends on the name in small letters only, and these agree
  have hlower : (fun r => findName? r tables) = (fun small => tables.find? fun n => lower n == small) ∘ lower := rfl
  rw [← referrers_congr hname, hlower, ← List.map_map, ← h.children u hlt, List.map_map, List.map_map]
  exact List.map_congr_left hfound

theorem mem_roots_iff {n : String} : n ∈ g.roots ↔ ∃ v, v < g.size ∧ g.name v = n ∧ g.hasParent v = false := by
  simp only [roots, List.mem_map, List.mem_filter]
  constructor
  · rintro ⟨node, ⟨hnode, hparent⟩, rfl⟩
    obtain ⟨v, hv, rfl⟩ := List.getElem_of_mem hnode
    refine ⟨v, hv, name_eq hv, ?_⟩
    simpa [hasParent, hv] using hparent
  · rintro ⟨v, hv, rfl, hparent⟩
    have hv' : v < g.nodes.length := hv
    refine ⟨g.nodes[v], ⟨List.getElem_mem hv', ?_⟩, (name_eq hv').symm⟩
    simpa [hasParent, hv'] using hparent

theorem Holds.roots_sublist (h : g.Holds tables references) : g.roots.Sublist (distinctNames tables) := by
  rw [← h.names]
  exact List.filter_sublist.map Node.name

theorem Holds.idOf?_name (h : g.Holds tables references) {u : Nat} (hu : u < g.size) : g.idOf? (g.name u) = some u := by
  have hcontains := Graph.contains_iff.2 ⟨u, hu, sameName_refl (g.name u)⟩
  obtain ⟨v, hv⟩ := Option.isSome_iff_exists.1 hcontains
  obtain ⟨hlt, hname⟩ := idOf?_eq_some hv
  rw [hv, eq_of_sameName h.wellFormed hlt hu hname]

/-- A table is a root just when it is no child of any table. -/
theorem Holds.mem_roots_iff (h : g.Holds tables references) {n : String} : n ∈ g.roots ↔
    n ∈ distinctNames tables ∧ ∀ t children, g.children t = .ok children → n ∉ children := by
  rw [Graph.mem_roots_iff]
  constructor
  · rintro ⟨v, hv, rfl, hparent⟩
    refine ⟨h.name_mem hv, fun t children hchildren hmem => ?_⟩
    obtain ⟨u, -, rfl⟩ := children_eq_ok_iff.1 hchildren
    obtain ⟨w, hw, hname⟩ := List.mem_map.1 hmem
    have heq : w = v := eq_of_sameName h.wellFormed (h.closed u w hw) hv (hname ▸ sameName_refl _)
    have hmarked := (h.hasParent_iff v).2 ⟨u, heq ▸ hw⟩
    rw [hparent] at hmarked
    cases hmarked
  · rintro ⟨hn, hchild⟩
    rw [← h.names] at hn
    obtain ⟨node, hnode, rfl⟩ := List.mem_map.1 hn
    obtain ⟨v, hv, rfl⟩ := List.getElem_of_mem hnode
    refine ⟨v, hv, name_eq hv, Bool.eq_false_iff.2 fun hmarked => ?_⟩
    obtain ⟨u, hedge⟩ := (h.hasParent_iff v).1 hmarked
    refine hchild (g.name u) _ (children_eq_ok_iff.2 ⟨u, h.idOf?_name (lt_of_edge hedge), rfl⟩) ?_
    rw [← name_eq hv]
    exact List.mem_map_of_mem hedge

/-! ## Numbers -/

theorem ofSteps_concat (steps : List GraphStep) (t : String) :
    ofSteps (steps ++ [.table t]) = ((ofSteps steps).addTable t).1 := List.foldl_concat _ _ _ _

theorem mentioned_concat (steps : List GraphStep) (t : String) : mentioned (steps ++ [.table t]) = mentioned steps ++ [t] :=
  List.flatMap_append

theorem idOf?_ofSteps (steps : List GraphStep) (t : String) :
    (ofSteps steps).idOf? t = (distinctNames (mentioned steps)).findIdx? (sameName t) := by
  rw [idOf?_eq_findIdx?, (holds_ofSteps steps).names]

theorem number_ofSteps (steps : List GraphStep) (t : String) :
    (distinctNames (mentioned steps ++ [t])).findIdx? (sameName t) = some ((ofSteps steps).addTable t).2 := by
  rw [← mentioned_concat, ← idOf?_ofSteps, ofSteps_concat, idOf?_addTable]

/-- The number of a name stays, whatever is mentioned after it. -/
theorem number_ofSteps_later (steps later : List GraphStep) {t u : String} (h : sameName t u = true) :
    ((ofSteps (steps ++ .table t :: later)).addTable u).2 = ((ofSteps steps).addTable t).2 := by
  have hsame : sameName u = sameName t := funext fun v => sameName_congr (sameName_symm h) (sameName_refl v)
  have hmentioned : mentioned (steps ++ .table t :: later) ++ [u] = (mentioned steps ++ [t]) ++ (mentioned later ++ [u]) := by
    simp [mentioned, GraphStep.tables]
  have hnow := number_ofSteps (steps ++ .table t :: later) u
  obtain ⟨rest, hrest⟩ := distinctNames_prefix (mentioned steps ++ [t]) (mentioned later ++ [u])
  rw [hmentioned, ← hrest, hsame, List.findIdx?_append, number_ofSteps steps t] at hnow
  exact (Option.some.inj hnow).symm

/-! ## Answers -/

/-- Tables are numbered by their first mention and keep their numbers. Each shows the other tables that refer to it, in the
order in which they first did, and the roots are those that no table shows. -/
theorem ofSteps_tells_history (steps : List GraphStep) :
    (∀ t, (distinctNames (mentioned steps ++ [t])).findIdx? (sameName t) = some ((ofSteps steps).addTable t).2 ∧
      ∀ later u, sameName t u = true →
        ((ofSteps (steps ++ .table t :: later)).addTable u).2 = ((ofSteps steps).addTable t).2) ∧
    (ofSteps steps).size = (distinctNames (mentioned steps)).length ∧
    (∀ t, (∃ u ∈ mentioned steps, sameName u t = true) → ∃ children, (ofSteps steps).children t = .ok children ∧
      children.map some = (distinctNames (referrers (recorded steps) t)).map fun r => findName? r (mentioned steps)) ∧
    (ofSteps steps).roots.Sublist (distinctNames (mentioned steps)) ∧
    ∀ n, n ∈ (ofSteps steps).roots ↔
      n ∈ distinctNames (mentioned steps) ∧ ∀ t children, (ofSteps steps).children t = .ok children → n ∉ children := by
  have hholds := holds_ofSteps steps
  refine ⟨fun t => ⟨number_ofSteps steps t, fun later u h => number_ofSteps_later steps later h⟩, hholds.size_eq, ?_,
    hholds.roots_sublist, fun n => hholds.mem_roots_iff⟩
  intro t ht
  obtain ⟨u, hu⟩ := hholds.exists_idOf? ht
  exact ⟨_, children_eq_ok_iff.2 ⟨u, hu, rfl⟩, hholds.children_eq hu⟩

/-- References in mixed casing: one is repeated, one goes from a table to itself, and two tables are first mentioned by one. -/
def mixedSteps : List GraphStep :=
  [.reference "Customers" "Orders", .table "ORDERS", .reference "orders" "Orders", .reference "CUSTOMERS" "Items",
    .reference "customers" "ORDERS", .reference "Regions" "customers"]

theorem ofSteps_tells_history_mixed :
    (∀ later, ((ofSteps (mixedSteps ++ .table "items" :: later)).addTable "ITEMS").2 = 2) ∧
    (ofSteps mixedSteps).size = 4 ∧
    (∃ children, (ofSteps mixedSteps).children "cusTOMERS" = .ok children ∧
      children.map some = [some "Orders", some "Items"]) ∧
    (ofSteps mixedSteps).roots = ["Regions"] ∧
    ∀ t children, (ofSteps mixedSteps).children t = .ok children → "Regions" ∉ children := by
  obtain ⟨hnumber, hsize, hchildren, -, hroots⟩ := ofSteps_tells_history mixedSteps
  have hnames : distinctNames (mentioned mixedSteps) = ["Customers", "Orders", "Items", "Regions"] := by decide
  have hitems : (ofSteps mixedSteps).addTable "items" = (ofSteps mixedSteps, 2) := by decide
  have hroot : (ofSteps mixedSteps).roots = ["Regions"] := by decide
  refine ⟨fun later => ?_, by rw [hsize, hnames]; rfl, ?_, hroot, ((hroots "Regions").1 ?_).2⟩
  · rw [(hnumber "items").2 later "ITEMS" (by decide), hitems]
  · obtain ⟨children, hok, hshown⟩ := hchildren "cusTOMERS" ⟨"customers", by decide, by decide⟩
    exact ⟨children, hok, hshown.trans (by decide)⟩
  · rw [hroot]
    exact List.mem_singleton_self _

end Graph
end TableDump.Schema
