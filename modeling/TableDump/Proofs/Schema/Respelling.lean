import TableDump.Export.Settings
import TableDump.Proofs.RunPairs
import TableDump.Proofs.Schema.ReferenceOrder
import TableDump.Proofs.Text.LetterCase

/-! # Tables under other spellings

* `Respelling`: other spellings of tables and columns, which change the case of ASCII letters only.
* `Graph.Like`: graphs that differ in how their tables are spelled. They are built by steps that differ in
  nothing else, and are traversed in the same way (`Graph.Like.traversal_eq`).
* Tables under other spellings are sorted as they are under their own (`sortReferences_respelled`,
  `Respelling.parallel_sortTables`).
* So are the tables that settings allow of a listing, in whatever order it lists them
  (`Respelling.discover_eq`).
-/

namespace TableDump
open TableDump.Schema TableDump.Text
set_option autoImplicit false

structure Respelling where
  table : String → String
  column : String → String → String
  tableLetters : ∀ t, SameLetters t (table t)
  columnLetters : ∀ t c, SameLetters c (column t c)

namespace Respelling

/-- All names in capitals. -/
def inCapitals : Respelling where
  table := capitals
  column _ := capitals
  tableLetters := sameLetters_capitals
  columnLetters _ := sameLetters_capitals

variable (ρ : Respelling)

theorem lower_table (t : String) : lower (ρ.table t) = lower t := (ρ.tableLetters t).lower_eq.symm

theorem sameName_table (t : String) : sameName t (ρ.table t) = true := sameName_iff.2 (ρ.lower_table t).symm

theorem sameName_column (t c : String) : sameName c (ρ.column t c) = true := sameName_iff.2 (ρ.columnLetters t c).lower_eq

end Respelling

namespace Schema

/-! ## Names in other letter case -/

theorem eq_of_sameName_of_mem {names : List String} (hdistinct : names.Pairwise fun a b => sameName a b = false) {t u : String}
    (ht : t ∈ names) (hu : u ∈ names) (h : sameName t u = true) : t = u := by
  have hsymm : Std.Symm fun a b => sameName a b = false := ⟨fun a b hab => (sameName_comm b a).trans hab⟩
  by_contra hne
  rw [hdistinct.forall ht hu hne] at h
  cases h

def SameNames : List String → List String → Prop := List.Forall₂ fun a b => sameName a b = true

theorem SameNames.filter_ne {names names' : List String} (h : SameNames names names') {t t' : String}
    (ht : sameName t t' = true) :
    SameNames (names.filter fun u => !sameName t u) (names'.filter fun u => !sameName t' u) :=
  List.rel_filter (fun {a b} hab => by simp only [sameName_congr ht hab]) h

theorem SameNames.distinctNames {names names' : List String} (h : SameNames names names') :
    SameNames (distinctNames names) (distinctNames names') := by
  induction h with
  | nil => exact .nil
  | cons ht _ ih => exact .cons ht (SameNames.filter_ne ih ht)

theorem findName?_map {f : String → String} (hf : ∀ t, sameName t (f t) = true) {t t' : String} (h : sameName t t' = true)
    (names : List String) : findName? t' (names.map f) = (findName? t names).map f := by
  rw [findName?, findName?, List.find?_map]
  exact congrArg (Option.map f) (List.find?_congr fun u _ => sameName_congr (sameName_symm (hf u)) (sameName_symm h))

theorem mem_of_mem_sortReferences {references : References} {t : String} (h : t ∈ sortReferences references) :
    t ∈ references.map Prod.fst := by
  obtain ⟨name, -, hfound⟩ := List.mem_filterMap.1 h
  exact List.mem_of_find?_eq_some hfound

/-! ## Graphs -/

structure Node.Like (n n' : Node) : Prop where
  name : sameName n.name n'.name = true
  children : n.children = n'.children
  hasParent : n.hasParent = n'.hasParent

namespace Graph

def Like (g g' : Graph) : Prop := List.Forall₂ Node.Like g.nodes g'.nodes

theorem findIdx?_eq_of_forall₂ {α β : Type} {R : α → β → Prop} {p : α → Bool} {q : β → Bool} {xs : List α} {ys : List β}
    (h : List.Forall₂ R xs ys) (hpq : ∀ a b, R a b → p a = q b) : xs.findIdx? p = ys.findIdx? q := by
  induction h with
  | nil => rfl
  | cons hab _ ih => rw [List.findIdx?_cons, List.findIdx?_cons, hpq _ _ hab, ih]

namespace Like
variable {g g' : Graph}

theorem map_eq (h : g.Like g') {α : Type} {f : Node → α} (hf : ∀ n n' : Node, n.Like n' → f n = f n') :
    g.nodes.map f = g'.nodes.map f := by
  rw [← List.forall₂_eq_eq_eq, List.forall₂_map_left_iff, List.forall₂_map_right_iff]
  exact h.imp hf

theorem size_eq (h : g.Like g') : g.size = g'.size := h.length_eq

theorem childIds_eq (h : g.Like g') : g.childIds = g'.childIds := by
  funext id
  rw [childIds, childIds, ← List.getElem?_map, ← List.getElem?_map, h.map_eq fun _ _ hn => hn.children]

theorem hasParent_eq (h : g.Like g') : g.hasParent = g'.hasParent := by
  funext id
  rw [hasParent, hasParent, ← List.getElem?_map, ← List.getElem?_map, h.map_eq fun _ _ hn => hn.hasParent]

theorem sameName_name (h : g.Like g') (id : Nat) : sameName (g.name id) (g'.name id) = true := by
  have hlower := h.map_eq fun n n' hn => sameName_iff.1 hn.name
  have hat := congrArg (fun names : List String => names[id]?.getD (lower "")) hlower
  simp only [List.getElem?_map] at hat
  rw [sameName_iff, name, name]
  cases hn : g.nodes[id]? <;> cases hn' : g'.nodes[id]? <;> simp_all

theorem idOf?_eq (h : g.Like g') {t t' : String} (ht : sameName t t' = true) : g.idOf? t = g'.idOf? t' :=
  findIdx?_eq_of_forall₂ h fun _ _ hn => sameName_congr hn.name ht

/-! ### Building -/

theorem addTable (h : g.Like g') {t t' : String} (ht : sameName t t' = true) :
    (g.addTable t).1.Like (g'.addTable t').1 ∧ (g.addTable t).2 = (g'.addTable t').2 := by
  rw [Graph.addTable, Graph.addTable, h.idOf?_eq ht]
  cases g'.idOf? t' with
  | some id => exact ⟨h, rfl⟩
  | none => exact ⟨List.rel_append h (.cons ⟨ht, rfl, rfl⟩ .nil), h.size_eq⟩

theorem modify {nodes nodes' : List Node} (h : List.Forall₂ Node.Like nodes nodes') {f : Node → Node}
    (hf : ∀ n n' : Node, n.Like n' → (f n).Like (f n')) (id : Nat) :
    List.Forall₂ Node.Like (nodes.modify id f) (nodes'.modify id f) := by
  induction h generalizing id with
  | nil =>
    cases id <;> exact .nil
  | cons hn hrest ih =>
    cases id with
    | zero => exact .cons (hf _ _ hn) hrest
    | succ id => exact .cons hn (ih id)

theorem link (h : g.Like g') (parent child : Nat) : (g.link parent child).Like (g'.link parent child) := by
  refine modify (modify h (fun n n' hn => ?_) parent) (fun n n' hn => ?_) child
  · rw [Node.addChild, Node.addChild, hn.children]
    split
    · exact hn
    · exact ⟨hn.name, rfl, hn.hasParent⟩
  · exact ⟨hn.name, hn.children, rfl⟩

theorem addReference (h : g.Like g') {a a' b b' : String} (ha : sameName a a' = true) (hb : sameName b b' = true) :
    (g.addReference a b).Like (g'.addReference a' b') := by
  obtain ⟨hparent, hparentId⟩ := h.addTable ha
  obtain ⟨hchild, hchildId⟩ := hparent.addTable hb
  simp only [Graph.addReference, hparentId, hchildId]
  split
  · exact hchild
  · exact hchild.link _ _

/-! ### Traversing -/

theorem step?_eq (h : g.Like g') (t : Traversal) : t.step? g = t.step? g' := by
  simp only [Traversal.step?, Traversal.enter, h.childIds_eq]

theorem run_eq (h : g.Like g') (t : Traversal) : t.run g = t.run g' := by
  fun_induction Traversal.run g t with
  | case1 t hnone =>
    rw [h.step?_eq] at hnone
    rw [Traversal.run]
    split
    · rfl
    · next hsome => cases hnone.symm.trans hsome
  | case2 t next hsome ih =>
    rw [h.step?_eq] at hsome
    rw [ih, Traversal.run.eq_def g' t]
    split
    · next hnone => cases hnone.symm.trans hsome
    · next hsome' => rw [Option.some.inj (hsome.symm.trans hsome')]

theorem startAt_eq (h : g.Like g') : Traversal.startAt g = Traversal.startAt g' := by
  funext t node
  simp only [Traversal.startAt, Traversal.enter, h.childIds_eq, h.run_eq]

theorem traversal_eq (h : g.Like g') : g.traversal = g'.traversal := by
  simp only [traversal, startNodes, h.size_eq, h.hasParent_eq, h.startAt_eq]

theorem order (h : g.Like g') : SameNames g.order g'.order := by
  rw [Graph.order, Graph.order, h.traversal_eq, SameNames, List.forall₂_map_left_iff, List.forall₂_map_right_iff,
    List.forall₂_same]
  exact fun id _ => h.sameName_name id

end Like
end Graph

/-! ## Sorted references -/

/-- The references of a table, and those of the table under another spelling. -/
def Respelled (f : String → String) (entry entry' : String × List String) : Prop :=
  entry'.1 = f entry.1 ∧ SameNames entry.2 entry'.2

section
variable {f : String → String} (hf : ∀ t, sameName t (f t) = true)
include hf

theorem Respelled.sameName {entry entry' : String × List String} (h : Respelled f entry entry') :
    sameName entry.1 entry'.1 = true := h.1 ▸ hf entry.1

theorem like_referenceGraph {references references' : References} (h : List.Forall₂ (Respelled f) references references') :
    (referenceGraph references).Like (referenceGraph references') := by
  have hempty : Graph.Like {} {} := .nil
  have hnodes := List.rel_foldl (P := Graph.Like) (R := Respelled f) (fun _ _ hg _ _ hentry =>
    List.rel_foldl (fun _ _ hg _ _ hr => (hg.addTable hr).1) (hg.addTable (Respelled.sameName hf hentry)).1 hentry.2) hempty h
  exact List.rel_foldl (P := Graph.Like) (R := Respelled f) (fun _ _ hg _ _ hentry =>
    List.rel_foldl (fun _ _ hg _ _ hr => hg.addReference hr (Respelled.sameName hf hentry)) hg hentry.2) hnodes h

theorem filterMap_findName? {order order' : List String} (horder : SameNames order order') (names : List String) :
    order'.filterMap (findName? · (names.map f)) = (order.filterMap (findName? · names)).map f := by
  induction horder with
  | nil => rfl
  | cons ht _ ih =>
    rw [List.filterMap_cons, List.filterMap_cons, findName?_map hf ht, ih]
    cases findName? _ names <;> rfl

theorem sortReferences_respelled {references references' : References}
    (h : List.Forall₂ (Respelled f) references references') :
    sortReferences references' = (sortReferences references).map f := by
  have hnames : references'.map Prod.fst = (references.map Prod.fst).map f := by
    rw [List.map_map, eq_comm, ← List.forall₂_eq_eq_eq, List.forall₂_map_left_iff, List.forall₂_map_right_iff]
    exact h.imp fun _ _ hentry => hentry.1.symm
  rw [sortReferences, sortReferences, hnames]
  exact filterMap_findName? hf (like_referenceGraph hf h).order _

end
end Schema

namespace Respelling
variable (ρ : Respelling)

theorem distinctNames_table (tables : List String) :
    distinctNames (tables.map ρ.table) = (distinctNames tables).map ρ.table := by
  induction tables with
  | nil => rfl
  | cons t tables ih =>
    have hkept : (distinctNames tables).filter ((fun u => !sameName (ρ.table t) u) ∘ ρ.table) =
        (distinctNames tables).filter fun u => !sameName t u := by
      refine List.filter_congr fun u _ => ?_
      simp only [Function.comp_apply, sameName_congr (ρ.sameName_table t) (ρ.sameName_table u)]
    rw [List.map_cons, distinctNames, distinctNames, List.map_cons, ih, List.filter_map, hkept]

/-- Tables under other spellings are sorted into the same order. -/
theorem parallel_sortTables {imports imports' : String → Run (List String)} {tables : List String}
    (h : ∀ t ∈ tables, Run.Parallel SameNames (imports t) (imports' (ρ.table t))) :
    Run.Parallel (fun order order' => order' = order.map ρ.table ∧ ∀ t ∈ order, t ∈ tables) (sortTables imports tables)
      (sortTables imports' (tables.map ρ.table)) := by
  have hread : ∀ t ∈ tables, Run.Parallel (fun entry entry' => entry.1 ∈ tables ∧ Respelled ρ.table entry entry')
      (readReferences imports t) (readReferences imports' (ρ.table t)) := by
    refine fun t ht => (h t ht).bind fun names names' hnames => Run.parallel_pure ⟨ht, rfl, ?_⟩
    refine List.rel_filter (fun {a b} hab => ?_) hnames
    simp only [sameName_congr hab (ρ.sameName_table t)]
  have hall : List.Forall₂ (fun t t' => Run.Parallel (fun entry entry' => entry.1 ∈ tables ∧ Respelled ρ.table entry entry')
      (readReferences imports t) (readReferences imports' t')) (distinctNames tables) ((distinctNames tables).map ρ.table) := by
    rw [List.forall₂_map_right_iff, List.forall₂_same]
    exact fun t ht => hread t (mem_of_mem_distinctNames ht)
  rw [sortTables, sortTables, ρ.distinctNames_table]
  refine (Run.parallel_mapM hall).bind fun references references' hreferences => Run.parallel_pure ⟨?_, fun t ht => ?_⟩
  · exact sortReferences_respelled ρ.sameName_table (hreferences.imp fun _ _ => And.right)
  · obtain ⟨entry, hentry, rfl⟩ := List.mem_map.1 (mem_of_mem_sortReferences ht)
    obtain ⟨entry', -, hmem, -⟩ := exists_of_forall₂ hreferences.flip hentry
    exact hmem

end Respelling

/-! ## Allowed tables -/

section
variable {α : Type} {f : α → Except Fault Bool} {xs : List α}

theorem filterAuxM_ok {p : α → Bool} (h : ∀ a ∈ xs, f a = .ok (p a)) (done : List α) :
    xs.filterAuxM f done = .ok ((xs.filter p).reverse ++ done) := by
  induction xs generalizing done with
  | nil => rfl
  | cons a xs ih =>
    obtain ⟨ha, hrest⟩ := List.forall_mem_cons.1 h
    rw [List.filterAuxM, ha]
    refine (ih hrest _).trans ?_
    cases hp : p a <;> simp [hp]

theorem filterM_ok {p : α → Bool} (h : ∀ a ∈ xs, f a = .ok (p a)) : xs.filterM f = .ok (xs.filter p) := by
  rw [List.filterM, filterAuxM_ok h, List.append_nil]
  exact congrArg Except.ok (List.reverse_reverse _)

/-- Where all faults are one fault, it ends the filtering. -/
theorem filterAuxM_error {fault : Fault} (hone : ∀ a ∈ xs, ∀ g, f a = .error g → g = fault)
    (h : ∃ a ∈ xs, f a = .error fault) (done : List α) : xs.filterAuxM f done = .error fault := by
  induction xs generalizing done with
  | nil =>
    obtain ⟨a, ha, -⟩ := h
    cases ha
  | cons a xs ih =>
    obtain ⟨ha, hrest⟩ := List.forall_mem_cons.1 hone
    rw [List.filterAuxM]
    cases hfa : f a with
    | error g => exact congrArg Except.error (ha g hfa)
    | ok b =>
      obtain ⟨a', ha', herror⟩ := h
      rcases List.mem_cons.1 ha' with rfl | ha'
      · cases hfa.symm.trans herror
      · exact ih hrest ⟨a', ha', herror⟩ _

theorem filterM_error {fault : Fault} (hone : ∀ a ∈ xs, ∀ g, f a = .error g → g = fault)
    (h : ∃ a ∈ xs, f a = .error fault) : xs.filterM f = .error fault := by
  rw [List.filterM, filterAuxM_error hone h]
  rfl

end

namespace Settings
variable {settings : Settings}

/-- Only a prefix can be at fault, whatever name it is looked for in. -/
theorem eq_of_allowsUpper_error {name name' : String} {prefixes : List Json} {f g : Fault}
    (hf : allowsUpper name prefixes = .error f) (hg : allowsUpper name' prefixes = .error g) : f = g := by
  induction prefixes with
  | nil => cases hf
  | cons p rest ih =>
    rw [allowsUpper] at hf hg
    cases htext : p.textFor "upper" with
    | error h =>
      rw [htext] at hf hg
      cases hf
      cases hg
      rfl
    | ok text =>
      simp only [htext, bind, Except.bind] at hf hg
      split at hf
      · cases hf
      · split at hg
        · cases hg
        · exact ih hf hg

theorem eq_of_allows_error {t t' : String} {f g : Fault} (hf : settings.allows t = .error f)
    (hg : settings.allows t' = .error g) : f = g := by
  rw [allows] at hf hg
  cases hitems : settings.excludedPrefixes.items with
  | error h =>
    rw [hitems] at hf hg
    cases hf
    cases hg
    rfl
  | ok prefixes =>
    rw [hitems] at hf hg
    exact eq_of_allowsUpper_error hf hg

def isAllowed (settings : Settings) (t : String) : Bool :=
  match settings.allows t with
  | .ok b => b
  | .error _ => false

/-- Either some prefix is at fault, or the tables are filtered. -/
theorem allowed_cases (settings : Settings) (listed : List String) :
    (∃ f, (∃ t ∈ listed, settings.allows t = .error f) ∧ settings.allowed listed = .error f) ∨
      (∀ t ∈ listed, settings.allows t = .ok (settings.isAllowed t)) ∧
        settings.allowed listed = .ok (listed.filter settings.isAllowed) := by
  by_cases hfault : ∃ t ∈ listed, ∃ f, settings.allows t = .error f
  · obtain ⟨t, ht, f, hf⟩ := hfault
    exact .inl ⟨f, ⟨t, ht, hf⟩, filterM_error (fun u _ g hg => eq_of_allows_error hg hf) ⟨t, ht, hf⟩⟩
  · have hallows : ∀ t ∈ listed, settings.allows t = .ok (settings.isAllowed t) := by
      intro t ht
      cases hf : settings.allows t with
      | ok b => rw [isAllowed, hf]
      | error f => exact absurd ⟨t, ht, f, hf⟩ hfault
    exact .inr ⟨hallows, filterM_ok hallows⟩

theorem mem_of_discover {listed tables : List String} (h : settings.discover listed = .ok tables) {t : String}
    (ht : t ∈ tables) : t ∈ listed ∧ settings.allows t = .ok true := by
  rw [discover] at h
  obtain ⟨f, -, hallowed⟩ | ⟨hallows, hallowed⟩ := settings.allowed_cases listed
  · rw [hallowed] at h
    cases h
  · rw [hallowed] at h
    cases h
    obtain ⟨hlisted, hkept⟩ := List.mem_filter.1 (mem_of_mem_distinctNames ((List.mergeSort_perm _ _).mem_iff.1 ht))
    exact ⟨hlisted, hkept ▸ hallows t hlisted⟩

theorem pairwise_sortByLower (names : List String) :
    (sortByLower names).Pairwise fun a b => decide (lower a ≤ lower b) = true := by
  refine List.pairwise_mergeSort (fun a b c hab hbc => ?_) (fun a b => ?_) names
  · exact decide_eq_true (String.le_trans (of_decide_eq_true hab) (of_decide_eq_true hbc))
  · simpa using String.le_total (lower a) (lower b)

end Settings

namespace Respelling
variable (ρ : Respelling) {settings : Settings}

theorem allows_table (t : String) : settings.allows (ρ.table t) = settings.allows t := by
  rw [Settings.allows, Settings.allows, (ρ.tableLetters t).upper_eq]

/-- Tables of different names are sorted in one way, whatever order they come in. -/
theorem sortByLower_eq {names names' : List String} (hdistinct : names.Pairwise fun a b => sameName a b = false)
    (h : names'.Perm (names.map ρ.table)) :
    Settings.sortByLower names' = (Settings.sortByLower names).map ρ.table := by
  have hperm : (Settings.sortByLower names').Perm ((Settings.sortByLower names).map ρ.table) :=
    ((List.mergeSort_perm _ _).trans h).trans ((List.mergeSort_perm _ _).map _).symm
  refine List.Perm.eq_of_pairwise ?_ (Settings.pairwise_sortByLower names') ?_ hperm
  · intro a b ha hb hab hba
    have hsame : lower a = lower b := String.le_antisymm (of_decide_eq_true hab) (of_decide_eq_true hba)
    obtain ⟨t, ht, rfl⟩ := List.mem_map.1 (h.mem_iff.1 ((List.mergeSort_perm _ _).mem_iff.1 ha))
    obtain ⟨u, hu, rfl⟩ := List.mem_map.1 hb
    rw [ρ.lower_table, ρ.lower_table] at hsame
    rw [eq_of_sameName_of_mem hdistinct ht ((List.mergeSort_perm _ _).mem_iff.1 hu) (sameName_iff.2 hsame)]
  · refine List.pairwise_map.2 ((Settings.pairwise_sortByLower names).imp fun {a b} hab => ?_)
    rw [ρ.lower_table, ρ.lower_table]
    exact hab

theorem isAllowed_table (t : String) : settings.isAllowed (ρ.table t) = settings.isAllowed t := by
  rw [Settings.isAllowed, Settings.isAllowed, ρ.allows_table]

theorem allowed_cases (settings : Settings) {listed listed' : List String} (h : listed'.Perm (listed.map ρ.table)) :
    (∃ f, settings.allowed listed = .error f ∧ settings.allowed listed' = .error f) ∨
      settings.allowed listed = .ok (listed.filter settings.isAllowed) ∧
        settings.allowed listed' = .ok (listed'.filter settings.isAllowed) := by
  obtain ⟨f, ⟨t, ht, hf⟩, hallowed⟩ | ⟨hallows, hallowed⟩ := settings.allowed_cases listed
  · obtain ⟨f', ⟨t', -, hf'⟩, hallowed'⟩ | ⟨hallows', -⟩ := settings.allowed_cases listed'
    · exact .inl ⟨f, hallowed, Settings.eq_of_allows_error hf hf' ▸ hallowed'⟩
    · have ht' := hallows' _ (h.mem_iff.2 (List.mem_map_of_mem ht))
      rw [ρ.allows_table, hf] at ht'
      cases ht'
  · obtain ⟨f', ⟨t', ht', hf'⟩, -⟩ | ⟨-, hallowed'⟩ := settings.allowed_cases listed'
    · obtain ⟨t, ht, rfl⟩ := List.mem_map.1 (h.mem_iff.1 ht')
      rw [ρ.allows_table, hallows t ht] at hf'
      cases hf'
    · exact .inr ⟨hallowed, hallowed'⟩

/-- A listing under other spellings, in any order, gives the same tables in the same order. -/
theorem discover_eq {listed listed' : List String} (hdistinct : listed.Pairwise fun a b => sameName a b = false)
    (h : listed'.Perm (listed.map ρ.table)) :
    settings.discover listed' = (settings.discover listed).map (List.map ρ.table) := by
  rw [Settings.discover, Settings.discover]
  obtain ⟨f, hf, hf'⟩ | ⟨hallowed, hallowed'⟩ := ρ.allowed_cases settings h
  · rw [hf, hf']
    rfl
  · have hkept : (listed'.filter settings.isAllowed).Perm ((listed.filter settings.isAllowed).map ρ.table) := by
      have hfilter := h.filter settings.isAllowed
      rwa [List.filter_map, show settings.isAllowed ∘ ρ.table = settings.isAllowed from funext ρ.isAllowed_table] at hfilter
    have hpairwise := hdistinct.filter settings.isAllowed
    have hpairwise' : ((listed.filter settings.isAllowed).map ρ.table).Pairwise fun a b => sameName a b = false := by
      refine List.pairwise_map.2 (hpairwise.imp fun {a b} hab => ?_)
      rw [← sameName_congr (ρ.sameName_table a) (ρ.sameName_table b), hab]
    have hpairwise'' := hpairwise'.perm hkept.symm fun {a b} hab => (sameName_comm b a).trans hab
    rw [hallowed, hallowed', Except.map, Except.map, Except.map, distinctNames_eq_self hpairwise,
      distinctNames_eq_self hpairwise'', ρ.sortByLower_eq hpairwise hkept]

end Respelling
end TableDump
