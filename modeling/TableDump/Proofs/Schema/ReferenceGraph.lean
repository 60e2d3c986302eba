import TableDump.Proofs.Schema.TraversalInvariant
import TableDump.Schema.Order

/-! # What a reference graph holds

* `Graph.WellFormed`: no two nodes of one name, and children that are nodes.
* `Graph.HasEdge`: an edge between two tables, by their names in any letter case.
* `Graph.Adds`: what building steps add to a graph. Adding a table adds its name and no edge, adding a
  reference adds an edge unless the table refers to itself, and a fold adds what its steps add.
* The graph of some references holds the tables that they mention (`contains_referenceGraph`) and what
  they import (`hasEdge_referenceGraph`); its chains of edges are chains of imports (`path_of_reaches`).
-/

namespace TableDump.Schema
open TableDump.Text
set_option autoImplicit false

theorem sameName_symm {a b : String} (h : sameName a b = true) : sameName b a = true :=
  sameName_comm a b ▸ h

theorem sameName_congr {a a' b b' : String} (ha : sameName a a' = true) (hb : sameName b b' = true) :
    sameName a b = sameName a' b' := by
  simp only [sameName, sameName_iff.1 ha, sameName_iff.1 hb]

namespace Graph

structure WellFormed (g : Graph) : Prop where
  distinct : (g.nodes.map Node.name).Pairwise fun a b => sameName a b = false
  closed : g.Closed

/-- `b` refers to `a`. -/
def HasEdge (g : Graph) (a b : String) : Prop :=
  ∃ u v, g.Edge u v ∧ sameName (g.name u) a = true ∧ sameName (g.name v) b = true

theorem wellFormed_empty : WellFormed {} := ⟨List.Pairwise.nil, fun u v h => by simp [Edge, childIds] at h⟩

theorem lt_of_edge {g : Graph} {u v : Nat} (h : g.Edge u v) : u < g.size := by
  refine Nat.lt_of_not_le fun hu => ?_
  simp [Edge, childIds, List.getElem?_eq_none hu] at h

/-! ## Numbers and names -/

theorem name_eq {g : Graph} {i : Nat} (hi : i < g.nodes.length) : g.name i = g.nodes[i].name := by
  rw [name, List.getElem?_eq_getElem hi]
  rfl

theorem eq_of_sameName {g : Graph} (hg : g.WellFormed) {i j : Nat} (hi : i < g.nodes.length)
    (hj : j < g.nodes.length) (h : sameName (g.name i) (g.name j) = true) : i = j := by
  have hdistinct := List.pairwise_iff_getElem.1 hg.distinct
  simp only [List.length_map, List.getElem_map] at hdistinct
  rw [name_eq hi, name_eq hj] at h
  rcases Nat.lt_trichotomy i j with hij | hij | hij
  · rw [hdistinct i j hi hj hij] at h
    cases h
  · exact hij
  · rw [sameName_comm, hdistinct j i hj hi hij] at h
    cases h

theorem idOf?_eq_some {g : Graph} {t : String} {i : Nat} (h : g.idOf? t = some i) :
    i < g.size ∧ sameName (g.name i) t = true := by
  obtain ⟨hlt, hname, _⟩ := List.findIdx?_eq_some_iff_getElem.1 h
  exact ⟨hlt, by rw [name_eq hlt]; exact hname⟩

theorem contains_iff_exists_node {g : Graph} {t : String} :
    g.contains t = true ↔ ∃ n ∈ g.nodes, sameName n.name t = true := by
  rw [contains, idOf?, List.findIdx?_isSome, List.any_eq_true]

theorem contains_iff {g : Graph} {t : String} :
    g.contains t = true ↔ ∃ i, i < g.size ∧ sameName (g.name i) t = true := by
  rw [contains_iff_exists_node]
  constructor
  · rintro ⟨n, hn, hname⟩
    obtain ⟨i, hi, rfl⟩ := List.getElem_of_mem hn
    exact ⟨i, hi, by rw [name_eq hi]; exact hname⟩
  · rintro ⟨i, hi : i < g.nodes.length, hname⟩
    rw [name_eq hi] at hname
    exact ⟨g.nodes[i], List.getElem_mem hi, hname⟩

/-! ## Adding a table -/

theorem nodes_addTable (g : Graph) (t : String) :
    (g.addTable t).1 = g ∧ g.contains t = true ∨
      (g.addTable t).1.nodes = g.nodes ++ [{ name := t }] ∧ g.contains t = false := by
  unfold addTable contains
  split
  · next id h => exact Or.inl ⟨rfl, by simp [h]⟩
  · next h => exact Or.inr ⟨rfl, by simp [h]⟩

theorem childIds_addTable (g : Graph) (t : String) (i : Nat) : (g.addTable t).1.childIds i = g.childIds i := by
  rcases nodes_addTable g t with ⟨h, _⟩ | ⟨h, _⟩
  · rw [h]
  · rw [childIds, h, List.getElem?_append]
    split
    · rfl
    · next hi =>
      rw [childIds, List.getElem?_eq_none (Nat.le_of_not_lt hi)]
      cases i - g.nodes.length <;> simp

theorem edge_addTable {g : Graph} {t : String} {u v : Nat} : (g.addTable t).1.Edge u v ↔ g.Edge u v := by
  rw [Edge, childIds_addTable, Edge]

theorem name_addTable {g : Graph} {i : Nat} (hi : i < g.size) (t : String) : (g.addTable t).1.name i = g.name i := by
  rcases nodes_addTable g t with ⟨h, _⟩ | ⟨h, _⟩
  · rw [h]
  · rw [name, h, List.getElem?_append_left hi, name]

theorem size_le_addTable (g : Graph) (t : String) : g.size ≤ (g.addTable t).1.size := by
  rw [size_addTable]
  split
  · exact Nat.le_refl _
  · exact Nat.le_succ _

theorem wellFormed_addTable {g : Graph} (hg : g.WellFormed) (t : String) : (g.addTable t).1.WellFormed := by
  refine ⟨?_, fun u v h => Nat.lt_of_lt_of_le (hg.closed u v (edge_addTable.1 h)) (size_le_addTable g t)⟩
  rcases nodes_addTable g t with ⟨h, _⟩ | ⟨h, hnew⟩
  · rw [h]
    exact hg.distinct
  · rw [h, List.map_append, List.pairwise_append]
    refine ⟨hg.distinct, List.pairwise_singleton _ _, fun a ha b hb => ?_⟩
    obtain ⟨n, hn, rfl⟩ := List.mem_map.1 ha
    obtain rfl : b = t := by simpa using hb
    have hnone : g.idOf? b = none := by simpa [contains] using hnew
    exact List.findIdx?_eq_none_iff.1 hnone n hn

/-! ## Linking two nodes -/

theorem childIds_link (g : Graph) (parent child i : Nat) : (g.link parent child).childIds i =
    (g.nodes[i]?.map fun n => if parent = i then (Node.addChild child n).children else n.children).getD [] := by
  simp only [childIds, link, List.getElem?_modify]
  cases g.nodes[i]? with
  | none => rfl
  | some n =>
    by_cases hp : parent = i <;> by_cases hc : child = i <;> simp [hp, hc]

theorem mem_addChild {child v : Nat} {n : Node} :
    v ∈ (Node.addChild child n).children ↔ v ∈ n.children ∨ v = child := by
  unfold Node.addChild
  split
  · next h =>
    refine ⟨Or.inl, fun hv => hv.elim id fun hv => ?_⟩
    rw [hv]
    exact h
  · simp

theorem edge_link {g : Graph} {parent : Nat} (hparent : parent < g.nodes.length) {child u v : Nat} :
    (g.link parent child).Edge u v ↔ g.Edge u v ∨ u = parent ∧ v = child := by
  rw [Edge, childIds_link, Edge, childIds]
  by_cases hu : parent = u
  · subst hu
    simp only [List.getElem?_eq_getElem hparent, if_true, Option.map_some, Option.getD_some, true_and]
    exact mem_addChild
  · simp [hu, Ne.symm hu]

theorem names_link (g : Graph) (parent child : Nat) :
    (g.link parent child).nodes.map Node.name = g.nodes.map Node.name := by
  refine List.ext_getElem? fun i => ?_
  simp only [link, List.getElem?_map, List.getElem?_modify]
  cases g.nodes[i]? with
  | none => rfl
  | some n =>
    by_cases hp : parent = i <;> by_cases hc : child = i <;> simp [hp, hc, Node.addChild] <;> split <;> rfl

theorem wellFormed_link {g : Graph} (hg : g.WellFormed) {parent child : Nat} (hparent : parent < g.nodes.length)
    (hchild : child < g.size) : (g.link parent child).WellFormed := by
  refine ⟨?_, fun u v hedge => ?_⟩
  · rw [names_link]
    exact hg.distinct
  · rw [size_link]
    rcases (edge_link hparent).1 hedge with hedge | ⟨_, rfl⟩
    · exact hg.closed u v hedge
    · exact hchild

/-! ## What building adds -/

/-- `next` is `g` with some tables and some edges more. -/
structure Adds (g next : Graph) (tables : String → Prop) (edges : String → String → Prop) : Prop where
  wellFormed : next.WellFormed
  contains_iff : ∀ a, next.contains a = true ↔ g.contains a = true ∨ tables a
  hasEdge_iff : ∀ a b, next.HasEdge a b ↔ g.HasEdge a b ∨ edges a b

theorem Adds.trans {g next last : Graph} {tables tables' : String → Prop} {edges edges' : String → String → Prop}
    (h : Adds g next tables edges) (h' : Adds next last tables' edges') :
    Adds g last (fun a => tables a ∨ tables' a) (fun a b => edges a b ∨ edges' a b) where
  wellFormed := h'.wellFormed
  contains_iff a := by rw [h'.contains_iff, h.contains_iff, or_assoc]
  hasEdge_iff a b := by rw [h'.hasEdge_iff, h.hasEdge_iff, or_assoc]

theorem Adds.congr {g next : Graph} {tables tables' : String → Prop} {edges edges' : String → String → Prop}
    (h : Adds g next tables edges) (htables : ∀ a, tables a ↔ tables' a) (hedges : ∀ a b, edges a b ↔ edges' a b) :
    Adds g next tables' edges' where
  wellFormed := h.wellFormed
  contains_iff a := by rw [h.contains_iff, htables]
  hasEdge_iff a b := by rw [h.hasEdge_iff, hedges]

theorem adds_nothing {g : Graph} (hg : g.WellFormed) : Adds g g (fun _ => False) (fun _ _ => False) where
  wellFormed := hg
  contains_iff a := by simp
  hasEdge_iff a b := by simp

/-- A fold adds what its steps add. -/
theorem foldl_adds {α : Type} {step : Graph → α → Graph} {tables : α → String → Prop}
    {edges : α → String → String → Prop}
    (hstep : ∀ (g : Graph) (x : α), g.WellFormed → Adds g (step g x) (tables x) (edges x)) (xs : List α)
    {g : Graph} (hg : g.WellFormed) :
    Adds g (xs.foldl step g) (fun a => ∃ x ∈ xs, tables x a) (fun a b => ∃ x ∈ xs, edges x a b) := by
  induction xs generalizing g with
  | nil => exact (adds_nothing hg).congr (by simp) (by simp)
  | cons x rest ih =>
    have hx := hstep g x hg
    exact (hx.trans (ih hx.wellFormed)).congr (by simp) (by simp)

theorem addTable_adds {g : Graph} (hg : g.WellFormed) (t : String) :
    Adds g (g.addTable t).1 (fun a => sameName t a = true) (fun _ _ => False) := by
  refine ⟨wellFormed_addTable hg t, fun a => ?_, fun a b => ?_⟩
  · rcases nodes_addTable g t with ⟨h, hold⟩ | ⟨h, _⟩
    · rw [h]
      refine ⟨Or.inl, fun hor => hor.elim id fun hta => ?_⟩
      obtain ⟨n, hn, hname⟩ := contains_iff_exists_node.1 hold
      exact contains_iff_exists_node.2 ⟨n, hn, sameName_trans hname hta⟩
    · simp only [contains_iff_exists_node, h, List.mem_append, List.mem_singleton, or_and_right, exists_or,
        exists_eq_left]
  · simp only [or_false, HasEdge]
    refine exists_congr fun u => exists_congr fun v => ?_
    rw [edge_addTable]
    refine and_congr_right fun hedge => ?_
    rw [name_addTable (lt_of_edge hedge), name_addTable (hg.closed u v hedge)]

theorem link_adds {g : Graph} (hg : g.WellFormed) {parent child : Nat} (hparent : parent < g.nodes.length)
    (hchild : child < g.size) : Adds g (g.link parent child) (fun _ => False)
      (fun a b => sameName (g.name parent) a = true ∧ sameName (g.name child) b = true) := by
  refine ⟨wellFormed_link hg hparent hchild, fun a => ?_, fun a b => ?_⟩
  · simp only [contains_iff, size_link, name_link, or_false]
  · simp only [HasEdge, edge_link hparent, name_link]
    constructor
    · rintro ⟨u, v, hedge | ⟨rfl, rfl⟩, ha, hb⟩
      · exact Or.inl ⟨u, v, hedge, ha, hb⟩
      · exact Or.inr ⟨ha, hb⟩
    · rintro (⟨u, v, hedge, ha, hb⟩ | ⟨ha, hb⟩)
      · exact ⟨u, v, Or.inl hedge, ha, hb⟩
      · exact ⟨parent, child, Or.inr ⟨rfl, rfl⟩, ha, hb⟩

/-- A reference of a table to itself adds the table only. -/
theorem addReference_adds {g : Graph} (hg : g.WellFormed) (referenced referencing : String) :
    Adds g (g.addReference referenced referencing)
      (fun a => sameName referenced a = true ∨ sameName referencing a = true)
      (fun a b => sameName referenced a = true ∧ sameName referencing b = true ∧
        sameName referenced referencing = false) := by
  have h1 := addTable_adds hg referenced
  have h2 := addTable_adds h1.wellFormed referencing
  have hboth := h1.trans h2
  obtain ⟨hp, hpname⟩ := idOf?_eq_some (idOf?_addTable g referenced)
  obtain ⟨hc, hcname⟩ := idOf?_eq_some (idOf?_addTable (g.addTable referenced).1 referencing)
  rw [← name_addTable hp referencing] at hpname
  have hp' := Nat.lt_of_lt_of_le hp (size_le_addTable _ referencing)
  simp only [addReference]
  split
  · next heq =>
    have hsame : sameName referenced referencing = true := sameName_trans (sameName_symm hpname) (heq ▸ hcname)
    exact hboth.congr (fun a => Iff.rfl) (fun a b => by simp [hsame])
  · next hne =>
    have hother : sameName referenced referencing = false := by
      refine Bool.eq_false_iff.2 fun hsame => hne (eq_of_sameName h2.wellFormed hp' hc ?_)
      exact sameName_trans (sameName_trans hpname hsame) (sameName_symm hcname)
    refine (hboth.trans (link_adds h2.wellFormed hp' hc)).congr (fun a => by simp) (fun a b => ?_)
    simp only [sameName_congr hpname (sameName_refl a), sameName_congr hcname (sameName_refl b), hother]
    simp

end Graph

/-! ## The graph of some references -/

/-- `a` is one of the tables or one that they refer to. -/
def Mentions (references : References) (a : String) : Prop :=
  ∃ entry ∈ references, sameName entry.1 a = true ∨ ∃ r ∈ entry.2, sameName r a = true

theorem referenceGraph_adds (references : References) :
    Graph.Adds {} (referenceGraph references) (Mentions references) (fun a b => Imports references b a) := by
  have hnodes := Graph.foldl_adds (fun g (entry : String × List String) hg =>
    (Graph.addTable_adds hg entry.1).trans
      (Graph.foldl_adds (fun g r hg => Graph.addTable_adds hg r) entry.2
        (Graph.addTable_adds hg entry.1).wellFormed)) references Graph.wellFormed_empty
  have hedges := Graph.foldl_adds (fun g (entry : String × List String) hg =>
    Graph.foldl_adds (fun g r hg => Graph.addReference_adds hg r entry.1) entry.2 hg) references hnodes.wellFormed
  refine (hnodes.trans hedges).congr (fun a => ?_) (fun a b => ?_)
  · constructor
    · rintro (h | ⟨entry, hentry, r, hr, hra | hea⟩)
      · exact h
      · exact ⟨entry, hentry, Or.inr ⟨r, hr, hra⟩⟩
      · exact ⟨entry, hentry, Or.inl hea⟩
    · exact Or.inl
  · constructor
    · rintro (⟨_, _, h | ⟨_, _, h⟩⟩ | ⟨entry, hentry, r, hr, hra, heb, hother⟩)
      · exact h.elim
      · exact h.elim
      · exact ⟨entry, hentry, heb, ⟨r, hr, hra⟩, by rw [sameName_comm, ← sameName_congr hra heb]; exact hother⟩
    · rintro ⟨entry, hentry, heb, ⟨r, hr, hra⟩, hother⟩
      exact Or.inr ⟨entry, hentry, r, hr, hra, heb, by rw [sameName_congr hra heb, sameName_comm]; exact hother⟩

theorem wellFormed_referenceGraph (references : References) : (referenceGraph references).WellFormed :=
  (referenceGraph_adds references).wellFormed

theorem contains_referenceGraph {references : References} {a : String} :
    (referenceGraph references).contains a = true ↔ Mentions references a := by
  rw [(referenceGraph_adds references).contains_iff]
  simp [Graph.contains, Graph.idOf?]

theorem hasEdge_referenceGraph {references : References} {a b : String} :
    (referenceGraph references).HasEdge a b ↔ Imports references b a := by
  rw [(referenceGraph_adds references).hasEdge_iff]
  refine ⟨fun h => h.resolve_left ?_, Or.inr⟩
  rintro ⟨u, v, hedge, _⟩
  exact absurd (Graph.lt_of_edge hedge) (Nat.not_lt_zero u)

/-! ## Chains of imports -/

theorem Imports.congr {references : References} {a a' b b' : String} (h : Imports references a b)
    (ha : sameName a a' = true) (hb : sameName b b' = true) : Imports references a' b' := by
  obtain ⟨entry, hentry, hea, ⟨r, hr, hrb⟩, hother⟩ := h
  exact ⟨entry, hentry, sameName_trans hea ha, ⟨r, hr, sameName_trans hrb hb⟩, sameName_congr ha hb ▸ hother⟩

theorem ImportPath.congr {references : References} {a a' b b' : String} (h : ImportPath references a b)
    (ha : sameName a a' = true) (hb : sameName b b' = true) : ImportPath references a' b' := by
  induction h generalizing a' with
  | single h => exact .single (h.congr ha hb)
  | @cons _ c _ h _ ih => exact .cons (h.congr ha (sameName_refl c)) (ih (sameName_refl c) hb)

/-- A chain of edges from `v` to `u` tells that `u` imports `v`, directly or by other tables. -/
theorem path_of_reaches {references : References} {u v : Nat}
    (h : (referenceGraph references).Reaches v u) :
    v = u ∨ ImportPath references ((referenceGraph references).name u) ((referenceGraph references).name v) := by
  induction h with
  | refl => exact Or.inl rfl
  | @tail w u _ hedge ih =>
    have himports := hasEdge_referenceGraph.1 ⟨w, u, hedge, sameName_refl _, sameName_refl _⟩
    rcases ih with rfl | hpath
    · exact Or.inr (.single himports)
    · exact Or.inr (.cons himports hpath)

end TableDump.Schema
