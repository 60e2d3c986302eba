import TableDump.Proofs.Schema.ReferenceGraph

/-! # Graphs by their history

What a graph holds after building steps in any order, told from the steps alone.

* `GraphStep`: adding a table, or a reference between two tables; `Graph.ofSteps` takes them one after the other.
* `mentioned`, `recorded`: the tables and the references of some steps, in order; `referrers`: the tables that refer to
  another one.
* `Graph.Holds`: the nodes are the mentioned tables, each once and in its first spelling, the children of a node are the
  tables that refer to it, each once and in the order of the first reference, and a node is marked as having a parent
  just when it is a child.
* Every graph holds its history (`holds_ofSteps`).
-/

namespace TableDump.Schema
open TableDump.Text
set_option autoImplicit false

/-! ## Names in order -/

/-- A name at the end is kept unless it stands before. -/
theorem distinctNames_concat (names : List String) (t : String) :
    distinctNames (names ++ [t]) = distinctNames names ++ if ∃ u ∈ names, sameName u t = true then [] else [t] := by
  induction names with
  | nil => simp [distinctNames]
  | cons u rest ih =>
    rw [List.cons_append, distinctNames, distinctNames, ih, List.filter_append, List.cons_append]
    by_cases hrest : ∃ v ∈ rest, sameName v t = true
    · have hall : ∃ v ∈ u :: rest, sameName v t = true := hrest.imp fun v hv => ⟨List.mem_cons_of_mem _ hv.1, hv.2⟩
      rw [if_pos hrest, if_pos hall, List.filter_nil]
    · by_cases hu : sameName u t = true
      · rw [if_neg hrest, if_pos ⟨u, List.mem_cons_self, hu⟩]
        simp [hu]
      · have hall : ¬ ∃ v ∈ u :: rest, sameName v t = true := by
          rintro ⟨v, hv, hvt⟩
          rcases List.mem_cons.1 hv with rfl | hv
          · exact hu hvt
          · exact hrest ⟨v, hv, hvt⟩
        rw [if_neg hrest, if_neg hall]
        simp [hu]

/-- The tables that refer to `t`, another table each, once for each reference. -/
def referrers (references : List (String × String)) (t : String) : List String :=
  (references.filter fun r => sameName r.1 t && !sameName r.2 t).map Prod.snd

theorem referrers_concat (references : List (String × String)) (r : String × String) (t : String) :
    referrers (references ++ [r]) t =
      referrers references t ++ if sameName r.1 t && !sameName r.2 t then [r.2] else [] := by
  rw [referrers, List.filter_append, List.map_append, ← referrers]
  cases h : sameName r.1 t && !sameName r.2 t <;> simp [h]

namespace Graph

/-! ## Nodes -/

theorem hasParent_addTable (g : Graph) (t : String) (i : Nat) : (g.addTable t).1.hasParent i = g.hasParent i := by
  rcases nodes_addTable g t with ⟨h, _⟩ | ⟨h, _⟩
  · rw [h]
  · rw [hasParent, h, List.getElem?_append]
    split
    · rfl
    · next hi =>
      rw [hasParent, List.getElem?_eq_none (Nat.le_of_not_lt hi)]
      cases i - g.nodes.length <;> simp

theorem hasParent_addChild (child : Nat) (n : Node) : (Node.addChild child n).hasParent = n.hasParent := by
  unfold Node.addChild
  split <;> rfl

theorem hasParent_link {g : Graph} {child : Nat} (hchild : child < g.size) (parent i : Nat) :
    (g.link parent child).hasParent i = true ↔ g.hasParent i = true ∨ i = child := by
  simp only [hasParent, link, List.getElem?_modify]
  cases hnode : g.nodes[i]? with
  | none =>
    have hne : i ≠ child := by
      rintro rfl
      exact Nat.not_lt_of_le (List.getElem?_eq_none_iff.1 hnode) hchild
    simp [hne]
  | some n =>
    by_cases hc : child = i
    · simp [hc]
    · by_cases hp : parent = i <;> simp [hp, hc, Ne.symm hc, hasParent_addChild]

theorem childIds_link_self {g : Graph} {parent : Nat} (hparent : parent < g.nodes.length) (child : Nat) :
    (g.link parent child).childIds parent =
      g.childIds parent ++ if child ∈ g.childIds parent then [] else [child] := by
  have hold : g.childIds parent = g.nodes[parent].children := by
    rw [childIds, List.getElem?_eq_getElem hparent]
    rfl
  rw [childIds_link, List.getElem?_eq_getElem hparent, Option.map_some, if_pos rfl, Option.getD_some, hold]
  unfold Node.addChild
  split <;> simp

theorem childIds_link_of_ne {g : Graph} {parent i : Nat} (h : i ≠ parent) (child : Nat) :
    (g.link parent child).childIds i = g.childIds i := by
  simp only [childIds_link, if_neg (Ne.symm h)]
  rfl

/-! ## Histories -/

structure Holds (g : Graph) (tables : List String) (references : List (String × String)) : Prop where
  names : g.nodes.map Node.name = distinctNames tables
  children : ∀ u, u < g.size → (g.childIds u).map (fun v => lower (g.name v)) =
    (distinctNames (referrers references (g.name u))).map lower
  hasParent_iff : ∀ v, g.hasParent v = true ↔ ∃ u, g.Edge u v
  closed : g.Closed
  /-- references are between tables that were mentioned -/
  mentions : ∀ r ∈ references, r.1 ∈ tables ∧ r.2 ∈ tables

theorem holds_empty : Holds {} [] [] where
  names := rfl
  children u hu := absurd hu (Nat.not_lt_zero u)
  hasParent_iff v := by simp [hasParent, Edge, childIds]
  closed := wellFormed_empty.closed
  mentions r hr := by simp at hr

section
variable {g : Graph} {tables : List String} {references : List (String × String)}

theorem Holds.wellFormed (h : g.Holds tables references) : g.WellFormed :=
  ⟨h.names ▸ pairwise_distinctNames tables, h.closed⟩

theorem Holds.contains_iff (h : g.Holds tables references) {t : String} :
    g.contains t = true ↔ ∃ u ∈ tables, sameName u t = true := by
  have hnodes : (∃ n ∈ g.nodes, sameName n.name t = true) ↔ ∃ a ∈ distinctNames tables, sameName a t = true := by
    simp [← h.names]
  rw [contains_iff_exists_node, hnodes]
  constructor
  · rintro ⟨a, ha, hat⟩
    exact ⟨a, mem_of_mem_distinctNames ha, hat⟩
  · rintro ⟨u, hu, hut⟩
    obtain ⟨a, ha, hau⟩ := exists_mem_distinctNames hu
    exact ⟨a, ha, sameName_trans hau hut⟩

/-- Nothing refers to a table that was not mentioned. -/
theorem Holds.referrers_eq_nil (h : g.Holds tables references) {t : String} (ht : g.contains t = false) :
    referrers references t = [] := by
  rw [referrers, List.map_eq_nil_iff, List.filter_eq_nil_iff]
  intro r hr hsame
  rw [Bool.and_eq_true] at hsame
  have hcontains := h.contains_iff.2 ⟨r.1, (h.mentions r hr).1, hsame.1⟩
  rw [ht] at hcontains
  cases hcontains

theorem Holds.addTable (h : g.Holds tables references) (t : String) :
    (g.addTable t).1.Holds (tables ++ [t]) references where
  names := by
    rw [distinctNames_concat, ← h.names]
    rcases nodes_addTable g t with ⟨heq, hold⟩ | ⟨heq, hnew⟩
    · rw [heq, if_pos (h.contains_iff.1 hold), List.append_nil]
    · have hnone : ¬ ∃ u ∈ tables, sameName u t = true := fun hu => by
        rw [h.contains_iff.2 hu] at hnew
        cases hnew
      rw [heq, if_neg hnone, List.map_append]
      rfl
  children u hu := by
    rw [childIds_addTable]
    by_cases hold : u < g.size
    · rw [name_addTable hold, ← h.children u hold]
      exact List.map_congr_left fun v hv => by rw [name_addTable (h.closed u v hv)]
    · -- the new node has no children, and its name was not mentioned before
      have hnil : g.childIds u = [] := by simp [childIds, List.getElem?_eq_none (Nat.le_of_not_lt hold)]
      rcases nodes_addTable g t with ⟨heq, _⟩ | ⟨heq, hnew⟩
      · rw [heq] at hu
        exact absurd hu hold
      · have hlast : u = g.nodes.length := by
          have hlt : u < (g.nodes ++ [({ name := t } : Node)]).length := heq ▸ hu
          rw [List.length_append, List.length_singleton] at hlt
          exact Nat.le_antisymm (Nat.le_of_lt_succ hlt) (Nat.le_of_not_lt hold)
        have hname : (g.addTable t).1.name u = t := by simp [name, heq, hlast]
        rw [hnil, hname, h.referrers_eq_nil hnew]
        rfl
  hasParent_iff v := by
    rw [hasParent_addTable, h.hasParent_iff]
    exact exists_congr fun u => edge_addTable.symm
  closed := (wellFormed_addTable h.wellFormed t).closed
  mentions r hr := ⟨List.mem_append_left _ (h.mentions r hr).1, List.mem_append_left _ (h.mentions r hr).2⟩

/-- A reference of a table to itself leaves no trace. -/
theorem Holds.self {a b : String} (h : g.Holds tables references) (ha : a ∈ tables) (hb : b ∈ tables)
    (hsame : sameName a b = true) : g.Holds tables (references ++ [(a, b)]) where
  names := h.names
  children u hu := by
    rw [h.children u hu, referrers_concat, sameName_congr hsame (sameName_refl (g.name u)), Bool.and_not_self]
    simp
  hasParent_iff := h.hasParent_iff
  closed := h.closed
  mentions r hr := by
    rcases List.mem_append.1 hr with hr | hr
    · exact h.mentions r hr
    · rw [List.mem_singleton.1 hr]
      exact ⟨ha, hb⟩

/-- Among the children of a node, a child is told by its name. -/
theorem Holds.mem_childIds_iff (h : g.Holds tables references) {u child : Nat} (hu : u < g.size) (hchild : child < g.size)
    {b : String} (hb : sameName (g.name child) b = true) :
    child ∈ g.childIds u ↔ ∃ r ∈ referrers references (g.name u), sameName r b = true := by
  have hlower : lower b ∈ (g.childIds u).map (fun v => lower (g.name v)) ↔ child ∈ g.childIds u := by
    rw [List.mem_map]
    constructor
    · rintro ⟨v, hv, hname⟩
      have hsame : sameName (g.name v) (g.name child) = true := sameName_trans (sameName_iff.2 hname) (sameName_symm hb)
      exact eq_of_sameName h.wellFormed (h.closed u v hv) hchild hsame ▸ hv
    · exact fun hv => ⟨child, hv, sameName_iff.1 hb⟩
  rw [← hlower, h.children u hu, List.mem_map]
  constructor
  · rintro ⟨r, hr, hname⟩
    exact ⟨r, mem_of_mem_distinctNames hr, sameName_iff.2 hname⟩
  · rintro ⟨r, hr, hrb⟩
    obtain ⟨a, ha, har⟩ := exists_mem_distinctNames hr
    exact ⟨a, ha, sameName_iff.1 (sameName_trans har hrb)⟩

theorem Holds.link {parent child : Nat} {a b : String} (h : g.Holds tables references) (hparent : parent < g.size)
    (hchild : child < g.size) (hne : parent ≠ child) (ha : sameName (g.name parent) a = true)
    (hb : sameName (g.name child) b = true) (hmentions : a ∈ tables ∧ b ∈ tables) :
    (g.link parent child).Holds tables (references ++ [(a, b)]) where
  names := by
    rw [names_link, h.names]
  children u hu := by
    rw [size_link] at hu
    simp only [name_link, referrers_concat]
    by_cases hup : u = parent
    · subst hup
      have hother : sameName b (g.name u) = false := by
        refine Bool.eq_false_iff.2 fun hsame => hne ?_
        exact eq_of_sameName h.wellFormed hparent hchild (sameName_symm (sameName_trans hb hsame))
      have hmem := h.mem_childIds_iff hu hchild hb
      rw [childIds_link_self hparent, List.map_append, h.children u hu, sameName_symm ha, hother, Bool.not_false,
        Bool.and_true, if_pos rfl, distinctNames_concat, List.map_append]
      simp only [← hmem]
      split
      · rfl
      · rw [List.map_singleton, List.map_singleton, sameName_iff.1 hb]
    · have hfar : sameName a (g.name u) = false := by
        refine Bool.eq_false_iff.2 fun hsame => hup ?_
        exact (eq_of_sameName h.wellFormed hparent hu (sameName_trans ha hsame)).symm
      rw [childIds_link_of_ne hup, h.children u hu, hfar]
      simp
  hasParent_iff v := by
    rw [hasParent_link hchild, h.hasParent_iff]
    simp only [edge_link hparent, exists_or, exists_eq_left]
  closed := (wellFormed_link h.wellFormed hparent hchild).closed
  mentions r hr := by
    rcases List.mem_append.1 hr with hr | hr
    · exact h.mentions r hr
    · rw [List.mem_singleton.1 hr]
      exact hmentions

theorem Holds.addReference (h : g.Holds tables references) (a b : String) :
    (g.addReference a b).Holds (tables ++ [a, b]) (references ++ [(a, b)]) := by
  have h' := (h.addTable a).addTable b
  rw [List.append_assoc, List.singleton_append] at h'
  have hmentions : a ∈ tables ++ [a, b] ∧ b ∈ tables ++ [a, b] := by simp
  obtain ⟨hp, hpname⟩ := idOf?_eq_some (idOf?_addTable g a)
  obtain ⟨hc, hcname⟩ := idOf?_eq_some (idOf?_addTable (g.addTable a).1 b)
  rw [← name_addTable hp b] at hpname
  have hp' := Nat.lt_of_lt_of_le hp (size_le_addTable _ b)
  simp only [Graph.addReference]
  split
  · next heq => exact h'.self hmentions.1 hmentions.2 (sameName_trans (sameName_symm hpname) (heq ▸ hcname))
  · next hne => exact h'.link hp' hc hne hpname hcname hmentions

end
end Graph

/-! ## Building steps -/

inductive GraphStep
  | table (name : String)
  | reference (referenced referencing : String)
deriving DecidableEq, Repr

namespace GraphStep

def tables : GraphStep → List String
  | table name => [name]
  | reference referenced referencing => [referenced, referencing]

def references : GraphStep → List (String × String)
  | table _ => []
  | reference referenced referencing => [(referenced, referencing)]

end GraphStep

def mentioned (steps : List GraphStep) : List String := steps.flatMap GraphStep.tables

def recorded (steps : List GraphStep) : List (String × String) := steps.flatMap GraphStep.references

namespace Graph

def build (g : Graph) : GraphStep → Graph
  | .table name => (g.addTable name).1
  | .reference referenced referencing => g.addReference referenced referencing

def ofSteps (steps : List GraphStep) : Graph := steps.foldl build {}

theorem Holds.build {g : Graph} {tables : List String} {references : List (String × String)}
    (h : g.Holds tables references) (step : GraphStep) :
    (g.build step).Holds (tables ++ step.tables) (references ++ step.references) := by
  cases step with
  | table name =>
    have hadded := h.addTable name
    rwa [← List.append_nil references] at hadded
  | reference referenced referencing => exact h.addReference referenced referencing

theorem Holds.foldl_build {g : Graph} {tables : List String} {references : List (String × String)}
    (h : g.Holds tables references) (steps : List GraphStep) :
    (steps.foldl Graph.build g).Holds (tables ++ mentioned steps) (references ++ recorded steps) := by
  induction steps generalizing g tables references with
  | nil => simpa [mentioned, recorded] using h
  | cons step rest ih =>
    have hrest := ih (h.build step)
    rwa [List.append_assoc, List.append_assoc] at hrest

theorem holds_ofSteps (steps : List GraphStep) : (ofSteps steps).Holds (mentioned steps) (recorded steps) :=
  holds_empty.foldl_build steps

end Graph
end TableDump.Schema
