import Mathlib.Data.List.Chain
import Mathlib.Logic.Relation
import TableDump.Schema.Traversal

/-! # The invariant of a traversal

What a depth-first traversal keeps while it is under way, and what it leaves behind.

* `Graph.Edge`: a child of a node; `Graph.Reaches`: chains of edges, the empty one included.
* `Traversal.Step`: the three things that one step can do.
* `Traversal.Inv`: the marks tell the path and the finished nodes, the path is a chain of edges, and each
  child of a finished node was finished before it or leads back to it.
* In the end every node is finished once (`perm_finished`), and a child of an edge that lies on no cycle
  was finished before its parent (`settled_traversal`).
-/

namespace TableDump.Schema
set_option autoImplicit false

namespace Graph

def Edge (g : Graph) (u v : Nat) : Prop := v ∈ g.childIds u

abbrev Reaches (g : Graph) : Nat → Nat → Prop := Relation.ReflTransGen g.Edge

/-- Children are nodes of the graph. -/
def Closed (g : Graph) : Prop := ∀ u v, g.Edge u v → v < g.size

end Graph

namespace Traversal

/-! ## One step -/

inductive Step (g : Graph) : Traversal → Traversal → Prop
  | leave (marks : List Mark) (node : Nat) (below : List Frame) (finished : List Nat) :
    Step g ⟨marks, ⟨node, []⟩ :: below, finished⟩ ⟨marks.set node .done, below, node :: finished⟩
  | enter (marks : List Mark) (node child : Nat) (pending : List Nat) (below : List Frame)
      (finished : List Nat) (hchild : marks[child]?.getD .done = .unseen) :
    Step g ⟨marks, ⟨node, child :: pending⟩ :: below, finished⟩
      (enter g child ⟨marks, ⟨node, pending⟩ :: below, finished⟩)
  | skip (marks : List Mark) (node child : Nat) (pending : List Nat) (below : List Frame)
      (finished : List Nat) (hchild : marks[child]?.getD .done ≠ .unseen) :
    Step g ⟨marks, ⟨node, child :: pending⟩ :: below, finished⟩ ⟨marks, ⟨node, pending⟩ :: below, finished⟩

theorem step_of_step? {g : Graph} {t next : Traversal} (h : t.step? g = some next) : Step g t next := by
  obtain ⟨marks, path, finished⟩ := t
  match path, h with
  | [], h => simp [step?] at h
  | ⟨node, []⟩ :: below, h =>
    simp only [step?, Option.some.injEq] at h
    subst h
    exact .leave marks node below finished
  | ⟨node, child :: pending⟩ :: below, h =>
    simp only [step?, Option.some.injEq] at h
    split at h
    · next hc =>
      subst h
      exact .enter marks node child pending below finished hc
    · next hc =>
      subst h
      exact .skip marks node child pending below finished hc

theorem path_eq_nil_of_step?_eq_none {g : Graph} {t : Traversal} (h : t.step? g = none) : t.path = [] := by
  obtain ⟨marks, path, finished⟩ := t
  match path, h with
  | [], _ => rfl
  | ⟨_, []⟩ :: _, h => simp [step?] at h
  | ⟨_, _ :: _⟩ :: _, h => simp [step?] at h

/-! ## Marks -/

theorem mark_set {marks : List Mark} {i : Nat} (hi : i < marks.length) (m : Mark) (path : List Frame)
    (finished : List Nat) (v : Nat) :
    mark ⟨marks.set i m, path, finished⟩ v = if v = i then m else marks[v]?.getD .done := by
  simp only [mark, List.getElem?_set, hi, if_true]
  by_cases h : v = i
  · simp [h]
  · simp [h, Ne.symm h]

theorem lt_of_mark {t : Traversal} {v : Nat} (h : t.mark v ≠ .done) : v < t.marks.length := by
  refine Nat.lt_of_not_le fun hv => h ?_
  simp [mark, List.getElem?_eq_none hv]

theorem seen_set {marks : List Mark} {i : Nat} {m : Mark} (hm : m ≠ .unseen) {v : Nat}
    (h : marks[v]?.getD .done ≠ .unseen) : (marks.set i m)[v]?.getD .done ≠ .unseen := by
  rw [List.getElem?_set]
  split
  · split
    · simpa using hm
    · simp
  · exact h

theorem Step.seen {g : Graph} {t next : Traversal} (h : Step g t next) {v : Nat} (hv : t.mark v ≠ .unseen) :
    next.mark v ≠ .unseen := by
  cases h with
  | leave | enter => exact seen_set (by decide) hv
  | skip => exact hv

/-! ## The invariant -/

structure Inv (g : Graph) (t : Traversal) : Prop where
  length_marks : t.marks.length = g.size
  mem_path : ∀ v, v ∈ t.path.map Frame.node ↔ t.mark v = .onPath
  mem_finished : ∀ v, v ∈ t.finished ↔ v < g.size ∧ t.mark v = .done
  nodup_path : (t.path.map Frame.node).Nodup
  nodup_finished : t.finished.Nodup
  /-- each node of the path is a child of the one below it -/
  chain : (t.path.map Frame.node).IsChain fun upper lower => g.Edge lower upper
  /-- the children of a node on the path that are no longer to come were seen -/
  passed : ∀ f ∈ t.path, ∃ passed, g.childIds f.node = passed ++ f.pending ∧ ∀ v ∈ passed, t.mark v ≠ .unseen
  /-- a child of a finished node was finished before it, or leads back to it -/
  settled : ∀ later u earlier, t.finished = later ++ u :: earlier → ∀ v, g.Edge u v →
    v ∈ earlier ∨ g.Reaches v u

theorem reaches_top {g : Graph} {u : Nat} {rest : List Nat}
    (h : (u :: rest).IsChain fun upper lower => g.Edge lower upper) : ∀ v ∈ u :: rest, g.Reaches v u := by
  induction rest generalizing u with
  | nil =>
    intro v hv
    rw [List.mem_singleton.1 hv]
  | cons w rest ih =>
    obtain ⟨hedge, hrest⟩ := List.isChain_cons_cons.1 h
    intro v hv
    rcases List.mem_cons.1 hv with rfl | hv
    · exact Relation.ReflTransGen.refl
    · exact (ih hrest v hv).tail hedge

theorem inv_start (g : Graph) : Inv g { marks := List.replicate g.size .unseen } where
  length_marks := List.length_replicate
  mem_path v := by
    by_cases h : v < g.size <;> simp [mark, h]
  mem_finished v := by
    by_cases h : v < g.size <;> simp [mark, h]
  nodup_path := List.nodup_nil
  nodup_finished := List.nodup_nil
  chain := List.isChain_nil
  passed f hf := by simp at hf
  settled later u earlier h := by simp at h

theorem Inv.leave {g : Graph} (hg : g.Closed) {marks : List Mark} {node : Nat} {below : List Frame}
    {finished : List Nat} (h : Inv g ⟨marks, ⟨node, []⟩ :: below, finished⟩) :
    Inv g ⟨marks.set node .done, below, node :: finished⟩ := by
  have hon : marks[node]?.getD .done = .onPath := (h.mem_path node).1 List.mem_cons_self
  have hlt : node < marks.length := lt_of_mark (t := ⟨marks, [], []⟩) (by simp [mark, hon])
  obtain ⟨hnode, hbelow⟩ := List.nodup_cons.1 h.nodup_path
  refine ⟨by rw [List.length_set, h.length_marks], fun v => ?_, fun v => ?_, hbelow, ?_, h.chain.tail, ?_, ?_⟩
  · have hv := h.mem_path v
    rw [mark_set hlt]
    by_cases hvn : v = node
    · simpa [hvn] using hnode
    · simpa [hvn, mark] using hv
  · have hv := h.mem_finished v
    rw [mark_set hlt]
    by_cases hvn : v = node
    · have := h.length_marks
      simp only at this
      simp [hvn, ← this, hlt]
    · simpa [hvn, mark] using hv
  · refine List.nodup_cons.2 ⟨fun hmem => ?_, h.nodup_finished⟩
    have hdone := ((h.mem_finished node).1 hmem).2
    simp only [mark, hon] at hdone
    cases hdone
  · intro f hf
    obtain ⟨passed, heq, hseen⟩ := h.passed f (List.mem_cons_of_mem _ hf)
    exact ⟨passed, heq, fun v hv => seen_set (by decide) (hseen v hv)⟩
  · intro later u earlier heq v hedge
    cases later with
    | nil =>
      -- the node itself: its children are finished, or on the path below it
      obtain ⟨rfl, rfl⟩ : node = u ∧ finished = earlier := by simpa using heq
      obtain ⟨passed, hchildren, hseen⟩ := h.passed ⟨node, []⟩ List.mem_cons_self
      have hv : v ∈ passed := by
        rw [List.append_nil] at hchildren
        exact hchildren ▸ hedge
      match hm : mark ⟨marks, ⟨node, []⟩ :: below, finished⟩ v with
      | .unseen => exact absurd hm (hseen v hv)
      | .onPath => exact Or.inr (reaches_top h.chain v ((h.mem_path v).2 hm))
      | .done => exact Or.inl ((h.mem_finished v).2 ⟨hg node v hedge, hm⟩)
    | cons w later =>
      obtain ⟨rfl, hfinished⟩ : node = w ∧ finished = later ++ u :: earlier := by simpa using heq
      exact h.settled later u earlier hfinished v hedge

/-- A child that was seen need not come any more. -/
theorem Inv.pass {g : Graph} {marks : List Mark} (above : List Frame) {below : List Frame} {node child : Nat}
    {pending finished : List Nat} (h : Inv g ⟨marks, above ++ ⟨node, child :: pending⟩ :: below, finished⟩)
    (hchild : marks[child]?.getD .done ≠ .unseen) :
    Inv g ⟨marks, above ++ ⟨node, pending⟩ :: below, finished⟩ := by
  have hnodes : (above ++ ⟨node, pending⟩ :: below).map Frame.node =
      (above ++ ⟨node, child :: pending⟩ :: below).map Frame.node := by simp
  refine ⟨h.length_marks, fun v => hnodes ▸ h.mem_path v, h.mem_finished, hnodes ▸ h.nodup_path,
    h.nodup_finished, hnodes ▸ h.chain, fun f hf => ?_, h.settled⟩
  have hsame : f = ⟨node, pending⟩ ∨ f ∈ above ++ ⟨node, child :: pending⟩ :: below := by
    rcases List.mem_append.1 hf with hf | hf
    · exact Or.inr (List.mem_append_left _ hf)
    · rcases List.mem_cons.1 hf with hf | hf
      · exact Or.inl hf
      · exact Or.inr (List.mem_append_right _ (List.mem_cons_of_mem _ hf))
  rcases hsame with rfl | hf
  · obtain ⟨passed, heq, hseen⟩ :=
      h.passed ⟨node, child :: pending⟩ (List.mem_append_right _ List.mem_cons_self)
    refine ⟨passed ++ [child], by simpa using heq, fun v hv => ?_⟩
    rcases List.mem_append.1 hv with hv | hv
    · exact hseen v hv
    · rw [List.mem_singleton.1 hv]
      exact hchild
  · exact h.passed f hf

theorem Inv.enter {g : Graph} {t : Traversal} {child : Nat} (h : Inv g t) (hchild : t.mark child = .unseen)
    (hchain : (child :: t.path.map Frame.node).IsChain fun upper lower => g.Edge lower upper) :
    Inv g (t.enter g child) := by
  have hlt : child < t.marks.length := lt_of_mark (by simp [hchild])
  have hmark : ∀ v, (t.enter g child).mark v = if v = child then .onPath else t.mark v :=
    mark_set hlt .onPath _ _
  have hoff : child ∉ t.path.map Frame.node := fun hmem => by
    have := (h.mem_path child).1 hmem
    rw [hchild] at this
    cases this
  refine ⟨by simp [Traversal.enter, h.length_marks], fun v => ?_, fun v => ?_, ?_, h.nodup_finished, hchain,
    fun f hf => ?_, h.settled⟩
  · have hv := h.mem_path v
    rw [hmark]
    by_cases hvc : v = child
    · simp [hvc, Traversal.enter]
    · simpa [hvc, Traversal.enter] using hv
  · have hv := h.mem_finished v
    rw [hmark]
    by_cases hvc : v = child
    · simpa [hvc, hchild, Traversal.enter] using hv
    · simpa [hvc, Traversal.enter] using hv
  · exact List.nodup_cons.2 ⟨hoff, h.nodup_path⟩
  · rcases List.mem_cons.1 hf with rfl | hf
    · exact ⟨[], rfl, by simp⟩
    · obtain ⟨passed, heq, hseen⟩ := h.passed f hf
      exact ⟨passed, heq, fun v hv => seen_set (by decide) (hseen v hv)⟩

theorem Step.inv {g : Graph} (hg : g.Closed) {t next : Traversal} (hstep : Step g t next) (h : Inv g t) :
    Inv g next := by
  cases hstep with
  | leave marks node below finished => exact h.leave hg
  | enter marks node child pending below finished hchild =>
    have hedge : g.Edge node child := by
      obtain ⟨passed, heq, _⟩ := h.passed ⟨node, child :: pending⟩ List.mem_cons_self
      simp [Graph.Edge, heq]
    have hlt : child < marks.length := lt_of_mark (t := ⟨marks, [], []⟩) (by simp [mark, hchild])
    have hentered := h.enter hchild (List.isChain_cons_cons.2 ⟨hedge, h.chain⟩)
    exact Inv.pass [⟨child, g.childIds child⟩] hentered (by simp [hlt])
  | skip marks node child pending below finished hchild => exact Inv.pass [] h hchild

/-! ## Runs -/

/-- What a run keeps and where it ends. -/
theorem run_induction {g : Graph} {P : Traversal → Prop} (hP : ∀ t next, Step g t next → P t → P next)
    (t : Traversal) (ht : P t) : P (t.run g) ∧ (t.run g).path = [] := by
  fun_induction run g t with
  | case1 t hnone => exact ⟨ht, path_eq_nil_of_step?_eq_none hnone⟩
  | case2 t next hsome ih => exact ih (hP t next (step_of_step? hsome) ht)

/-- A traversal between two start nodes. -/
structure Rests (g : Graph) (t : Traversal) : Prop where
  inv : Inv g t
  path_eq : t.path = []

theorem rests_startAt {g : Graph} (hg : g.Closed) {t : Traversal} (h : Rests g t) (node : Nat) :
    Rests g (t.startAt g node) := by
  unfold startAt
  split
  · next hnew =>
    have hchain : (node :: t.path.map Frame.node).IsChain fun upper lower => g.Edge lower upper := by
      rw [h.path_eq]
      exact List.isChain_singleton node
    obtain ⟨hinv, hpath⟩ := run_induction (fun _ _ hs hi => hs.inv hg hi) _ (h.inv.enter hnew hchain)
    exact ⟨hinv, hpath⟩
  · exact h

theorem seen_startAt {g : Graph} (t : Traversal) (node v : Nat) (h : v = node ∨ t.mark v ≠ .unseen) :
    (t.startAt g node).mark v ≠ .unseen := by
  unfold startAt
  split
  · next hnew =>
    refine (run_induction (P := fun t => t.mark v ≠ .unseen) (fun _ _ hs hv => hs.seen hv) _ ?_).1
    rcases h with rfl | h
    · have hlt : v < t.marks.length := lt_of_mark (by simp [hnew])
      simp [Traversal.enter, mark, hlt]
    · exact seen_set (by decide) h
  · next hseen =>
    rcases h with rfl | h
    · exact hseen
    · exact h

theorem foldl_startAt {g : Graph} (hg : g.Closed) (starts : List Nat) {t : Traversal} (h : Rests g t) :
    Rests g (starts.foldl (startAt g) t) ∧
      ∀ v, v ∈ starts ∨ t.mark v ≠ .unseen → (starts.foldl (startAt g) t).mark v ≠ .unseen := by
  induction starts generalizing t with
  | nil => exact ⟨h, fun v hv => by simpa using hv⟩
  | cons node rest ih =>
    obtain ⟨hrests, hseen⟩ := ih (rests_startAt hg h node)
    refine ⟨hrests, fun v hv => ?_⟩
    rcases hv with hv | hv
    · rcases List.mem_cons.1 hv with rfl | hv
      · exact hseen v (Or.inr (seen_startAt t v v (Or.inl rfl)))
      · exact hseen v (Or.inl hv)
    · exact hseen v (Or.inr (seen_startAt t node v (Or.inr hv)))

end Traversal

/-! ## The whole traversal -/

namespace Graph

theorem mem_startNodes {g : Graph} {v : Nat} : v ∈ g.startNodes ↔ v < g.size := by
  simp only [startNodes, List.mem_append, List.mem_filter, List.mem_range]
  cases g.hasParent v <;> simp

theorem rests_traversal {g : Graph} (hg : g.Closed) : Traversal.Rests g g.traversal :=
  (Traversal.foldl_startAt hg g.startNodes ⟨Traversal.inv_start g, rfl⟩).1

theorem mem_finished_traversal {g : Graph} (hg : g.Closed) {v : Nat} : v ∈ g.traversal.finished ↔ v < g.size := by
  have hrests := rests_traversal hg
  rw [hrests.inv.mem_finished]
  refine ⟨And.left, fun hv => ⟨hv, ?_⟩⟩
  have hseen : g.traversal.mark v ≠ .unseen :=
    (Traversal.foldl_startAt hg g.startNodes ⟨Traversal.inv_start g, rfl⟩).2 v (Or.inl (mem_startNodes.2 hv))
  have hoff : g.traversal.mark v ≠ .onPath := fun hon => by
    have := (hrests.inv.mem_path v).2 hon
    simp [hrests.path_eq] at this
  match hm : g.traversal.mark v with
  | .unseen => exact absurd hm hseen
  | .onPath => exact absurd hm hoff
  | .done => rfl

/-- Every node is finished once. -/
theorem perm_finished {g : Graph} (hg : g.Closed) : g.traversal.finished.Perm (List.range g.size) :=
  (List.perm_ext_iff_of_nodup (rests_traversal hg).inv.nodup_finished List.nodup_range).2 fun v => by
    rw [mem_finished_traversal hg, List.mem_range]

/-- The last finished node comes first: a child of `u` comes after it, or leads back to it. -/
theorem settled_traversal {g : Graph} (hg : g.Closed) {u v : Nat} (hu : u < g.size) (hedge : g.Edge u v)
    (hback : ¬ g.Reaches v u) :
    ∃ first last, g.traversal.finished = first ++ u :: last ∧ v ∈ last := by
  obtain ⟨first, last, heq⟩ := List.append_of_mem ((mem_finished_traversal hg).2 hu)
  exact ⟨first, last, heq, ((rests_traversal hg).inv.settled first u last heq v hedge).resolve_right hback⟩

end Graph
end TableDump.Schema
