import TableDump.Proofs.Schema.GraphHistory

/-! # The traversal as a recursion

The traversal with an explicit path finishes the nodes in the order of the plain recursion.

* `Graph.Visits`: depth-first recursion over a list of nodes, with no bound on its depth. It gives one result at most
  (`Visits.unique`), and on a closed graph it gives what `Graph.visit` does within the depth of the graph
  (`visits_foldl_visit`).
* `Traversal.Sees`: the marks of a traversal tell what the recursion has seen. Where the recursion goes over the children
  of a node, the steps of the traversal use them up (`run_of_visits`).
* The order of a graph is the reversed post-order (`order_ofSteps`), and references are sorted by it
  (`sortReferences_eq_recursiveOrder`).
-/

namespace TableDump.Schema
set_option autoImplicit false

/-! ## Recursion -/

namespace Graph

def Visited.enter (v : Visited) (node : Nat) : Visited := { v with seen := node :: v.seen }

def Visited.leave (v : Visited) (node : Nat) : Visited := { v with left := v.left ++ [node] }

/-- A node that was seen is passed over. A new one is left after the nodes that its children lead to. -/
inductive Visits (g : Graph) : List Nat → Visited → Visited → Prop
  | done (v : Visited) : Visits g [] v v
  | pass {node : Nat} {rest : List Nat} {v w : Visited} (hseen : node ∈ v.seen) (hrest : Visits g rest v w) :
    Visits g (node :: rest) v w
  | enter {node : Nat} {rest : List Nat} {v u w : Visited} (hnew : node ∉ v.seen)
    (hchildren : Visits g (g.childIds node) (v.enter node) u) (hrest : Visits g rest (u.leave node) w) :
    Visits g (node :: rest) v w

variable {g : Graph} {nodes : List Nat} {v w : Visited}

theorem Visits.unique (h : g.Visits nodes v w) {w' : Visited} (h' : g.Visits nodes v w') : w' = w := by
  induction h generalizing w' with
  | done v =>
    cases h'
    rfl
  | pass hseen _ ih =>
    cases h' with
    | pass _ hrest' => exact ih hrest'
    | enter hnew _ _ => exact absurd hseen hnew
  | enter hnew _ _ ihchildren ihrest =>
    cases h' with
    | pass hseen _ => exact absurd hseen hnew
    | enter _ hchildren' hrest' =>
      rw [ihchildren hchildren'] at hrest'
      exact ihrest hrest'

theorem Visits.seen_subset (h : g.Visits nodes v w) : v.seen ⊆ w.seen := by
  induction h with
  | done v => exact List.Subset.refl _
  | pass _ _ ih => exact ih
  | enter _ _ _ ihchildren ihrest =>
    exact fun n hn => ihrest (ihchildren (List.mem_cons_of_mem _ hn))

/-! ## Depth -/

/-- How many nodes of the graph are still to be seen. -/
def Visited.unseenCount (g : Graph) (v : Visited) : Nat := (List.range g.size).countP fun n => n ∉ v.seen

theorem Visited.unseenCount_le (h : v.seen ⊆ w.seen) : w.unseenCount g ≤ v.unseenCount g := by
  refine List.countP_mono_left fun n _ hn => ?_
  simp only [decide_eq_true_eq] at hn ⊢
  exact fun hv => hn (h hv)

theorem Visited.unseenCount_enter_lt {node : Nat} (hnode : node < g.size) (hnew : node ∉ v.seen) :
    (v.enter node).unseenCount g < v.unseenCount g := by
  have hperm := List.perm_cons_erase (List.mem_range.2 hnode)
  have hothers : ((List.range g.size).erase node).countP (fun n => n ∉ (v.enter node).seen) ≤
      ((List.range g.size).erase node).countP fun n => n ∉ v.seen := by
    refine List.countP_mono_left fun n _ hn => ?_
    simp only [enter, List.mem_cons, decide_eq_true_eq, not_or] at hn ⊢
    exact hn.2
  have hold : decide (node ∉ v.seen) = true := decide_eq_true hnew
  have hentered : decide (node ∉ (v.enter node).seen) = false := by simp [enter]
  rw [unseenCount, unseenCount, hperm.countP_eq, hperm.countP_eq, List.countP_cons, List.countP_cons, if_pos hold,
    hentered]
  exact Nat.lt_succ_of_le hothers

/-- Within a depth of as many nodes as are unseen, the bounded recursion meets no bound. -/
theorem visits_foldl_visit (hg : g.Closed) (depth : Nat) (hnodes : ∀ n ∈ nodes, n < g.size)
    (hdepth : v.unseenCount g ≤ depth) : g.Visits nodes v (nodes.foldl (g.visit depth) v) := by
  induction depth generalizing nodes v with
  | zero =>
    induction nodes generalizing v with
    | nil => exact .done v
    | cons node rest ih =>
      obtain ⟨hnode, hrest⟩ := List.forall_mem_cons.1 hnodes
      by_cases hseen : node ∈ v.seen
      · exact .pass hseen (ih hrest hdepth)
      · have hless := Visited.unseenCount_enter_lt hnode hseen
        omega
  | succ depth ihdepth =>
    induction nodes generalizing v with
    | nil => exact .done v
    | cons node rest ih =>
      obtain ⟨hnode, hrest⟩ := List.forall_mem_cons.1 hnodes
      rw [List.foldl_cons]
      by_cases hseen : node ∈ v.seen
      · rw [visit, if_pos hseen]
        exact .pass hseen (ih hrest hdepth)
      · have hless := Visited.unseenCount_enter_lt hnode hseen
        have hchildren := ihdepth (fun n hn => hg node n hn) (Nat.le_of_lt_succ (Nat.lt_of_lt_of_le hless hdepth))
        rw [visit, if_neg hseen]
        refine .enter hseen hchildren (ih hrest (Nat.le_trans (Visited.unseenCount_le ?_) hdepth))
        exact fun n hn => hchildren.seen_subset (List.mem_cons_of_mem _ hn)

end Graph

/-! ## Steps -/

namespace Traversal
open Schema.Graph

/-- The nodes that are marked are those that were seen. -/
structure Sees (g : Graph) (marks : List Mark) (v : Visited) : Prop where
  length_marks : marks.length = g.size
  seen_iff : ∀ n, n < g.size → (n ∈ v.seen ↔ marks[n]? ≠ some .unseen)

variable {g : Graph} {marks : List Mark} {v w : Visited}

theorem sees_start (g : Graph) : Sees g (List.replicate g.size .unseen) {} where
  length_marks := List.length_replicate
  seen_iff n hn := by simp [hn]

theorem Sees.unseen_iff (h : Sees g marks v) {n : Nat} (hn : n < g.size) :
    marks[n]?.getD .done = .unseen ↔ n ∉ v.seen := by
  rw [h.seen_iff n hn, not_not]
  have hlt : n < marks.length := h.length_marks ▸ hn
  simp [hlt]

theorem Sees.enter (h : Sees g marks v) (node : Nat) : Sees g (marks.set node .onPath) (v.enter node) where
  length_marks := by rw [List.length_set, h.length_marks]
  seen_iff n hn := by
    have hlt : n < marks.length := h.length_marks ▸ hn
    have hold := h.seen_iff n hn
    by_cases hnode : n = node
    · simp [hnode ▸ hlt, hnode, Visited.enter]
    · rw [List.getElem?_set_ne (Ne.symm hnode), ← hold]
      simp [Visited.enter, hnode]

theorem Sees.leave (h : Sees g marks v) {node : Nat} (hnode : node ∈ v.seen) :
    Sees g (marks.set node .done) (v.leave node) where
  length_marks := by rw [List.length_set, h.length_marks]
  seen_iff n hn := by
    have hlt : n < marks.length := h.length_marks ▸ hn
    by_cases heq : n = node
    · subst heq
      simp [hlt, Visited.leave, hnode]
    · rw [List.getElem?_set_ne (Ne.symm heq)]
      exact h.seen_iff n hn

theorem run_of_step? {t next : Traversal} (h : t.step? g = some next) : t.run g = next.run g := by
  rw [run]
  split
  · next hnone =>
    rw [h] at hnone
    cases hnone
  · next hsome =>
    rw [h] at hsome
    cases hsome
    rfl

theorem run_of_path_nil (marks : List Mark) (finished : List Nat) : run g ⟨marks, [], finished⟩ = ⟨marks, [], finished⟩ := by
  rw [run]
  rfl

/-- The traversal uses up the children still to come of the current node as the recursion goes over them. -/
theorem run_of_visits (hg : g.Closed) {nodes : List Nat} (h : g.Visits nodes v w) (hnodes : ∀ n ∈ nodes, n < g.size)
    (hsees : Sees g marks v) (node : Nat) (below : List Frame) : ∃ marks', Sees g marks' w ∧
      run g ⟨marks, ⟨node, nodes⟩ :: below, v.left.reverse⟩ = run g ⟨marks', ⟨node, []⟩ :: below, w.left.reverse⟩ := by
  induction h generalizing marks node below with
  | done v => exact ⟨marks, hsees, rfl⟩
  | @pass child rest v w hseen _ ih =>
    obtain ⟨hchild, hrest⟩ := List.forall_mem_cons.1 hnodes
    obtain ⟨marks', hsees', hrun⟩ := ih hrest hsees node below
    refine ⟨marks', hsees', (run_of_step? ?_).trans hrun⟩
    exact congrArg some (if_neg fun hunseen => (hsees.unseen_iff hchild).1 hunseen hseen)
  | @enter child rest v u w hnew hchildren _ ihchildren ihrest =>
    obtain ⟨hchild, hrest⟩ := List.forall_mem_cons.1 hnodes
    -- the child comes on top of the path, its own children are used up, and it is finished
    obtain ⟨inner, hinner, hdown⟩ := ihchildren (fun n hn => hg child n hn) (hsees.enter child) child (⟨node, rest⟩ :: below)
    have hseen : child ∈ u.seen := hchildren.seen_subset List.mem_cons_self
    obtain ⟨marks', hsees', hrun⟩ := ihrest hrest (hinner.leave hseen) node below
    refine ⟨marks', hsees', ?_⟩
    calc run g ⟨marks, ⟨node, child :: rest⟩ :: below, v.left.reverse⟩
        = run g ⟨marks.set child .onPath, ⟨child, g.childIds child⟩ :: ⟨node, rest⟩ :: below, v.left.reverse⟩ :=
          run_of_step? (congrArg some (if_pos ((hsees.unseen_iff hchild).2 hnew)))
      _ = run g ⟨inner, ⟨child, []⟩ :: ⟨node, rest⟩ :: below, u.left.reverse⟩ := hdown
      _ = run g ⟨inner.set child .done, ⟨node, rest⟩ :: below, child :: u.left.reverse⟩ := run_of_step? rfl
      _ = run g ⟨marks', ⟨node, []⟩ :: below, w.left.reverse⟩ := by
          rw [← hrun, Visited.leave, List.reverse_append]
          rfl

/-- From the start nodes the traversal finishes what the recursion leaves, in the same order. -/
theorem foldl_startAt_of_visits (hg : g.Closed) {starts : List Nat} (h : g.Visits starts v w)
    (hstarts : ∀ n ∈ starts, n < g.size) (hsees : Sees g marks v) : ∃ marks', Sees g marks' w ∧
      starts.foldl (startAt g) ⟨marks, [], v.left.reverse⟩ = ⟨marks', [], w.left.reverse⟩ := by
  induction h generalizing marks with
  | done v => exact ⟨marks, hsees, rfl⟩
  | @pass start rest v w hseen _ ih =>
    obtain ⟨hstart, hrest⟩ := List.forall_mem_cons.1 hstarts
    obtain ⟨marks', hsees', hfold⟩ := ih hrest hsees
    have hmark : mark ⟨marks, [], v.left.reverse⟩ start ≠ .unseen := fun hunseen => (hsees.unseen_iff hstart).1 hunseen hseen
    refine ⟨marks', hsees', ?_⟩
    rw [List.foldl_cons, startAt, if_neg hmark]
    exact hfold
  | @enter start rest v u w hnew hchildren _ _ ihrest =>
    obtain ⟨hstart, hrest⟩ := List.forall_mem_cons.1 hstarts
    obtain ⟨inner, hinner, hdown⟩ := run_of_visits hg hchildren (fun n hn => hg start n hn) (hsees.enter start) start []
    have hseen : start ∈ u.seen := hchildren.seen_subset List.mem_cons_self
    obtain ⟨marks', hsees', hfold⟩ := ihrest hrest (hinner.leave hseen)
    have hmark : mark ⟨marks, [], v.left.reverse⟩ start = .unseen := (hsees.unseen_iff hstart).2 hnew
    refine ⟨marks', hsees', ?_⟩
    have hleft : run g ⟨marks.set start .onPath, [⟨start, g.childIds start⟩], v.left.reverse⟩ =
        ⟨inner.set start .done, [], (u.leave start).left.reverse⟩ := by
      refine (hdown.trans (run_of_step? rfl)).trans ?_
      rw [run_of_path_nil, Visited.leave, List.reverse_append]
      rfl
    rw [List.foldl_cons, startAt, if_pos hmark, enter, hleft]
    exact hfold

end Traversal

/-! ## Order -/

namespace Graph

def isChild (g : Graph) (v : Nat) : Bool := (List.range g.size).any fun u => v ∈ g.childIds u

/-- The nodes that are no children, then the others. -/
def rootsFirst (g : Graph) : List Nat :=
  (List.range g.size).filter (fun v => !g.isChild v) ++ (List.range g.size).filter g.isChild

theorem isChild_iff {g : Graph} {v : Nat} : g.isChild v = true ↔ ∃ u, g.Edge u v := by
  simp only [isChild, List.any_eq_true, List.mem_range, decide_eq_true_eq]
  exact ⟨fun ⟨u, _, hedge⟩ => ⟨u, hedge⟩, fun ⟨u, hedge⟩ => ⟨u, lt_of_edge hedge, hedge⟩⟩

theorem Holds.startNodes_eq {g : Graph} {tables : List String} {references : List (String × String)}
    (h : g.Holds tables references) : g.startNodes = g.rootsFirst := by
  have hmarked : g.hasParent = g.isChild := funext fun v => Bool.eq_iff_iff.2 ((h.hasParent_iff v).trans isChild_iff.symm)
  rw [startNodes, hmarked]
  rfl

theorem exists_visits_startNodes {g : Graph} (hg : g.Closed) : ∃ w, g.Visits g.startNodes {} w ∧ w.left = g.postorder := by
  refine ⟨_, visits_foldl_visit hg g.size (fun n hn => mem_startNodes.1 hn) ?_, rfl⟩
  exact List.countP_le_length.trans_eq List.length_range

theorem finished_traversal {g : Graph} (hg : g.Closed) {w : Visited} (h : g.Visits g.startNodes {} w) :
    g.traversal.finished = w.left.reverse := by
  obtain ⟨marks, -, hfold⟩ :=
    Traversal.foldl_startAt_of_visits hg h (fun n hn => mem_startNodes.1 hn) (Traversal.sees_start g)
  exact congrArg Traversal.finished hfold

/-- The traversal of a graph comes to its end, having finished the nodes as the recursion leaves them, each node once. -/
theorem order_ofSteps (steps : List GraphStep) :
    (ofSteps steps).Holds (mentioned steps) (recorded steps) ∧ (ofSteps steps).traversal.path = [] ∧
      ∃ w, (ofSteps steps).Visits (ofSteps steps).rootsFirst {} w ∧
        (∀ w', (ofSteps steps).Visits (ofSteps steps).rootsFirst {} w' → w' = w) ∧ w.left = (ofSteps steps).postorder ∧
        (ofSteps steps).order = w.left.reverse.map (ofSteps steps).name ∧
        w.left.Perm (List.range (ofSteps steps).size) ∧
        (ofSteps steps).order.Perm (distinctNames (mentioned steps)) := by
  have hholds := holds_ofSteps steps
  generalize ofSteps steps = g at hholds ⊢
  obtain ⟨w, hvisits, hleft⟩ := exists_visits_startNodes hholds.closed
  have hfinished := finished_traversal hholds.closed hvisits
  have hperm := perm_finished hholds.closed
  have hnames : (List.range g.size).map g.name = g.nodes.map Node.name := by
    refine List.ext_getElem (by simp [size]) fun i hi hi' => ?_
    rw [List.getElem_map, List.getElem_range, List.getElem_map, name_eq]
  rw [← hholds.startNodes_eq]
  refine ⟨hholds, (rests_traversal hholds.closed).path_eq, w, hvisits, fun w' h => hvisits.unique h, hleft, ?_, ?_, ?_⟩
  · rw [order, hfinished]
  · exact (List.reverse_perm w.left).symm.trans (hfinished ▸ hperm)
  · rw [← hholds.names, ← hnames]
    exact hperm.map g.name

/-- Two tables refer to each other, and a third one to one of them: no node is a root, and the cycle is entered where it
was mentioned first. -/
example : (ofSteps [.reference "b" "A", .table "c", .reference "a" "B", .reference "B" "C"]).postorder = [1, 2, 0] := by
  decide +kernel

theorem order_eq_postorder {g : Graph} (hg : g.Closed) : g.order = g.postorder.reverse.map g.name := by
  obtain ⟨w, hvisits, hleft⟩ := exists_visits_startNodes hg
  rw [order, finished_traversal hg hvisits, hleft]

end Graph

/-- The tables of some references as the recursion over them gives them. -/
def recursiveOrder (references : References) : List String :=
  ((referenceGraph references).postorder.reverse.map (referenceGraph references).name).filterMap fun name =>
    findName? name (references.map Prod.fst)

theorem sortReferences_eq_recursiveOrder (references : References) :
    sortReferences references = recursiveOrder references := by
  rw [sortReferences, Graph.order_eq_postorder (wellFormed_referenceGraph references).closed]
  rfl

end TableDump.Schema
