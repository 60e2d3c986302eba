import TableDump.Proofs.Schema.RecursiveTraversal

/-! # Moves of a traversal

What holds between any two moves of the traversal of a graph, and of all moves up to there.

* `Move`: a traversal starts at a node, looks at an edge, which it follows or passes over, or leaves a node.
  `Traversal.Makes` tells the move of each step.
* `Graph.Underway`: the states between two moves, from the empty path before the first start node on. From each of them
  more moves lead to the end of the traversal (`Underway.exists_traversal`).
* `Traversal.Examines`: the children of a node that were looked at, followed by those still to come, are its children in
  their order, also where other nodes were traversed in between.
* No node is entered twice and no edge is looked at twice, and an edge is passed over as leading back to the path only if
  its two tables lie on a common cycle of references (`underway_keeps`).
-/

namespace TableDump.Schema
open TableDump.Text
set_option autoImplicit false

/-! ## Moves -/

inductive Move
  | start (node : Nat)
  | descend (node child : Nat)
  /-- looks at an edge whose child is on the path -/
  | back (node child : Nat)
  | pass (node child : Nat)
  | leave (node : Nat)
deriving DecidableEq, Repr

namespace Move

def entered? : Move → Option Nat
  | start node => some node
  | descend _ child => some child
  | back _ _ | pass _ _ | leave _ => none

def edge? : Move → Option (Nat × Nat)
  | descend node child | back node child | pass node child => some (node, child)
  | start _ | leave _ => none

end Move

def entered (moves : List Move) : List Nat := moves.filterMap Move.entered?

def edges (moves : List Move) : List (Nat × Nat) := moves.filterMap Move.edge?

/-- The children of a node that were looked at. -/
def examined (moves : List Move) (node : Nat) : List Nat := ((edges moves).filter fun e => e.1 = node).map Prod.snd

theorem entered_concat (moves : List Move) (m : Move) : entered (moves ++ [m]) = entered moves ++ m.entered?.toList := by
  rw [entered, List.filterMap_append, ← entered]
  cases m <;> rfl

theorem edges_concat (moves : List Move) (m : Move) : edges (moves ++ [m]) = edges moves ++ m.edge?.toList := by
  rw [edges, List.filterMap_append, ← edges]
  cases m <;> rfl

theorem examined_of_edge?_none {m : Move} (h : m.edge? = none) (moves : List Move) :
    examined (moves ++ [m]) = examined moves := by
  funext node
  rw [examined, edges_concat, h, Option.toList_none, List.append_nil, ← examined]

theorem examined_self {m : Move} {node child : Nat} (h : m.edge? = some (node, child)) (moves : List Move) :
    examined (moves ++ [m]) node = examined moves node ++ [child] := by
  rw [examined, edges_concat, h, List.filter_append, List.map_append, ← examined]
  simp

theorem examined_of_ne {m : Move} {node child other : Nat} (h : m.edge? = some (node, child)) (hne : other ≠ node)
    (moves : List Move) : examined (moves ++ [m]) other = examined moves other := by
  rw [examined, edges_concat, h, List.filter_append, List.map_append, ← examined]
  simp [Ne.symm hne]

/-- Edges are looked at once if the children of each node are. -/
theorem nodup_edges {moves : List Move} (h : ∀ node, (examined moves node).Nodup) : (edges moves).Nodup := by
  refine List.nodup_iff_count.2 fun e => ?_
  calc (edges moves).count e
      = ((edges moves).filter fun e' => e'.1 = e.1).count e := by rw [List.count_filter (by simp)]
    _ ≤ (examined moves e.1).count e.2 := List.count_le_count_map
    _ ≤ 1 := List.nodup_iff_count.1 (h e.1) e.2

/-! ## Steps -/

namespace Traversal

/-- The move that a step makes. -/
inductive Makes (g : Graph) : Traversal → Move → Traversal → Prop
  | leave (marks : List Mark) (node : Nat) (below : List Frame) (finished : List Nat) :
    Makes g ⟨marks, ⟨node, []⟩ :: below, finished⟩ (.leave node) ⟨marks.set node .done, below, node :: finished⟩
  | descend (marks : List Mark) (node child : Nat) (pending : List Nat) (below : List Frame) (finished : List Nat)
      (hchild : marks[child]?.getD .done = .unseen) :
    Makes g ⟨marks, ⟨node, child :: pending⟩ :: below, finished⟩ (.descend node child)
      (enter g child ⟨marks, ⟨node, pending⟩ :: below, finished⟩)
  | back (marks : List Mark) (node child : Nat) (pending : List Nat) (below : List Frame) (finished : List Nat)
      (hchild : marks[child]?.getD .done = .onPath) :
    Makes g ⟨marks, ⟨node, child :: pending⟩ :: below, finished⟩ (.back node child)
      ⟨marks, ⟨node, pending⟩ :: below, finished⟩
  | pass (marks : List Mark) (node child : Nat) (pending : List Nat) (below : List Frame) (finished : List Nat)
      (hchild : marks[child]?.getD .done = .done) :
    Makes g ⟨marks, ⟨node, child :: pending⟩ :: below, finished⟩ (.pass node child)
      ⟨marks, ⟨node, pending⟩ :: below, finished⟩

variable {g : Graph} {t next : Traversal} {m : Move} {moves : List Move}

theorem Makes.step (h : Makes g t m next) : Step g t next := by
  cases h with
  | leave marks node below finished => exact .leave marks node below finished
  | descend marks node child pending below finished hchild => exact .enter marks node child pending below finished hchild
  | back marks node child pending below finished hchild | pass marks node child pending below finished hchild =>
    exact .skip marks node child pending below finished (by rw [hchild]; decide)

theorem Makes.step?_eq (h : Makes g t m next) : t.step? g = some next := by
  cases h with
  | leave => rfl
  | descend marks node child pending below finished hchild => exact congrArg some (if_pos hchild)
  | back marks node child pending below finished hchild | pass marks node child pending below finished hchild =>
    exact congrArg some (if_neg fun hunseen : marks[child]?.getD .done = .unseen => by rw [hchild] at hunseen; cases hunseen)

theorem exists_makes (h : t.step? g = some next) : ∃ m, Makes g t m next := by
  cases step_of_step? h with
  | leave marks node below finished => exact ⟨_, .leave marks node below finished⟩
  | enter marks node child pending below finished hchild => exact ⟨_, .descend marks node child pending below finished hchild⟩
  | skip marks node child pending below finished hchild =>
    match hmark : marks[child]?.getD .done with
    | .unseen => exact absurd hmark hchild
    | .onPath => exact ⟨_, .back marks node child pending below finished hmark⟩
    | .done => exact ⟨_, .pass marks node child pending below finished hmark⟩

/-! ## What was seen -/

/-- What was entered or looked at was seen, and nothing was entered twice. -/
structure Sights (moves : List Move) (t : Traversal) : Prop where
  entered_seen : ∀ v ∈ entered moves, t.mark v ≠ .unseen
  edges_seen : ∀ e ∈ edges moves, t.mark e.2 ≠ .unseen
  nodup_entered : (entered moves).Nodup

theorem Sights.keep (h : Sights moves t) (hm : m.entered? = none)
    (hedge : ∀ e, m.edge? = some e → next.mark e.2 ≠ .unseen) (hseen : ∀ v, t.mark v ≠ .unseen → next.mark v ≠ .unseen) :
    Sights (moves ++ [m]) next := by
  have hentered : entered (moves ++ [m]) = entered moves := by
    rw [entered_concat, hm, Option.toList_none, List.append_nil]
  refine ⟨fun v hv => hseen v (h.entered_seen v (hentered ▸ hv)), fun e he => ?_, hentered ▸ h.nodup_entered⟩
  rw [edges_concat] at he
  rcases List.mem_append.1 he with he | he
  · exact hseen e.2 (h.edges_seen e he)
  · exact hedge e (Option.mem_toList.1 he)

theorem Sights.enter {node : Nat} (h : Sights moves t) (hnew : t.mark node = .unseen) (hm : m.entered? = some node)
    (hedge : ∀ e, m.edge? = some e → e.2 = node) : Sights (moves ++ [m]) (t.enter g node) := by
  have hlt : node < t.marks.length := lt_of_mark (by simp [hnew])
  have hnode : (t.enter g node).mark node ≠ .unseen := by simp [Traversal.enter, mark, hlt]
  have hseen : ∀ v, t.mark v ≠ .unseen → (t.enter g node).mark v ≠ .unseen := fun v hv => seen_set (by decide) hv
  have hentered : entered (moves ++ [m]) = entered moves ++ [node] := by
    rw [entered_concat, hm, Option.toList_some]
  refine ⟨fun v hv => ?_, fun e he => ?_, ?_⟩
  · rw [hentered] at hv
    rcases List.mem_append.1 hv with hv | hv
    · exact hseen v (h.entered_seen v hv)
    · rw [List.mem_singleton.1 hv]
      exact hnode
  · rw [edges_concat] at he
    rcases List.mem_append.1 he with he | he
    · exact hseen e.2 (h.edges_seen e he)
    · rw [hedge e (Option.mem_toList.1 he)]
      exact hnode
  · -- what was entered before was seen
    rw [hentered, List.nodup_append]
    refine ⟨h.nodup_entered, by simp, fun v hv u hu heq => ?_⟩
    rw [heq, List.mem_singleton.1 hu] at hv
    exact h.entered_seen node hv hnew

theorem Sights.makes (h : Sights moves t) (hmove : Makes g t m next) : Sights (moves ++ [m]) next := by
  have hseen : ∀ v, t.mark v ≠ .unseen → next.mark v ≠ .unseen := fun v hv => hmove.step.seen hv
  cases hmove with
  | leave => exact h.keep rfl nofun hseen
  | descend marks node child pending below finished hchild =>
    have hsights : Sights moves ⟨marks, ⟨node, pending⟩ :: below, finished⟩ :=
      ⟨h.entered_seen, h.edges_seen, h.nodup_entered⟩
    refine hsights.enter hchild rfl fun e he => ?_
    cases he
    rfl
  | back marks node child pending below finished hchild | pass marks node child pending below finished hchild =>
    refine h.keep rfl (fun e he => ?_) hseen
    cases he
    change marks[child]?.getD .done ≠ .unseen
    rw [hchild]
    decide

/-! ## What was looked at -/

/-- The children of a node on the path are those that were looked at, then those to come. Those of a finished node were
all looked at, and those of other nodes were not. -/
structure Examines (g : Graph) (moves : List Move) (t : Traversal) : Prop where
  resumes : ∀ f ∈ t.path, g.childIds f.node = examined moves f.node ++ f.pending
  finished : ∀ v ∈ t.finished, examined moves v = g.childIds v
  untouched : ∀ v, v ∉ t.path.map Frame.node → v ∉ t.finished → examined moves v = []

theorem Examines.begins (h : Examines g moves t) (v : Nat) : examined moves v <+: g.childIds v := by
  by_cases hpath : v ∈ t.path.map Frame.node
  · obtain ⟨f, hf, rfl⟩ := List.mem_map.1 hpath
    exact ⟨f.pending, (h.resumes f hf).symm⟩
  · by_cases hfinished : v ∈ t.finished
    · exact ⟨[], by rw [h.finished v hfinished, List.append_nil]⟩
    · rw [h.untouched v hpath hfinished]
      exact List.nil_prefix

theorem Examines.leave {marks marks' : List Mark} {node : Nat} {below : List Frame} {finished : List Nat}
    (h : Examines g moves ⟨marks, ⟨node, []⟩ :: below, finished⟩) :
    Examines g (moves ++ [.leave node]) ⟨marks', below, node :: finished⟩ := by
  have hsame : examined (moves ++ [.leave node]) = examined moves := examined_of_edge?_none rfl moves
  refine ⟨fun f hf => ?_, fun v hv => ?_, fun v hpath hfinished => ?_⟩
  · rw [hsame]
    exact h.resumes f (List.mem_cons_of_mem _ hf)
  · rw [hsame]
    rcases List.mem_cons.1 hv with rfl | hv
    · simpa using (h.resumes ⟨v, []⟩ List.mem_cons_self).symm
    · exact h.finished v hv
  · rw [hsame]
    refine h.untouched v ?_ (List.not_mem_of_not_mem_cons hfinished)
    exact List.not_mem_cons_of_ne_of_not_mem (List.ne_of_not_mem_cons hfinished) hpath

theorem Inv.notMem_path (h : Inv g t) {v : Nat} (hv : t.mark v ≠ .onPath) : v ∉ t.path.map Frame.node :=
  fun hmem => hv ((h.mem_path v).1 hmem)

theorem Inv.notMem_finished (h : Inv g t) {v : Nat} (hv : t.mark v ≠ .done) : v ∉ t.finished :=
  fun hmem => hv ((h.mem_finished v).1 hmem).2

/-- A child that is looked at is no longer to come. -/
theorem Examines.look {marks : List Mark} {node child : Nat} {pending : List Nat} {below : List Frame} {finished : List Nat}
    (h : Examines g moves ⟨marks, ⟨node, child :: pending⟩ :: below, finished⟩)
    (hinv : Inv g ⟨marks, ⟨node, child :: pending⟩ :: below, finished⟩) (hm : m.edge? = some (node, child)) :
    Examines g (moves ++ [m]) ⟨marks, ⟨node, pending⟩ :: below, finished⟩ := by
  have hbelow : node ∉ below.map Frame.node := (List.nodup_cons.1 hinv.nodup_path).1
  have hfinished : node ∉ finished := hinv.notMem_finished (by simp [(hinv.mem_path node).1 List.mem_cons_self])
  refine ⟨fun f hf => ?_, fun v hv => ?_, fun v hpath hv => ?_⟩
  · rcases List.mem_cons.1 hf with rfl | hf
    · rw [examined_self hm, List.append_assoc, List.singleton_append]
      exact h.resumes ⟨node, child :: pending⟩ List.mem_cons_self
    · have hne : f.node ≠ node := fun heq => hbelow (heq ▸ List.mem_map_of_mem hf)
      rw [examined_of_ne hm hne]
      exact h.resumes f (List.mem_cons_of_mem _ hf)
  · have hne : v ≠ node := fun heq => hfinished (heq ▸ hv)
    rw [examined_of_ne hm hne]
    exact h.finished v hv
  · rw [examined_of_ne hm (List.ne_of_not_mem_cons hpath)]
    exact h.untouched v hpath hv

/-- Of a node that is entered no child was looked at. -/
theorem Examines.enter {node : Nat} (h : Examines g moves t) (hpath : node ∉ t.path.map Frame.node)
    (hfinished : node ∉ t.finished) : Examines g moves (t.enter g node) := by
  refine ⟨fun f hf => ?_, h.finished, fun v hv => h.untouched v (List.not_mem_of_not_mem_cons hv)⟩
  rcases List.mem_cons.1 hf with rfl | hf
  · rw [h.untouched node hpath hfinished, List.nil_append]
  · exact h.resumes f hf

theorem Examines.makes (h : Examines g moves t) (hinv : Inv g t) (hmove : Makes g t m next) :
    Examines g (moves ++ [m]) next := by
  cases hmove with
  | leave => exact h.leave
  | descend marks node child pending below finished hchild =>
    have hunseen : mark ⟨marks, ⟨node, child :: pending⟩ :: below, finished⟩ child = .unseen := hchild
    exact (h.look hinv rfl).enter (hinv.notMem_path (by simp [hunseen])) (hinv.notMem_finished (by simp [hunseen]))
  | back | pass => exact h.look hinv rfl

/-! ## Edges that lead back -/

/-- The child of an edge that was passed over as leading back leads to its parent. -/
def LeadsBack (g : Graph) (moves : List Move) : Prop := ∀ u v, .back u v ∈ moves → g.Edge u v ∧ g.Reaches v u

theorem LeadsBack.makes (h : LeadsBack g moves) (hinv : Inv g t) (hmove : Makes g t m next) :
    LeadsBack g (moves ++ [m]) := by
  intro u v hmem
  rcases List.mem_append.1 hmem with hmem | hmem
  · exact h u v hmem
  · obtain rfl := List.mem_singleton.1 hmem
    cases hmove with
    | back marks u v pending below finished hchild =>
      obtain ⟨passed, hchildren, -⟩ := hinv.passed ⟨u, v :: pending⟩ List.mem_cons_self
      refine ⟨?_, reaches_top hinv.chain v ((hinv.mem_path v).2 hchild)⟩
      rw [Graph.Edge, hchildren]
      exact List.mem_append_right _ List.mem_cons_self

end Traversal

/-! ## Traversals under way -/

namespace Graph
open Traversal

/-- The start nodes still to come, the moves so far, and the state after them. -/
inductive Underway (g : Graph) : List Nat → List Move → Traversal → Prop
  | begin : Underway g g.startNodes [] { marks := List.replicate g.size .unseen }
  | skip {node : Nat} {starts : List Nat} {moves : List Move} {t : Traversal} (h : Underway g (node :: starts) moves t)
      (hpath : t.path = []) (hseen : t.mark node ≠ .unseen) : Underway g starts moves t
  | start {node : Nat} {starts : List Nat} {moves : List Move} {t : Traversal} (h : Underway g (node :: starts) moves t)
      (hpath : t.path = []) (hnew : t.mark node = .unseen) : Underway g starts (moves ++ [.start node]) (t.enter g node)
  | step {starts : List Nat} {moves : List Move} {t : Traversal} {m : Move} {next : Traversal}
      (h : Underway g starts moves t) (hmove : Makes g t m next) : Underway g starts (moves ++ [m]) next

variable {g : Graph} {starts : List Nat} {moves : List Move} {t : Traversal}

/-! ### To the end -/

theorem Underway.exists_run (h : g.Underway starts moves t) : ∃ more, g.Underway starts (moves ++ more) (t.run g) := by
  fun_induction Traversal.run g t generalizing moves with
  | case1 t hnone => exact ⟨[], by rwa [List.append_nil]⟩
  | case2 t next hsome ih =>
    obtain ⟨m, hmove⟩ := exists_makes hsome
    obtain ⟨more, hmore⟩ := ih (h.step hmove)
    exact ⟨m :: more, by rwa [List.append_assoc] at hmore⟩

theorem Underway.exists_foldl (h : g.Underway starts moves t) (hpath : t.path = []) :
    ∃ more, g.Underway [] (moves ++ more) (starts.foldl (startAt g) t) := by
  induction starts generalizing moves t with
  | nil => exact ⟨[], by rwa [List.append_nil]⟩
  | cons node starts ih =>
    rw [List.foldl_cons, startAt]
    by_cases hnew : t.mark node = .unseen
    · obtain ⟨first, hfirst⟩ := (h.start hpath hnew).exists_run
      have hend : ((t.enter g node).run g).path = [] := (run_induction (P := fun _ => True) (by simp) _ trivial).2
      obtain ⟨more, hmore⟩ := ih hfirst hend
      refine ⟨.start node :: first ++ more, ?_⟩
      rw [if_pos hnew]
      simpa using hmore
    · rw [if_neg hnew]
      exact ih (h.skip hpath hnew) hpath

/-- What is left of the traversal from a state on is what is left of the whole one. -/
theorem Underway.foldl_run_eq (h : g.Underway starts moves t) : starts.foldl (startAt g) (t.run g) = g.traversal := by
  have hrun : ∀ {t : Traversal}, t.path = [] → t.run g = t := by
    rintro ⟨marks, path, finished⟩ rfl
    exact run_of_path_nil marks finished
  induction h with
  | begin => rw [hrun rfl, traversal]
  | @skip node starts moves t _ hpath hseen ih =>
    rw [hrun hpath] at ih ⊢
    rwa [List.foldl_cons, startAt, if_neg hseen] at ih
  | @start node starts moves t _ hpath hnew ih =>
    rw [hrun hpath] at ih
    rwa [List.foldl_cons, startAt, if_pos hnew] at ih
  | step _ hmove ih => rwa [run_of_step? hmove.step?_eq] at ih

theorem Underway.exists_traversal (h : g.Underway starts moves t) :
    ∃ more, g.Underway [] (moves ++ more) g.traversal := by
  obtain ⟨first, hfirst⟩ := h.exists_run
  have hend : (t.run g).path = [] := (run_induction (P := fun _ => True) (by simp) _ trivial).2
  obtain ⟨more, hmore⟩ := hfirst.exists_foldl hend
  rw [h.foldl_run_eq, List.append_assoc] at hmore
  exact ⟨first ++ more, hmore⟩

/-! ### Between two moves -/

theorem Underway.told (hg : g.Closed) (h : g.Underway starts moves t) :
    Inv g t ∧ Sights moves t ∧ Examines g moves t ∧ LeadsBack g moves := by
  induction h with
  | begin =>
    refine ⟨inv_start g, ⟨nofun, nofun, List.nodup_nil⟩, ⟨nofun, nofun, fun _ _ _ => rfl⟩, nofun⟩
  | skip _ _ _ ih => exact ih
  | @start node starts moves t _ hpath hnew ih =>
    obtain ⟨hinv, hsights, hexamines, hback⟩ := ih
    have hchain : (node :: t.path.map Frame.node).IsChain fun upper lower => g.Edge lower upper := by
      rw [hpath]
      exact List.isChain_singleton node
    have hentered := hexamines.enter (hinv.notMem_path (v := node) (by simp [hnew])) (hinv.notMem_finished (by simp [hnew]))
    have hsame : examined (moves ++ [.start node]) = examined moves := examined_of_edge?_none rfl moves
    refine ⟨hinv.enter hnew hchain, hsights.enter hnew rfl nofun, ?_, fun u v hmem => hback u v (by simpa using hmem)⟩
    exact ⟨hsame ▸ hentered.resumes, hsame ▸ hentered.finished, hsame ▸ hentered.untouched⟩
  | step _ hmove ih =>
    obtain ⟨hinv, hsights, hexamines, hback⟩ := ih
    exact ⟨hmove.step.inv hg hinv, hsights.makes hmove, hexamines.makes hinv hmove, hback.makes hinv hmove⟩

end Graph

/-! ## Cycles of references -/

/-- `a` refers to `b`, another table. -/
def Refers (references : List (String × String)) (a b : String) : Prop :=
  ∃ r ∈ referrers references b, sameName r a = true

/-- Chains of references lead from each of the tables to the other one. -/
def OnCycle (references : List (String × String)) (a b : String) : Prop :=
  Relation.TransGen (Refers references) a b ∧ Relation.TransGen (Refers references) b a

namespace Graph
open Traversal
variable {g : Graph} {tables : List String} {references : List (String × String)}

theorem Holds.refers (h : g.Holds tables references) {u v : Nat} (hedge : g.Edge u v) :
    Refers references (g.name v) (g.name u) :=
  (h.mem_childIds_iff (lt_of_edge hedge) (h.closed u v hedge) (sameName_refl _)).1 hedge

theorem Holds.onCycle (h : g.Holds tables references) {u v : Nat} (hedge : g.Edge u v) (hback : g.Reaches v u) :
    OnCycle references (g.name u) (g.name v) := by
  have hrefers : Refers references (g.name v) (g.name u) := h.refers hedge
  refine ⟨?_, .single hrefers⟩
  -- the chain from `v` to `u` is one of references from `u` to `v`; it is not empty, as no table refers to itself here
  have hchain : ∀ {w}, g.Reaches v w → w ≠ v → Relation.TransGen (Refers references) (g.name w) (g.name v) := by
    intro w hreach
    induction hreach with
    | refl => exact fun hne => absurd rfl hne
    | @tail w w' _ hstep ih =>
      intro _
      by_cases heq : w = v
      · exact .single (heq ▸ h.refers hstep)
      · exact .head (h.refers hstep) (ih heq)
  refine hchain hback fun heq => ?_
  obtain ⟨r, hr, hname⟩ := hrefers
  obtain ⟨_, hmem, rfl⟩ := List.mem_map.1 hr
  have hother := (List.mem_filter.1 hmem).2
  rw [Bool.and_eq_true, Bool.not_eq_true', heq, hname] at hother
  exact absurd hother.2 (by decide)

theorem Holds.nodup_childIds (h : g.Holds tables references) (u : Nat) : (g.childIds u).Nodup := by
  by_cases hu : u < g.size
  · have hnames : ((distinctNames (referrers references (g.name u))).map lower).Nodup := by
      refine List.pairwise_map.2 ((pairwise_distinctNames _).imp fun {a b} hab heq => ?_)
      rw [sameName_iff.2 heq] at hab
      cases hab
    rw [← h.children u hu] at hnames
    exact List.Pairwise.of_map _ (fun a b hne heq => hne (heq ▸ rfl)) hnames
  · have hnil : g.childIds u = [] := by simp [childIds, List.getElem?_eq_none (Nat.le_of_not_lt hu)]
    rw [hnil]
    exact List.nodup_nil

/-- What holds between two moves. -/
structure Keeps (g : Graph) (references : List (String × String)) (moves : List Move) (t : Traversal) : Prop where
  onPath_iff : ∀ v, t.mark v = .onPath ↔ v ∈ t.path.map Frame.node
  nodup_path : (t.path.map Frame.node).Nodup
  /-- each node of the path is a child of the one below it -/
  chain : (t.path.map Frame.node).IsChain fun upper lower => g.Edge lower upper
  done_iff : ∀ v, v < g.size ∧ t.mark v = .done ↔ v ∈ t.finished
  nodup_finished : t.finished.Nodup
  children : ∀ u ∈ t.finished, ∀ v, g.Edge u v → v ∈ t.finished ∨ v ∈ t.path.map Frame.node
  nodup_entered : (entered moves).Nodup
  nodup_edges : (edges moves).Nodup
  resumes : ∀ f ∈ t.path, g.childIds f.node = examined moves f.node ++ f.pending
  back : ∀ u v, .back u v ∈ moves → OnCycle references (g.name u) (g.name v)

/-- The traversal of a graph comes to its end from each of its states, and each of them keeps the invariant. -/
theorem underway_keeps (steps : List GraphStep) {starts : List Nat} {moves : List Move} {t : Traversal}
    (h : (ofSteps steps).Underway starts moves t) :
    (∃ more, (ofSteps steps).Underway [] (moves ++ more) (ofSteps steps).traversal) ∧
      (ofSteps steps).Keeps (recorded steps) moves t := by
  refine ⟨h.exists_traversal, ?_⟩
  have hholds := holds_ofSteps steps
  obtain ⟨hinv, hsights, hexamines, hback⟩ := h.told hholds.closed
  refine ⟨fun v => (hinv.mem_path v).symm, hinv.nodup_path, hinv.chain, fun v => (hinv.mem_finished v).symm,
    hinv.nodup_finished, fun u hu v hedge => ?_, hsights.nodup_entered, ?_, hexamines.resumes, fun u v hmem => ?_⟩
  · -- all children of a finished node were looked at, so they were seen
    have hmem : v ∈ examined moves u := by
      rw [hexamines.finished u hu]
      exact hedge
    obtain ⟨e, he, rfl⟩ := List.mem_map.1 hmem
    have hseen := hsights.edges_seen e (List.mem_filter.1 he).1
    match hmark : t.mark e.2 with
    | .unseen => exact absurd hmark hseen
    | .onPath => exact .inr ((hinv.mem_path e.2).2 hmark)
    | .done => exact .inl ((hinv.mem_finished e.2).2 ⟨hholds.closed u e.2 hedge, hmark⟩)
  · exact nodup_edges fun node => (hexamines.begins node).sublist.nodup (hholds.nodup_childIds node)
  · obtain ⟨hedge, hreach⟩ := hback u v hmem
    exact hholds.onCycle hedge hreach

/-- Two tables refer to each other, and a third one to the one of them that was mentioned first. -/
def cyclicSteps : List GraphStep := [.reference "b" "A", .table "c", .reference "a" "B", .reference "B" "C"]

/-- The first child of the start node has been left, the second one is still to come. -/
theorem underway_cyclic : (ofSteps cyclicSteps).Underway [1, 2] [.start 0, .descend 0 1, .back 1 0, .leave 1]
    ⟨[.onPath, .done, .unseen], [⟨0, [2]⟩], [1]⟩ := by
  have hgraph : ofSteps cyclicSteps = ⟨[⟨"b", [1, 2], true⟩, ⟨"A", [0], true⟩, ⟨"c", [], true⟩]⟩ := by decide
  rw [hgraph]
  have hstart := Underway.start (g := ⟨[⟨"b", [1, 2], true⟩, ⟨"A", [0], true⟩, ⟨"c", [], true⟩]⟩) .begin rfl rfl
  have hdescend := hstart.step (.descend [.onPath, .unseen, .unseen] 0 1 [2] [] [] rfl)
  have hback := hdescend.step (.back [.onPath, .onPath, .unseen] 1 0 [] [⟨0, [2]⟩] [] rfl)
  exact hback.step (.leave [.onPath, .onPath, .unseen] 1 [⟨0, [2]⟩] [])

theorem underway_keeps_cyclic :
    (ofSteps cyclicSteps).Underway [1, 2] [.start 0, .descend 0 1, .back 1 0, .leave 1]
      ⟨[.onPath, .done, .unseen], [⟨0, [2]⟩], [1]⟩ ∧
    OnCycle (recorded cyclicSteps) "A" "b" ∧ (ofSteps cyclicSteps).childIds 0 = [1] ++ [2] ∧
    ∃ more, (ofSteps cyclicSteps).Underway [] ([.start 0, .descend 0 1, .back 1 0, .leave 1] ++ more)
      (ofSteps cyclicSteps).traversal := by
  obtain ⟨hmore, hkeeps⟩ := underway_keeps cyclicSteps underway_cyclic
  have hnames : (ofSteps cyclicSteps).name 1 = "A" ∧ (ofSteps cyclicSteps).name 0 = "b" := by decide
  have hcycle := hkeeps.back 1 0 (by decide)
  rw [hnames.1, hnames.2] at hcycle
  exact ⟨underway_cyclic, hcycle, hkeeps.resumes ⟨0, [2]⟩ List.mem_cons_self, hmore⟩

end Graph
end TableDump.Schema
