import TableDump.Schema.Graph

/-! # Order of a reference graph

Every table once, and a referenced table before the tables that refer to it, cycles aside.

* `Traversal` is a depth-first traversal under way: a mark on every node, the path from the start node
  to the current one, each with the children still to come, and the finished nodes, the last one first.
* `Traversal.step` looks at one child, or finishes a node that has none left. A child already on the
  path closes a cycle and is passed over.
* `Graph.order` starts at the nodes without parent, then at what is left, and reads the finished nodes
  from the last one to the first.
* `Graph.postorder` is the same traversal by plain recursion.
-/

namespace TableDump.Schema
set_option autoImplicit false

inductive Mark
  | unseen | onPath | done
deriving DecidableEq, Repr

structure Frame where
  node : Nat
  pending : List Nat
deriving DecidableEq, Repr

structure Traversal where
  marks : List Mark
  path : List Frame := []
  finished : List Nat := []
deriving DecidableEq, Repr

namespace Traversal

def mark (t : Traversal) (node : Nat) : Mark := t.marks[node]?.getD .done

/-! ## Steps -/

/-- Enters a node. -/
def enter (g : Graph) (node : Nat) (t : Traversal) : Traversal :=
  { t with marks := t.marks.set node .onPath, path := ⟨node, g.childIds node⟩ :: t.path }

/-- The traversal after one step, or none when the path is empty. -/
def step? (g : Graph) (t : Traversal) : Option Traversal :=
  match t.path with
  | [] => none
  | ⟨node, []⟩ :: below =>
    some { marks := t.marks.set node .done, path := below, finished := node :: t.finished }
  | ⟨node, child :: pending⟩ :: below =>
    let rest := { t with path := ⟨node, pending⟩ :: below }
    some (if t.mark child = .unseen then rest.enter g child else rest)

/-! ## Termination -/

def pendingCount (t : Traversal) : Nat := (t.path.flatMap Frame.pending).length + t.path.length

def unseenCount (t : Traversal) : Nat := t.marks.count .unseen

theorem count_set_lt {marks : List Mark} {i : Nat} {m : Mark} (h : marks[i]? = some .unseen)
    (hm : m ≠ .unseen) : (marks.set i m).count .unseen < marks.count .unseen := by
  induction marks generalizing i with
  | nil => simp at h
  | cons a rest ih =>
    cases i with
    | zero =>
      have ha : a = .unseen := by simpa using h
      subst ha
      simp [hm]
    | succ i =>
      have := ih (i := i) (by simpa using h)
      simp only [List.set_cons_succ, List.count_cons]
      omega

theorem count_set_le {marks : List Mark} {i : Nat} {m : Mark} (hm : m ≠ .unseen) :
    (marks.set i m).count .unseen ≤ marks.count .unseen := by
  induction marks generalizing i with
  | nil => simp
  | cons a rest ih =>
    cases i with
    | zero => cases a <;> simp [hm]
    | succ i =>
      have := ih (i := i)
      simp only [List.set_cons_succ, List.count_cons]
      omega

theorem mark_eq_unseen {t : Traversal} {node : Nat} (h : t.mark node = .unseen) :
    t.marks[node]? = some .unseen := by
  unfold mark at h
  cases hm : t.marks[node]? with
  | none => simp [hm] at h
  | some m => simpa [hm] using h

/-- A step sees a new node, or leaves less to do on the path. -/
theorem step?_decreases {g : Graph} {t next : Traversal} (h : t.step? g = some next) :
    next.unseenCount < t.unseenCount ∨
      next.unseenCount ≤ t.unseenCount ∧ next.pendingCount < t.pendingCount := by
  obtain ⟨marks, path, finished⟩ := t
  cases path with
  | nil => simp [step?] at h
  | cons frame below =>
    obtain ⟨node, pending⟩ := frame
    cases pending with
    | nil =>
      simp only [step?, Option.some.injEq] at h
      subst h
      exact Or.inr ⟨count_set_le (by decide), by simp [pendingCount]⟩
    | cons child pending =>
      simp only [step?, Option.some.injEq] at h
      split at h
      · next hc =>
        subst h
        exact Or.inl (count_set_lt (mark_eq_unseen hc) (by decide))
      · subst h
        exact Or.inr ⟨Nat.le_refl _, by simp [pendingCount]⟩

/-- Steps until the path is empty. -/
def run (g : Graph) (t : Traversal) : Traversal :=
  match _h : t.step? g with
  | none => t
  | some next => next.run g
termination_by (t.unseenCount, t.pendingCount)
decreasing_by
  have := step?_decreases _h
  simp only [Prod.lex_def]
  omega

/-- Traverses what can be reached from a start node, unless it was seen. -/
def startAt (g : Graph) (t : Traversal) (node : Nat) : Traversal :=
  if t.mark node = .unseen then (t.enter g node).run g else t

end Traversal

/-! ## Order -/

namespace Graph

/-- The nodes without parent, then the others. -/
def startNodes (g : Graph) : List Nat :=
  let ids := List.range g.size
  ids.filter (fun id => !g.hasParent id) ++ ids.filter fun id => g.hasParent id

def traversal (g : Graph) : Traversal :=
  g.startNodes.foldl (Traversal.startAt g) { marks := List.replicate g.size .unseen }

def order (g : Graph) : List String := g.traversal.finished.map g.name

/-! ## Post-order by recursion -/

/-- The nodes seen, and those of them that were left, in order. -/
structure Visited where
  seen : List Nat := []
  left : List Nat := []
deriving DecidableEq, Repr

/-- Visits a node and, before leaving it, its children, on paths of at most `depth` nodes. -/
def visit (g : Graph) : Nat → Visited → Nat → Visited
  | 0, v, _ => v
  | depth + 1, v, node =>
    if node ∈ v.seen then v
    else
      let v := (g.childIds node).foldl (visit g depth) { v with seen := node :: v.seen }
      { v with left := v.left ++ [node] }

def postorder (g : Graph) : List Nat := (g.startNodes.foldl (g.visit g.size) {}).left

end Graph
end TableDump.Schema
