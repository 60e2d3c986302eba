import TableDump.Fault
import TableDump.Schema.Spelling

/-! # Reference graphs

Tables and the tables that refer to them.

* `Graph`: nodes numbered in the order of first mention, each with the numbers of the tables that refer
  to it. Names are compared ignoring case, and a node keeps the spelling of its first mention.
* `Graph.addTable` and `Graph.addReference` build a graph; a reference of a table to itself is left out.
* `Graph.roots`: the tables that refer to no other table of the graph.
-/

namespace TableDump.Schema
open TableDump.Text
set_option autoImplicit false

structure Node where
  name : String
  children : List Nat := []
  hasParent : Bool := false
deriving DecidableEq, Repr

structure Graph where
  nodes : List Node := []
deriving DecidableEq, Repr

namespace Graph

def size (g : Graph) : Nat := g.nodes.length

def idOf? (g : Graph) (table : String) : Option Nat := g.nodes.findIdx? fun n => sameName n.name table

def contains (g : Graph) (table : String) : Bool := (g.idOf? table).isSome

def name (g : Graph) (id : Nat) : String := (g.nodes[id]?.map Node.name).getD ""

def childIds (g : Graph) (id : Nat) : List Nat := (g.nodes[id]?.map Node.children).getD []

def hasParent (g : Graph) (id : Nat) : Bool := (g.nodes[id]?.map Node.hasParent).getD false

/-! ## Building -/

/-- The graph with a node for `table`, and the number of the node. -/
def addTable (g : Graph) (table : String) : Graph × Nat :=
  match g.idOf? table with
  | some id => (g, id)
  | none => (⟨g.nodes ++ [{ name := table }]⟩, g.size)

def Node.addChild (child : Nat) (n : Node) : Node :=
  if child ∈ n.children then n else { n with children := n.children ++ [child] }

def link (g : Graph) (parent child : Nat) : Graph :=
  ⟨(g.nodes.modify parent (Node.addChild child)).modify child fun n => { n with hasParent := true }⟩

/-- Records that `referencing` refers to `referenced`. -/
def addReference (g : Graph) (referenced referencing : String) : Graph :=
  let (g, parent) := g.addTable referenced
  let (g, child) := g.addTable referencing
  if parent = child then g else g.link parent child

theorem idOf?_addTable (g : Graph) (table : String) :
    (g.addTable table).1.idOf? table = some (g.addTable table).2 := by
  unfold addTable
  split
  · next id h => exact h
  · next h =>
    simp only [idOf?, List.findIdx?_append] at h ⊢
    simp [h, List.findIdx?_cons, sameName_refl, size]

theorem size_addTable (g : Graph) (table : String) :
    (g.addTable table).1.size = if g.contains table then g.size else g.size + 1 := by
  unfold addTable contains
  split
  · next id h => simp [h]
  · next h => simp [h, size]

theorem size_link (g : Graph) (parent child : Nat) : (g.link parent child).size = g.size := by
  simp [link, size]

theorem name_link (g : Graph) (parent child id : Nat) : (g.link parent child).name id = g.name id := by
  simp only [name, link, List.getElem?_modify]
  cases hid : g.nodes[id]? with
  | none => simp
  | some n =>
    by_cases hp : parent = id <;> by_cases hc : child = id <;> simp [hp, hc, Node.addChild] <;> split <;> rfl

/-! ## Reading -/

def roots (g : Graph) : List String := (g.nodes.filter fun n => !n.hasParent).map Node.name

def children (g : Graph) (table : String) : Except Fault (List String) :=
  match g.idOf? table with
  | some id => .ok ((g.childIds id).map g.name)
  | none => .error (.missingKey (lower table))

end Graph
end TableDump.Schema
