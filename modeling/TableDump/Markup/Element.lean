import TableDump.Json.Basic
import TableDump.Markup.Name

/-! # Elements

* `Element`: a name and attributes in order, no two of one name.
* `Element.make`, `Element.set` refuse names and texts that a document cannot hold. Texts are made of characters, which
  no lone surrogate is.
* `Element.render` writes an element on one line. Each namespace has a prefix of its own, numbered in
  the order of first use, the element before its attributes, and declared before the attributes.
* `escapeAttribute`: the markup characters as entities, tab and line ends as character references.
-/

namespace TableDump.Markup
open TableDump.Text
set_option autoImplicit false

/-! ## Attribute values -/

def escapeChar (c : Char) : List Char :=
  match c with
  | '&' => "&amp;".toList
  | '<' => "&lt;".toList
  | '>' => "&gt;".toList
  | '"' => "&quot;".toList
  | '\t' => "&#9;".toList
  | '\n' => "&#10;".toList
  | '\r' => "&#13;".toList
  | c => [c]

def escapeAttribute (s : String) : String := String.ofList (s.toList.flatMap escapeChar)

/-! ## Building -/

structure Element where
  name : QualifiedName
  attributes : List (QualifiedName × String) := []
deriving DecidableEq, Repr

namespace Element

/-- An element of the given name, which has to be a text. -/
def make : Json → Except Fault Element
  | .str s => (QualifiedName.forElement s).map fun name => { name }
  | j => .error (.notNameText j.kind)

def setAttribute (name : QualifiedName) (value : String) :
    List (QualifiedName × String) → List (QualifiedName × String)
  | [] => [(name, value)]
  | (n, v) :: rest => if n = name then (n, value) :: rest else (n, v) :: setAttribute name value rest

theorem names_setAttribute (name : QualifiedName) (value : String) (attributes : List (QualifiedName × String)) :
    (setAttribute name value attributes).map Prod.fst =
      if name ∈ attributes.map Prod.fst then attributes.map Prod.fst else attributes.map Prod.fst ++ [name] := by
  induction attributes with
  | nil => simp [setAttribute]
  | cons entry rest ih =>
    obtain ⟨n, v⟩ := entry
    by_cases h : n = name
    · simp [setAttribute, h]
    · by_cases hr : name ∈ rest.map Prod.fst <;> simp_all [setAttribute, eq_comm]

theorem setAttribute_of_notMem {name : QualifiedName} {attributes : List (QualifiedName × String)}
    (h : name ∉ attributes.map Prod.fst) (value : String) :
    setAttribute name value attributes = attributes ++ [(name, value)] := by
  induction attributes with
  | nil => rfl
  | cons entry rest ih =>
    obtain ⟨n, v⟩ := entry
    simp only [List.map_cons, List.mem_cons, not_or] at h
    rw [setAttribute, if_neg (Ne.symm h.1), ih h.2, List.cons_append]

def set (name value : String) (e : Element) : Except Fault Element := do
  let name ← QualifiedName.forAttribute name
  if isXmlText value then return { e with attributes := setAttribute name value e.attributes }
  else throw .notXmlText

/-! ## Rendering -/

/-- The namespaces in the order of first use. -/
def spaces (e : Element) : List String :=
  ((e.name :: e.attributes.map Prod.fst).filterMap QualifiedName.space).eraseDups

def prefixAt (i : Nat) : String := "ns" ++ toString i

/-- A name with the prefix of its namespace. -/
def nameIn (spaces : List String) (q : QualifiedName) : String :=
  match q.space with
  | none => q.localName
  | some space => prefixAt (spaces.idxOf space) ++ ":" ++ q.localName

def attributeText (name value : String) : String := " " ++ name ++ "=\"" ++ escapeAttribute value ++ "\""

def declarations (spaces : List String) : List String :=
  spaces.mapIdx fun i space => attributeText ("xmlns:" ++ prefixAt i) space

/-- What stands between the angle brackets of the start tag. -/
def startText (e : Element) : String :=
  nameIn e.spaces e.name ++ String.join (declarations e.spaces) ++
    String.join (e.attributes.map fun (name, value) => attributeText (nameIn e.spaces name) value)

def render (e : Element) : String := "<" ++ e.startText ++ "/>"

end Element
end TableDump.Markup
