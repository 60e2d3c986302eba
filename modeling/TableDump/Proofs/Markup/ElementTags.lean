import Mathlib.Data.List.FinRange
import Mathlib.Data.List.Indexes
import Mathlib.Data.List.Nodup
import TableDump.Proofs.Markup.TagReading

/-! # Tags of elements

* `Tag`: what a reader that knows no namespaces sees of a tag. `Tag.Readable`: its names and texts are such as a document
  can hold.
* `Element.tag`: the tag of an element, with prefixes and with the attributes that declare namespaces. An element is
  written as its tag (`Element.toList_render`).
* `Element.WellFormed`: names and texts of an element, each in a namespace or in none, that a document can hold. Prefixes
  keep them apart, so the tag is readable (`Element.WellFormed.readable`).
-/

namespace TableDump.Markup
open TableDump.Text
set_option autoImplicit false

/-! ## Tags -/

structure Tag where
  name : String
  attributes : List (String × String) := []

namespace Tag

/-- Names and texts that a document can hold, no name twice. -/
structure Readable (t : Tag) : Prop where
  named : isDocumentName t.name = true
  attributesNamed : ∀ a ∈ t.attributes, isDocumentName a.1 = true
  texts : ∀ a ∈ t.attributes, isXmlText a.2 = true
  nodup : (t.attributes.map Prod.fst).Nodup

/-- What stands behind the first bracket, up to the end of the tag. -/
def chars (t : Tag) : List Char := t.name.toList ++ t.attributes.flatMap attributeChars

def node (t : Tag) : Node := .element t.name t.attributes []

end Tag

namespace Element

/-- The attributes that declare namespaces. -/
def spaceAttributes (spaces : List String) : List (String × String) :=
  spaces.mapIdx fun i space => ("xmlns:" ++ prefixAt i, space)

/-- An element as a reader without namespaces sees it. -/
def tag (e : Element) : Tag where
  name := nameIn e.spaces e.name
  attributes := spaceAttributes e.spaces ++ e.attributes.map fun a => (nameIn e.spaces a.1, a.2)

theorem toList_startText (e : Element) : e.startText.toList = e.tag.chars := by
  have hspaces : (String.join (declarations e.spaces)).toList = (spaceAttributes e.spaces).flatMap attributeChars := by
    have hdeclared : declarations e.spaces = (spaceAttributes e.spaces).map fun a => attributeText a.1 a.2 := by
      rw [declarations, spaceAttributes, List.mapIdx_eq_ofFn, List.mapIdx_eq_ofFn, List.map_ofFn]
      rfl
    rw [hdeclared, String.toList_join, List.flatMap_map]
    exact List.flatMap_congr fun a _ => toList_attributeText a
  have hattributes : (String.join (e.attributes.map fun a => attributeText (nameIn e.spaces a.1) a.2)).toList =
      (e.attributes.map fun a => (nameIn e.spaces a.1, a.2)).flatMap attributeChars := by
    rw [String.toList_join, List.flatMap_map, List.flatMap_map]
    exact List.flatMap_congr fun a _ => toList_attributeText (nameIn e.spaces a.1, a.2)
  rw [startText, String.toList_append, String.toList_append, hspaces, hattributes, Tag.chars, tag, List.flatMap_append,
    List.append_assoc]

theorem toList_render (e : Element) : e.render.toList = '<' :: (e.tag.chars ++ ['/', '>']) := by
  have hopen : "<".toList = ['<'] := by decide
  have hclose : "/>".toList = ['/', '>'] := by decide
  rw [render, String.toList_append, String.toList_append, toList_startText, hopen, hclose, List.singleton_append,
    List.cons_append]

end Element

/-! ## Prefixes -/

theorem colon_notMem_of_isLocalName {name : String} (h : isLocalName name = true) : ':' ∉ name.toList := by
  intro hmem
  rw [isLocalName] at h
  cases hname : name.toList with
  | nil =>
    rw [hname] at hmem
    cases hmem
  | cons c rest =>
    simp only [hname, Bool.and_eq_true] at h
    rw [hname] at hmem
    obtain rfl | hrest := List.mem_cons.1 hmem
    · exact absurd h.1 (by decide)
    · exact absurd (List.all_eq_true.1 h.2 _ hrest) (by decide)

theorem isNameChar_of_isDigit {c : Char} (h : c.isDigit = true) : isNameChar c = true := by
  obtain ⟨hlow, hhigh⟩ : 48 ≤ c.toNat ∧ c.toNat ≤ 57 := by
    simpa [Char.isDigit, UInt32.le_iff_toNat_le] using h
  simp only [isNameChar, isNameStart, nameStartBounds, nameRestBounds, mem_inRanges_iff, inRanges_nil, Bool.false_eq_true,
    or_false, Bool.or_eq_true]
  omega

namespace Element

theorem toList_prefixAt (i : Nat) : (prefixAt i).toList = 'n' :: 's' :: Nat.toDigits 10 i := by
  have hmark : "ns".toList = ['n', 's'] := by decide
  rw [prefixAt, String.toList_append, hmark, Nat.toString_eq_repr, Nat.toList_repr]
  rfl

theorem prefixAt_injective {i j : Nat} (h : prefixAt i = prefixAt j) : i = j := by
  have hdigits := congrArg String.toList h
  rw [toList_prefixAt, toList_prefixAt] at hdigits
  simp only [List.cons.injEq, true_and] at hdigits
  rw [← Nat.ofDigitChars_ten_toDigits (n := i), hdigits, Nat.ofDigitChars_ten_toDigits]

theorem isNameChar_of_mem_prefixAt {i : Nat} : ∀ c ∈ (prefixAt i).toList, isNameChar c = true := by
  rw [toList_prefixAt, List.forall_mem_cons, List.forall_mem_cons]
  exact ⟨by decide, by decide, fun c hc => isNameChar_of_isDigit (Nat.isDigit_of_mem_toDigits (by decide) (by decide) hc)⟩

theorem colon_notMem_prefixAt (i : Nat) : ':' ∉ (prefixAt i).toList :=
  fun hmem => absurd (isNameChar_of_mem_prefixAt _ hmem) (by decide)

/-! ## Names with prefixes -/

variable {spaces : List String}

theorem nameIn_of_space {q : QualifiedName} (h : q.space = none) : nameIn spaces q = q.localName := by
  rw [nameIn, h]

theorem toList_nameIn {q : QualifiedName} {space : String} (h : q.space = some space) :
    (nameIn spaces q).toList = (prefixAt (spaces.idxOf space)).toList ++ ':' :: q.localName.toList := by
  have hcolon : ":".toList = [':'] := by decide
  rw [nameIn, h]
  simp only [String.toList_append, hcolon, List.append_assoc, List.cons_append, List.nil_append]

theorem isDocumentName_nameIn {q : QualifiedName} (h : isDocumentName q.localName = true) :
    isDocumentName (nameIn spaces q) = true := by
  cases hspace : q.space with
  | none => rwa [nameIn_of_space hspace]
  | some space =>
    obtain ⟨c, rest, hname, -, hall⟩ := exists_of_isDocumentName h
    have htags : ((prefixAt (spaces.idxOf space)).toList.tail ++ ':' :: q.localName.toList).all isTagChar = true := by
      refine List.all_eq_true.2 (List.forall_mem_append.2 ⟨fun d hd => ?_, List.forall_mem_cons.2 ⟨by decide, ?_⟩⟩)
      · exact Bool.or_eq_true_iff.2 (.inl (isNameChar_of_mem_prefixAt d (List.mem_of_mem_tail hd)))
      · rw [hname]
        exact hall
    have hstart : isNameStart 'n' = true := by decide
    rw [toList_prefixAt, List.tail_cons] at htags
    rw [isDocumentName, toList_nameIn hspace, toList_prefixAt]
    simp only [List.cons_append, hstart, Bool.true_or, Bool.true_and]
    exact htags

/-- Prefixes keep names apart. -/
theorem nameIn_injective {q q' : QualifiedName} (hq : isLocalName q.localName = true)
    (hq' : isLocalName q'.localName = true) (hspace : ∀ space ∈ q.space, space ∈ spaces)
    (h : nameIn spaces q = nameIn spaces q') : q = q' := by
  -- a local name holds no colon, so the first one ends a prefix, and names without a namespace have none
  have hcolon {p p' : QualifiedName} (hp : p.space = none) (hlocal : isLocalName p.localName = true) {space : String}
      (hp' : p'.space = some space) : nameIn spaces p ≠ nameIn spaces p' := by
    intro heq
    have hmem : ':' ∈ (nameIn spaces p').toList := by
      rw [toList_nameIn hp']
      exact List.mem_append_right _ List.mem_cons_self
    rw [← heq, nameIn_of_space hp] at hmem
    exact colon_notMem_of_isLocalName hlocal hmem
  obtain ⟨space, name⟩ := q
  obtain ⟨space', name'⟩ := q'
  cases space with
  | none =>
    cases space' with
    | none => rw [show name = name' from h]
    | some space' => exact absurd h (hcolon rfl hq rfl)
  | some space =>
    cases space' with
    | none => exact absurd h.symm (hcolon rfl hq' rfl)
    | some space' =>
      have hsplit := congrArg String.toList h
      rw [toList_nameIn rfl, toList_nameIn rfl, List.append_cons_inj_of_notMem (colon_notMem_prefixAt _)
        (colon_notMem_of_isLocalName hq)] at hsplit
      obtain ⟨hmarks, -, hname⟩ := hsplit
      have hindex := prefixAt_injective (String.toList_inj.1 hmarks)
      have hlocal : name = name' := String.toList_inj.1 hname
      rw [(List.idxOf_inj (hspace space rfl)).1 hindex, hlocal]

/-! ## Attributes that declare namespaces -/

theorem toList_of_mem_spaceAttributes {a : String × String} (ha : a ∈ spaceAttributes spaces) :
    ∃ i, a.1.toList = "xmlns:".toList ++ (prefixAt i).toList ∧ a.2 ∈ spaces := by
  obtain ⟨i, hi, rfl⟩ := List.mem_mapIdx.1 ha
  exact ⟨i, String.toList_append, List.getElem_mem hi⟩

theorem isDocumentName_of_mem_spaceAttributes {a : String × String} (ha : a ∈ spaceAttributes spaces) :
    isDocumentName a.1 = true := by
  obtain ⟨i, hname, -⟩ := toList_of_mem_spaceAttributes ha
  have hrest : ("mlns:".toList ++ (prefixAt i).toList).all isTagChar = true := by
    refine List.all_eq_true.2 (List.forall_mem_append.2 ⟨List.all_eq_true.1 (by decide), fun d hd => ?_⟩)
    exact Bool.or_eq_true_iff.2 (.inl (isNameChar_of_mem_prefixAt d hd))
  have hmark : "xmlns:".toList = 'x' :: "mlns:".toList := by decide
  have hstart : isNameStart 'x' = true := by decide
  rw [isDocumentName, hname, hmark]
  simp only [List.cons_append, hstart, Bool.true_or, Bool.true_and]
  exact hrest

theorem nodup_spaceAttributes : ((spaceAttributes spaces).map Prod.fst).Nodup := by
  rw [spaceAttributes, List.mapIdx_eq_ofFn, List.map_ofFn, List.nodup_ofFn]
  intro i j heq
  refine Fin.ext (prefixAt_injective ?_)
  have hnames : "xmlns:" ++ prefixAt i = "xmlns:" ++ prefixAt j := heq
  rw [String.ext_iff, String.toList_append, String.toList_append] at hnames
  exact String.toList_inj.1 (List.append_cancel_left hnames)

/-- Declarations have a colon behind another prefix than names. -/
theorem nameIn_ne_of_mem_spaceAttributes {a : String × String} (ha : a ∈ spaceAttributes spaces) {q : QualifiedName}
    (hq : isLocalName q.localName = true) : a.1 ≠ nameIn spaces q := by
  intro heq
  obtain ⟨i, hname, -⟩ := toList_of_mem_spaceAttributes ha
  rw [heq] at hname
  cases hspace : q.space with
  | none =>
    rw [nameIn_of_space hspace] at hname
    exact colon_notMem_of_isLocalName hq (hname ▸ List.mem_append_left _ (by decide))
  | some space =>
    have hmark : "xmlns:".toList = 'x' :: "mlns:".toList := by decide
    rw [toList_nameIn hspace, toList_prefixAt, hmark] at hname
    exact absurd (List.cons.inj hname).1 (by decide)

/-! ## Well-formed elements -/

end Element

/-- A name in a namespace that a document can declare, or in none. -/
def QualifiedName.Declarable (q : QualifiedName) : Prop := ∀ space ∈ q.space, isXmlText space = true

namespace Element
variable {e : Element}

/-- Names and texts that a document can hold, no attribute twice. -/
structure WellFormed (e : Element) : Prop where
  named : isDocumentName e.name.localName = true
  attributesNamed : ∀ a ∈ e.attributes, isLocalName a.1.localName = true
  declarable : ∀ q ∈ e.name :: e.attributes.map Prod.fst, q.Declarable
  texts : ∀ a ∈ e.attributes, isXmlText a.2 = true
  nodup : (e.attributes.map Prod.fst).Nodup

theorem mem_spaces_iff {space : String} :
    space ∈ e.spaces ↔ ∃ q ∈ e.name :: e.attributes.map Prod.fst, q.space = some space := by
  rw [Element.spaces, List.mem_eraseDups, List.mem_filterMap]

theorem WellFormed.readable (h : e.WellFormed) : e.tag.Readable where
  named := isDocumentName_nameIn h.named
  attributesNamed := by
    refine List.forall_mem_append.2 ⟨fun a ha => isDocumentName_of_mem_spaceAttributes ha, List.forall_mem_map.2 fun a ha => ?_⟩
    exact isDocumentName_nameIn (isDocumentName_of_isLocalName (h.attributesNamed a ha))
  texts := by
    refine List.forall_mem_append.2 ⟨fun a ha => ?_, List.forall_mem_map.2 h.texts⟩
    obtain ⟨-, -, hmem⟩ := toList_of_mem_spaceAttributes ha
    obtain ⟨q, hq, hspace⟩ := mem_spaces_iff.1 hmem
    exact h.declarable q hq _ hspace
  nodup := by
    have hnames : (e.attributes.map fun a => (nameIn e.spaces a.1, a.2)).map Prod.fst =
        (e.attributes.map Prod.fst).map (nameIn e.spaces) := by
      rw [List.map_map, List.map_map]
      rfl
    have hlocal : ∀ q ∈ e.attributes.map Prod.fst, isLocalName q.localName = true := List.forall_mem_map.2 h.attributesNamed
    rw [tag, List.map_append, hnames]
    refine List.nodup_append.2 ⟨nodup_spaceAttributes, h.nodup.map_on fun q hq q' hq' heq => ?_, ?_⟩
    · have hspaces : ∀ space ∈ q.space, space ∈ e.spaces :=
        fun space hspace => mem_spaces_iff.2 ⟨q, List.mem_cons_of_mem _ hq, hspace⟩
      exact nameIn_injective (hlocal q hq) (hlocal q' hq') hspaces heq
    · intro declared hdeclared name hname
      obtain ⟨d, hd, rfl⟩ := List.mem_map.1 hdeclared
      obtain ⟨q, hq, rfl⟩ := List.mem_map.1 hname
      exact nameIn_ne_of_mem_spaceAttributes hd (hlocal q hq)

end Element

end TableDump.Markup
