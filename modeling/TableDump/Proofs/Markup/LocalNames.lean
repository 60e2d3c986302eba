import TableDump.Proofs.Markup.ReadBack
import TableDump.Proofs.RunFrame

/-! # Local names

Which names and texts an element takes.

* `IsAllowed`: the characters that XML 1.0 allows in a document, and no others (`isXmlChar_iff`).
* A name without braces is in no namespace, and is accepted exactly when it is a local one
  (`QualifiedName.forElement_eq_ok_iff`, `QualifiedName.forAttribute_eq_ok_iff`).
* `Element.make_eq_ok_iff`, `Element.set_eq_ok_iff`: what is made and set. Whatever is refused is refused as a value.
-/

namespace TableDump.Markup
open TableDump.Text
set_option autoImplicit false

/-! ## Characters -/

/-- The characters of XML 1.0. -/
def IsAllowed (c : Char) : Prop :=
  c = '\t' ∨ c = '\n' ∨ c = '\r' ∨ (0x20 ≤ c.toNat ∧ c.toNat ≤ 0xD7FF) ∨ (0xE000 ≤ c.toNat ∧ c.toNat ≤ 0xFFFD) ∨
    0x10000 ≤ c.toNat

instance (c : Char) : Decidable (IsAllowed c) := inferInstanceAs (Decidable (_ ∨ _))

theorem isXmlChar_iff {c : Char} : isXmlChar c = true ↔ IsAllowed c := by
  have hvalid : c.toNat < 0xD800 ∨ 0xDFFF < c.toNat ∧ c.toNat < 0x110000 := c.valid
  have hchar (d : Char) : c = d ↔ c.toNat = d.toNat := Char.toNat_inj.symm
  simp only [isXmlChar, xmlCharBounds, mem_inRanges_iff, inRanges_nil, Bool.false_eq_true, or_false, IsAllowed, hchar,
    show '\t'.toNat = 0x9 from rfl, show '\n'.toNat = 0xA from rfl, show '\r'.toNat = 0xD from rfl]
  omega

theorem isXmlText_iff {s : String} : isXmlText s = true ↔ ∀ c ∈ s.toList, IsAllowed c := by
  simp only [isXmlText, List.all_eq_true, isXmlChar_iff]

theorem isXmlText_of_isLocalName {name : String} (h : isLocalName name = true) : isXmlText name = true := by
  refine List.all_eq_true.2 fun c hc => ?_
  have hkept := isKept_of_isDocumentName (isDocumentName_of_isLocalName h) c hc
  rw [isKept, Bool.and_eq_true] at hkept
  exact hkept.1

/-! ## Names without braces -/

namespace QualifiedName
variable {name : String} {q : QualifiedName} {f : Fault}

theorem split_unbraced (hname : '{' ∉ name.toList) (hne : name.toList ≠ []) : split name.toList = .ok ⟨none, name⟩ := by
  cases hchars : name.toList with
  | nil => exact absurd hchars hne
  | cons c rest =>
    have hc : c ≠ '{' := by
      rintro rfl
      exact hname (hchars ▸ List.mem_cons_self)
    rw [split, ← hchars, String.ofList_toList]
    · simp
    · simpa using hc

theorem read_unbraced (hname : '{' ∉ name.toList) (h : read name = .ok q) : q = ⟨none, name⟩ := by
  rw [read] at h
  split at h
  · by_cases hempty : name.toList = []
    · rw [hempty] at h
      cases h
    · rw [split_unbraced hname hempty] at h
      exact (Except.ok.inj h).symm
  · cases h

theorem read_of_isLocalName (hname : '{' ∉ name.toList) (h : isLocalName name = true) : read name = .ok ⟨none, name⟩ := by
  obtain ⟨c, rest, hchars, -, -⟩ := exists_of_isDocumentName (isDocumentName_of_isLocalName h)
  rw [read, if_pos (isXmlText_of_isLocalName h), split_unbraced hname (hchars ▸ List.cons_ne_nil c rest)]

theorem kind_read (h : read name = .error f) : f.kind = .value := by
  rw [read] at h
  split at h
  · unfold split at h
    split at h
    · cases h
      rfl
    · split at h <;> cases h <;> rfl
    · cases h
  · cases h
    rfl

theorem read_of_forElement (h : forElement name = .ok q) :
    read name = .ok q ∧ isLocalName q.localName = true := by
  rw [forElement] at h
  obtain ⟨made, hread, h⟩ := outcome_bind_eq_ok_iff.1 h
  simp only at h
  split at h
  · cases h
  · next hlocal =>
    split at h
    · cases h
    · cases h
      exact ⟨hread, by simpa using hlocal⟩

theorem read_of_forAttribute (h : forAttribute name = .ok q) :
    read name = .ok q ∧ isLocalName q.localName = true := by
  rw [forAttribute] at h
  obtain ⟨made, hread, h⟩ := outcome_bind_eq_ok_iff.1 h
  split at h
  · next hlocal =>
    cases h
    exact ⟨hread, hlocal⟩
  · cases h

theorem forElement_eq_ok_iff (hname : '{' ∉ name.toList) :
    forElement name = .ok q ↔ isLocalName name = true ∧ q = ⟨none, name⟩ := by
  constructor
  · intro h
    obtain ⟨hread, hlocal⟩ := read_of_forElement h
    obtain rfl := read_unbraced hname hread
    exact ⟨hlocal, rfl⟩
  · rintro ⟨hlocal, rfl⟩
    have hspace : isReference "" = true := by decide
    rw [forElement, read_of_isLocalName hname hlocal]
    simp [hlocal, hspace, bind, Except.bind, pure, Except.pure]

theorem forAttribute_eq_ok_iff (hname : '{' ∉ name.toList) :
    forAttribute name = .ok q ↔ isLocalName name = true ∧ q = ⟨none, name⟩ := by
  constructor
  · intro h
    obtain ⟨hread, hlocal⟩ := read_of_forAttribute h
    obtain rfl := read_unbraced hname hread
    exact ⟨hlocal, rfl⟩
  · rintro ⟨hlocal, rfl⟩
    rw [forAttribute, read_of_isLocalName hname hlocal]
    simp [hlocal, bind, Except.bind, pure, Except.pure]

theorem kind_forElement (h : forElement name = .error f) : f.kind = .value := by
  obtain hread | ⟨q, -, h⟩ := outcome_bind_eq_error_iff.1 h
  · exact kind_read hread
  · simp only at h
    split at h
    · cases h
      rfl
    · split at h <;> cases h
      rfl

theorem kind_forAttribute (h : forAttribute name = .error f) : f.kind = .value := by
  obtain hread | ⟨q, -, h⟩ := outcome_bind_eq_error_iff.1 h
  · exact kind_read hread
  · split at h <;> cases h
    rfl

end QualifiedName

/-! ## Elements -/

namespace Element
variable {e e' : Element} {name value : String} {f : Fault}

theorem make_eq_ok_iff (hname : '{' ∉ name.toList) :
    make (.str name) = .ok e ↔ isLocalName name = true ∧ e = { name := ⟨none, name⟩ } := by
  rw [make, outcome_map_eq_ok_iff]
  constructor
  · rintro ⟨q, hq, rfl⟩
    obtain ⟨hlocal, rfl⟩ := (QualifiedName.forElement_eq_ok_iff hname).1 hq
    exact ⟨hlocal, rfl⟩
  · rintro ⟨hlocal, rfl⟩
    exact ⟨_, (QualifiedName.forElement_eq_ok_iff hname).2 ⟨hlocal, rfl⟩, rfl⟩

theorem kind_make (h : make (.str name) = .error f) : f.kind = .value :=
  QualifiedName.kind_forElement (outcome_map_eq_error_iff.1 h)

theorem set_eq_ok (h : e.set name value = .ok e') :
    ∃ q, QualifiedName.forAttribute name = .ok q ∧ isXmlText value = true ∧
      e' = { e with attributes := setAttribute q value e.attributes } := by
  rw [set] at h
  obtain ⟨q, hq, h⟩ := outcome_bind_eq_ok_iff.1 h
  split at h
  · next htext =>
    cases h
    exact ⟨q, hq, htext, rfl⟩
  · cases h

theorem set_eq_ok_iff (hname : '{' ∉ name.toList) : e.set name value = .ok e' ↔ (isLocalName name = true ∧
    isXmlText value = true) ∧ e' = { e with attributes := setAttribute ⟨none, name⟩ value e.attributes } := by
  constructor
  · intro h
    obtain ⟨q, hq, htext, rfl⟩ := set_eq_ok h
    obtain ⟨hlocal, rfl⟩ := (QualifiedName.forAttribute_eq_ok_iff hname).1 hq
    exact ⟨⟨hlocal, htext⟩, rfl⟩
  · rintro ⟨⟨hlocal, htext⟩, rfl⟩
    rw [set, (QualifiedName.forAttribute_eq_ok_iff hname).2 ⟨hlocal, rfl⟩]
    exact if_pos htext

theorem kind_set (h : e.set name value = .error f) : f.kind = .value := by
  obtain hq | ⟨q, -, h⟩ := outcome_bind_eq_error_iff.1 h
  · exact QualifiedName.kind_forAttribute hq
  · split at h <;> cases h
    rfl

theorem Plain.attributes_eq (h : e.Plain) : e.attributes = e.localAttributes.map fun a => (⟨none, a.1⟩, a.2) := by
  rw [localAttributes, List.map_map]
  refine (List.map_id e.attributes).symm.trans (List.map_congr_left fun a ha => ?_)
  obtain ⟨⟨space, name⟩, text⟩ := a
  obtain rfl : space = none := h.attributesUnspaced _ ha
  rfl

end Element
end TableDump.Markup
