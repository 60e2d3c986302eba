import Mathlib.Data.List.TakeWhile
import TableDump.Markup.Element
import TableDump.Markup.Reader

/-! # Tags read back

* `isDocumentName`: names as a reader that knows no namespaces takes them, colons included.
* `readValue?_escape`: an escaped text is read as it was, blanks and line ends included.
* `readTag`: a name with attributes is read up to the end of its tag.
-/

namespace TableDump.Markup
open TableDump.Text
set_option autoImplicit false

/-! ## Characters -/

theorem mem_inRanges_iff {lo hi c : Nat} {rest : List Nat} :
    inRanges (lo :: hi :: rest) c = true ↔ lo ≤ c ∧ (c < hi ∨ inRanges rest c = true) := by
  rw [inRanges_cons]
  split
  · next h => simpa using fun hlo => absurd h (Nat.not_lt.2 hlo)
  · next h => simp [Nat.not_lt.1 h]

theorem isXmlChar_of_le {c : Char} (hlow : 0x20 ≤ c.toNat) (hhigh : c.toNat < 0xFFFE ∨ 0x10000 ≤ c.toNat) :
    isXmlChar c = true := by
  have hvalid : c.toNat < 0xD800 ∨ 0xDFFF < c.toNat ∧ c.toNat < 0x110000 := c.valid
  simp only [isXmlChar, xmlCharBounds, mem_inRanges_iff, inRanges_nil, Bool.false_eq_true, or_false]
  omega

theorem bounds_of_isTagChar {c : Char} (h : isTagChar c = true) :
    0x2D ≤ c.toNat ∧ (c.toNat < 0xFFFE ∨ 0x10000 ≤ c.toNat) := by
  simp only [isTagChar, isNameChar, isNameStart, nameStartBounds, nameRestBounds, mem_inRanges_iff, inRanges_nil,
    Bool.false_eq_true, or_false, Bool.or_eq_true, decide_eq_true_eq] at h
  obtain (h | h) | rfl := h
  · omega
  · omega
  · decide

/-- Characters that a reader takes as they are. -/
def isKept (c : Char) : Bool := isXmlChar c && c != '\r'

theorem isKept_of_isTagChar {c : Char} (h : isTagChar c = true) : isKept c = true := by
  obtain ⟨hlow, hhigh⟩ := bounds_of_isTagChar h
  have hreturn : c ≠ '\r' := by
    rintro rfl
    exact absurd hlow (by decide)
  rw [isKept, isXmlChar_of_le (by omega) hhigh, Bool.true_and, bne_iff_ne]
  exact hreturn

/-! ## Names -/

/-- Names that may hold colons. -/
def isDocumentName (s : String) : Bool :=
  match s.toList with
  | [] => false
  | c :: rest => (isNameStart c || c = ':') && rest.all isTagChar

theorem exists_of_isDocumentName {name : String} (h : isDocumentName name = true) :
    ∃ c rest, name.toList = c :: rest ∧ (isNameStart c || c = ':') = true ∧ ∀ d ∈ c :: rest, isTagChar d = true := by
  rw [isDocumentName] at h
  split at h
  · cases h
  · next c rest hname =>
    rw [Bool.and_eq_true] at h
    refine ⟨c, rest, hname, h.1, List.forall_mem_cons.2 ⟨?_, List.all_eq_true.1 h.2⟩⟩
    have hstart := h.1
    rw [Bool.or_eq_true] at hstart
    simp only [isTagChar, isNameChar, Bool.or_eq_true]
    exact hstart.imp_left .inl

theorem isDocumentName_of_isLocalName {name : String} (h : isLocalName name = true) : isDocumentName name = true := by
  rw [isLocalName] at h
  rw [isDocumentName]
  cases hname : name.toList with
  | nil =>
    rw [hname] at h
    cases h
  | cons c rest =>
    simp only [hname, Bool.and_eq_true] at h
    have hrest : rest.all isTagChar = true :=
      List.all_eq_true.2 fun d hd => Bool.or_eq_true_iff.2 (.inl (List.all_eq_true.1 h.2 d hd))
    simp only [h.1, hrest, Bool.true_or, Bool.and_self]

/-- A name ends at a character that no name holds. -/
theorem readName?_append {name : String} (h : isDocumentName name = true) {c : Char} (hc : isTagChar c = false)
    (rest : List Char) : readName? (name.toList ++ c :: rest) = some (name, c :: rest) := by
  obtain ⟨first, others, hname, hfirst, hall⟩ := exists_of_isDocumentName h
  rw [← hname] at hall
  have htake : (name.toList ++ c :: rest).takeWhile isTagChar = name.toList := by
    rw [List.takeWhile_append_of_pos hall, List.takeWhile_cons_of_neg (by simp [hc]), List.append_nil]
  have hdrop : (name.toList ++ c :: rest).dropWhile isTagChar = c :: rest := by
    rw [List.dropWhile_append_of_pos hall, List.dropWhile_cons_of_neg (by simp [hc])]
  have hcons : name.toList ++ c :: rest = first :: (others ++ c :: rest) := by rw [hname, List.cons_append]
  rw [hcons] at htake hdrop ⊢
  rw [readName?]
  simp only [hfirst, if_true, htake, hdrop, String.ofList_toList]

/-! ## Attribute values -/

theorem readReference?_append {mark : List Char} (hmark : ';' ∉ mark) (rest : List Char) :
    readReference? (mark ++ ';' :: rest) = (referred? mark).map fun c => (c, rest) := by
  have hpass : ∀ c ∈ mark, (c != ';') = true := fun c hc => bne_iff_ne.2 fun heq => hmark (heq ▸ hc)
  rw [readReference?, List.dropWhile_append_of_pos hpass, List.takeWhile_append_of_pos hpass]
  simp

/-- A character is written as a reference to itself, or as it is. -/
theorem escapeChar_cases (c : Char) :
    (∃ mark, escapeChar c = '&' :: (mark ++ [';']) ∧ ';' ∉ mark ∧ mark.all isKept = true ∧ referred? mark = some c) ∨
      (escapeChar c = [c] ∧ c ∉ ['&', '<', '>', '"', '\t', '\n', '\r']) := by
  by_cases hc : c ∈ ['&', '<', '>', '"', '\t', '\n', '\r']
  · left
    simp only [List.mem_cons, List.not_mem_nil, or_false] at hc
    obtain rfl | rfl | rfl | rfl | rfl | rfl | rfl := hc
    · exact ⟨"amp".toList, by decide, by decide, by decide, by decide⟩
    · exact ⟨"lt".toList, by decide, by decide, by decide, by decide⟩
    · exact ⟨"gt".toList, by decide, by decide, by decide, by decide⟩
    · exact ⟨"quot".toList, by decide, by decide, by decide, by decide⟩
    · exact ⟨"#9".toList, by decide, by decide, by decide, by decide⟩
    · exact ⟨"#10".toList, by decide, by decide, by decide, by decide⟩
    · exact ⟨"#13".toList, by decide, by decide, by decide, by decide⟩
  · refine .inr ⟨?_, hc⟩
    delta escapeChar
    split <;> first | rfl | exact absurd (by decide) hc

theorem escapeChar_ne_nil (c : Char) : escapeChar c ≠ [] := by
  obtain ⟨mark, hescape, -⟩ | ⟨hescape, -⟩ := escapeChar_cases c <;> simp [hescape]

theorem length_le_flatMap {α : Type} (f : α → List Char) (hf : ∀ a, f a ≠ []) (l : List α) : l.length ≤ (l.flatMap f).length := by
  induction l with
  | nil => exact Nat.le_refl 0
  | cons a l ih =>
    have ha := List.length_pos_iff.2 (hf a)
    rw [List.flatMap_cons, List.length_append, List.length_cons]
    omega

/-- An escaped text is read up to its closing quote as it was. -/
theorem readValue?_escape (value rest done : List Char) {fuel : Nat} (hfuel : value.length < fuel) :
    readValue? '"' done fuel (value.flatMap escapeChar ++ '"' :: rest) =
      some (String.ofList (done.reverse ++ value), rest) := by
  induction value generalizing done fuel with
  | nil =>
    obtain ⟨fuel, rfl⟩ := Nat.exists_eq_succ_of_ne_zero (Nat.ne_of_gt hfuel)
    simp [readValue?]
  | cons c value ih =>
    obtain ⟨fuel, rfl⟩ := Nat.exists_eq_succ_of_ne_zero (Nat.ne_of_gt (Nat.lt_of_le_of_lt (Nat.zero_le _) hfuel))
    have hrest := ih (c :: done) (Nat.lt_of_succ_lt_succ hfuel)
    rw [List.reverse_cons, List.append_assoc, List.singleton_append] at hrest
    rw [List.flatMap_cons, List.append_assoc]
    obtain ⟨mark, hescape, hmark, -, hreferred⟩ | ⟨hescape, hplain⟩ := escapeChar_cases c
    · rw [hescape, List.cons_append, List.append_assoc, List.singleton_append, readValue?, if_neg (by decide),
        if_neg (by decide), if_pos rfl, readReference?_append hmark, hreferred]
      exact hrest
    · simp only [List.mem_cons, List.not_mem_nil, or_false, not_or] at hplain
      obtain ⟨hamp, hlt, -, hquote, htab, hfeed, hreturn⟩ := hplain
      have hspace : (if isSpace c then ' ' else c) = c := by
        by_cases hblank : c = ' '
        · rw [hblank]
          rfl
        · simp [isSpace, hblank, htab, hfeed, hreturn]
      rw [hescape, List.singleton_append, readValue?, if_neg hquote, if_neg hlt, if_neg hamp, hspace]
      exact hrest

/-! ## Attributes -/

def attributeChars (a : String × String) : List Char :=
  ' ' :: (a.1.toList ++ '=' :: '"' :: (a.2.toList.flatMap escapeChar ++ ['"']))

theorem toList_attributeText (a : String × String) : (Element.attributeText a.1 a.2).toList = attributeChars a := by
  have hspace : " ".toList = [' '] := by decide
  have hequals : "=\"".toList = ['=', '"'] := by decide
  have hquote : "\"".toList = ['"'] := by decide
  simp only [Element.attributeText, escapeAttribute, String.toList_append, String.toList_ofList, hspace, hequals, hquote,
    attributeChars, List.append_assoc, List.cons_append, List.nil_append]

theorem skipSpace_cons {c : Char} (hc : isSpace c = false) (rest : List Char) : skipSpace (c :: rest) = c :: rest := by
  rw [skipSpace, List.dropWhile_cons_of_neg (by simp [hc])]

theorem isSpace_of_isTagChar {c : Char} (h : isTagChar c = true) : isSpace c = false := by
  have hlow := (bounds_of_isTagChar h).1
  rw [Bool.eq_false_iff]
  intro hspace
  simp only [isSpace, Bool.or_eq_true, decide_eq_true_eq] at hspace
  obtain ((rfl | rfl) | rfl) | rfl := hspace <;> exact absurd hlow (by decide)

theorem readAttribute?_text {a : String × String} (hname : isDocumentName a.1 = true) (rest : List Char) :
    readAttribute? (a.1.toList ++ '=' :: '"' :: (a.2.toList.flatMap escapeChar ++ '"' :: rest)) = some (a, rest) := by
  have hfuel : a.2.toList.length < (a.2.toList.flatMap escapeChar ++ '"' :: rest).length + 1 := by
    have hle := length_le_flatMap escapeChar escapeChar_ne_nil a.2.toList
    rw [List.length_append]
    omega
  have hvalue := readValue?_escape a.2.toList rest [] hfuel
  rw [List.reverse_nil, List.nil_append, String.ofList_toList] at hvalue
  rw [readAttribute?, readName?_append hname (by decide), Option.bind_eq_bind, Option.bind_some]
  simp only [skipSpace_cons (show isSpace '=' = false by decide), skipSpace_cons (show isSpace '"' = false by decide),
    true_or, if_true, hvalue]
  rfl

/-- An attribute behind a blank, of a name that is new. -/
theorem readAttributes?_step {a : String × String} {done : List (String × String)} {first : Char} {tail rest : List Char}
    (htag : isTagChar first = true) (hread : readAttribute? (first :: tail) = some (a, rest))
    (hnew : a.1 ∉ done.map Prod.fst) (fuel : Nat) :
    readAttributes? done (fuel + 1) (' ' :: first :: tail) = readAttributes? (done ++ [a]) fuel rest := by
  have hskip : skipSpace (' ' :: first :: tail) = first :: tail := skipSpace_cons (isSpace_of_isTagChar htag) tail
  have hmark : ¬ (first = '/' ∨ first = '>' ∨ first = '?') := by
    rintro (rfl | rfl | rfl) <;> exact absurd htag (by decide)
  have hlonger : (first :: tail).length ≠ (' ' :: first :: tail).length := Nat.ne_of_lt (Nat.lt_succ_self _)
  have hany : (done.any fun entry => entry.1 == a.1) = false :=
    List.any_eq_false.2 fun entry hentry heq => hnew (beq_iff_eq.1 heq ▸ List.mem_map_of_mem hentry)
  rw [readAttributes?, hskip]
  simp only [if_neg hmark, if_neg hlonger, hread, hany, Bool.false_eq_true, if_false]

/-- Attributes are read in their order, up to the end of their tag. -/
theorem readAttributes?_text (done : List (String × String)) {attributes : List (String × String)}
    (hnames : ∀ a ∈ attributes, isDocumentName a.1 = true) (hnodup : ((done ++ attributes).map Prod.fst).Nodup) {c : Char} (hc : c = '/' ∨ c = '>') (rest : List Char) {fuel : Nat}
    (hfuel : attributes.length < fuel) :
    readAttributes? done fuel (attributes.flatMap attributeChars ++ c :: rest) = some (done ++ attributes, c :: rest) := by
  induction attributes generalizing done fuel with
  | nil =>
    obtain ⟨fuel, rfl⟩ := Nat.exists_eq_succ_of_ne_zero (Nat.ne_of_gt hfuel)
    have hspace : isSpace c = false := by obtain rfl | rfl := hc <;> decide
    have hend : c = '/' ∨ c = '>' ∨ c = '?' := hc.imp_right .inl
    rw [List.flatMap_nil, List.nil_append, readAttributes?, skipSpace_cons hspace, List.append_nil]
    simp only [if_pos hend]
  | cons a attributes ih =>
    obtain ⟨fuel, rfl⟩ := Nat.exists_eq_succ_of_ne_zero (Nat.ne_of_gt (Nat.lt_of_le_of_lt (Nat.zero_le _) hfuel))
    have hname := hnames a List.mem_cons_self
    have hread := readAttribute?_text hname (attributes.flatMap attributeChars ++ c :: rest)
    obtain ⟨first, others, hfirst, -, hall⟩ := exists_of_isDocumentName hname
    have hnew : a.1 ∉ done.map Prod.fst := by
      rw [List.map_append, List.map_cons, List.nodup_append] at hnodup
      exact fun hmem => hnodup.2.2 _ hmem _ List.mem_cons_self rfl
    have hrest := ih (done ++ [a]) (fun b hb => hnames b (List.mem_cons_of_mem a hb))
      (by rwa [List.append_assoc, List.singleton_append]) (Nat.lt_of_succ_lt_succ hfuel)
    rw [hfirst, List.cons_append] at hread
    rw [List.append_assoc, List.singleton_append] at hrest
    rw [List.flatMap_cons, attributeChars, hfirst]
    simp only [List.cons_append, List.append_assoc, List.nil_append]
    rw [readAttributes?_step (hall first List.mem_cons_self) hread hnew, hrest]

/-! ## Tags -/

/-- A tag is read up to its end. -/
theorem readTag {name : String} (hname : isDocumentName name = true) {attributes : List (String × String)}
    (hnames : ∀ a ∈ attributes, isDocumentName a.1 = true) (hnodup : (attributes.map Prod.fst).Nodup) {c : Char}
    (hc : c = '/' ∨ c = '>') (rest : List Char) :
    readName? (name.toList ++ (attributes.flatMap attributeChars ++ c :: rest)) =
        some (name, attributes.flatMap attributeChars ++ c :: rest) ∧
      readAttributes? [] ((attributes.flatMap attributeChars ++ c :: rest).length + 1)
        (attributes.flatMap attributeChars ++ c :: rest) = some (attributes, c :: rest) := by
  constructor
  · cases attributes with
    | nil =>
      have htag : isTagChar c = false := by obtain rfl | rfl := hc <;> decide
      exact readName?_append hname htag rest
    | cons a attributes => exact readName?_append hname (c := ' ') (by decide) _
  · refine readAttributes?_text [] hnames hnodup hc rest ?_
    have hlength := length_le_flatMap attributeChars (fun a => List.cons_ne_nil _ _) attributes
    rw [List.length_append]
    omega

end TableDump.Markup
