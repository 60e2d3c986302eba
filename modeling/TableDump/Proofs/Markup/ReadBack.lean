import Mathlib.Data.Bool.AllAny
import TableDump.Markup.Document
import TableDump.Proofs.Markup.ElementTags

/-! # Documents read back

A reader gives back what a document was written from.

* `readContent?_rows`: the lines of readable tags are read as one node each, with the blanks between them.
* `Reads`: what stands inside an element is read as nodes; around it, a root is read with them (`readNode?_root`).
* `readNode?_written`: a document of readable tags is read as its root with its rows; a root closed at once is read as well
  (`readNode?_closed`).
* `Element.Plain`: elements outside of all namespaces, which are read as they are (`readNode?_document`).
-/

namespace TableDump.Markup
open TableDump.Text
set_option autoImplicit false

/-! ## Tags -/

theorem readElement?_tag {t : Tag} (h : t.Readable) (fuel : Nat) (rest : List Char) :
    readElement? (fuel + 1) (t.chars ++ '/' :: '>' :: rest) = some (t.node, rest) := by
  obtain ⟨hname, hattributes⟩ := readTag h.named h.attributesNamed h.nodup (.inl rfl) ('>' :: rest)
  rw [Tag.chars, List.append_assoc, readElement?, hname, Option.bind_eq_bind, Option.bind_some]
  simp only
  rw [hattributes]
  rfl

/-! ## Content -/

theorem readText?_append {blank : List Char} (hblank : ∀ c ∈ blank, c ∉ ['<', '&', ']']) (rest done : List Char)
    {fuel : Nat} (hfuel : blank.length < fuel) :
    readText? done fuel (blank ++ '<' :: rest) = some (String.ofList (done.reverse ++ blank), '<' :: rest) := by
  induction blank generalizing done fuel with
  | nil =>
    obtain ⟨fuel, rfl⟩ := Nat.exists_eq_succ_of_ne_zero (Nat.ne_of_gt hfuel)
    simp [readText?]
  | cons c blank ih =>
    obtain ⟨fuel, rfl⟩ := Nat.exists_eq_succ_of_ne_zero (Nat.ne_of_gt (Nat.lt_of_le_of_lt (Nat.zero_le _) hfuel))
    obtain ⟨hc, hblank⟩ := List.forall_mem_cons.1 hblank
    simp only [List.mem_cons, List.not_mem_nil, or_false, not_or] at hc
    rw [List.cons_append, readText?, if_neg hc.1, if_neg hc.2.1, if_neg fun h => hc.2.2 h.1,
      ih hblank (c :: done) (Nat.lt_of_succ_lt_succ hfuel), List.reverse_cons, List.append_assoc, List.singleton_append]

/-- A text before a tag is a node of its own. -/
theorem readContent?_blank {blank : List Char} (hne : blank ≠ []) (hblank : ∀ c ∈ blank, c ∉ ['<', '&', ']'])
    (done : List Node) (fuel : Nat) (rest : List Char) :
    readContent? done (fuel + 1) (blank ++ '<' :: rest) =
      readContent? (.text (String.ofList blank) :: done) fuel ('<' :: rest) := by
  have hlong : blank.length < (blank ++ '<' :: rest).length + 1 := by
    rw [List.length_append]
    omega
  have hread := readText?_append hblank rest [] hlong
  have hshorter : ('<' :: rest).length < (blank ++ '<' :: rest).length := by
    have hpos := List.length_pos_iff.2 hne
    rw [List.length_append]
    omega
  have hfirst : ∀ tail, blank ++ '<' :: rest ≠ '<' :: tail := by
    obtain ⟨c, cs, rfl⟩ := List.exists_cons_of_ne_nil hne
    intro tail heq
    exact hblank c List.mem_cons_self ((List.cons.inj heq).1 ▸ List.mem_cons_self)
  rw [readContent?, hread]
  · simp only [if_pos hshorter, List.reverse_nil, List.nil_append]
  · exact fun tail heq => hfirst _ heq
  · exact fun tail heq => hfirst _ heq

theorem readContent?_row {t : Tag} (h : t.Readable) (done : List Node) (fuel : Nat) (rest : List Char) :
    readContent? done (fuel + 2) ('<' :: (t.chars ++ '/' :: '>' :: rest)) = readContent? (t.node :: done) (fuel + 1) rest := by
  obtain ⟨c, cs, hname, -, hall⟩ := exists_of_isDocumentName h.named
  have hslash : ∀ tail, t.chars ++ '/' :: '>' :: rest ≠ '/' :: tail := by
    intro tail heq
    rw [Tag.chars, hname, List.cons_append, List.cons_append] at heq
    exact absurd ((List.cons.inj heq).1 ▸ hall c List.mem_cons_self) (by decide)
  rw [readContent?, readElement?_tag h]
  exact hslash

/-- The lines of rows, up to behind the marks of a closing tag. -/
def rowChars (rows : List Tag) : List Char := rows.flatMap fun t => ['\n', ' ', ' '] ++ '<' :: (t.chars ++ ['/', '>'])

def tagNodes (rows : List Tag) : List Node := rows.flatMap fun t => [.text "\n  ", t.node]

theorem readContent?_rows {rows : List Tag} (hrows : ∀ t ∈ rows, t.Readable) (done : List Node) (rest : List Char)
    {fuel : Nat} (hfuel : 2 * rows.length + 2 ≤ fuel) :
    readContent? done fuel (rowChars rows ++ '\n' :: '<' :: '/' :: rest) =
      some (done.reverse ++ tagNodes rows ++ [.text "\n"], rest) := by
  induction rows generalizing done fuel with
  | nil =>
    obtain ⟨fuel, rfl⟩ := Nat.exists_eq_add_of_le' (show 2 ≤ fuel from hfuel)
    have hblank := readContent?_blank (List.cons_ne_nil '\n' []) (List.all_iff_forall_prop.1 (by decide)) done (fuel + 1) ('/' :: rest)
    have hline : String.ofList ['\n'] = "\n" := by decide
    rw [List.singleton_append] at hblank
    rw [rowChars, tagNodes, List.flatMap_nil, List.flatMap_nil, List.nil_append, List.append_nil, hblank, hline, readContent?,
      List.reverse_cons]
  | cons t rows ih =>
    rw [List.length_cons] at hfuel
    obtain ⟨fuel, rfl⟩ := Nat.exists_eq_add_of_le' (Nat.le_trans (show 4 ≤ 2 * (rows.length + 1) + 2 by omega) hfuel)
    obtain ⟨ht, hrows⟩ := List.forall_mem_cons.1 hrows
    have hindent : String.ofList ['\n', ' ', ' '] = "\n  " := by decide
    have htext : rowChars (t :: rows) ++ '\n' :: '<' :: '/' :: rest =
        ['\n', ' ', ' '] ++ '<' :: (t.chars ++ '/' :: '>' :: (rowChars rows ++ '\n' :: '<' :: '/' :: rest)) := by
      simp only [rowChars, List.flatMap_cons, List.append_assoc, List.cons_append, List.nil_append]
    rw [htext, readContent?_blank (by decide) (List.all_iff_forall_prop.1 (by decide)) done (fuel + 3),
      readContent?_row ht _ (fuel + 1), ih hrows _ (by omega), hindent]
    simp only [tagNodes, List.flatMap_cons, List.reverse_cons, List.append_assoc, List.cons_append, List.nil_append]

/-- What stands inside an element is read as nodes, up to behind the marks of its closing tag. -/
def Reads (inside : List Char) (nodes : List Node) : Prop :=
  ∀ rest fuel, inside.length + 2 ≤ fuel → readContent? [] fuel (inside ++ '<' :: '/' :: rest) = some (nodes, rest)

theorem reads_nil : Reads [] [] := by
  intro rest fuel hfuel
  obtain ⟨fuel, rfl⟩ := Nat.exists_eq_add_of_le' (show 2 ≤ fuel from hfuel)
  rw [List.nil_append, readContent?, List.reverse_nil]

theorem two_mul_length_le_rowChars (rows : List Tag) : 2 * rows.length ≤ (rowChars rows).length := by
  induction rows with
  | nil => exact Nat.le_refl 0
  | cons t rows ih =>
    rw [rowChars, List.flatMap_cons, ← rowChars]
    simp only [List.length_append, List.length_cons]
    omega

theorem reads_rows {rows : List Tag} (hrows : ∀ t ∈ rows, t.Readable) :
    Reads (rowChars rows ++ ['\n']) (tagNodes rows ++ [.text "\n"]) := by
  intro rest fuel hfuel
  -- a row is read in two steps, its indentation and its element, and is longer than two characters
  have hlength := two_mul_length_le_rowChars rows
  rw [List.length_append] at hfuel
  rw [List.append_assoc, List.singleton_append, readContent?_rows hrows [] rest (by omega), List.reverse_nil, List.nil_append]

/-! ## Documents -/

theorem readRoot_name {root : String} (h : isDocumentName root = true) : readRoot (.str root) = .ok ⟨none, root⟩ := by
  obtain ⟨c, cs, hname, -, hall⟩ := exists_of_isDocumentName h
  have htext : isXmlText root = true := by
    rw [isXmlText, hname]
    exact List.all_eq_true.2 fun d hd => (Bool.and_eq_true_iff.1 (isKept_of_isTagChar (hall d hd))).1
  have hbrace : c ≠ '{' := by
    rintro rfl
    exact absurd (hall _ List.mem_cons_self) (by decide)
  have hsplit : QualifiedName.split root.toList = .ok ⟨none, root⟩ := by
    rw [← String.ofList_toList (s := root), String.toList_ofList, hname, QualifiedName.split]
    · simp
    · simpa using hbrace
  rw [readRoot, QualifiedName.read, if_pos htext, hsplit]

/-- The tag of a root. -/
def rootTag (root : QualifiedName) : Tag := ({ name := root } : Element).tag

theorem toList_startTag (root : QualifiedName) : (startTag root).toList = '<' :: ((rootTag root).chars ++ ['>']) := by
  have hopen : "<".toList = ['<'] := by decide
  have hclose : ">".toList = ['>'] := by decide
  have hstart : ({ name := root } : Element).startText.toList = (rootTag root).chars := Element.toList_startText _
  rw [startTag, String.toList_append, String.toList_append, hopen, hclose, hstart, List.singleton_append, List.cons_append]

theorem toList_endTag (root : QualifiedName) : (endTag root).toList = '<' :: '/' :: ((rootTag root).name.toList ++ ['>']) := by
  have hopen : "</".toList = ['<', '/'] := by decide
  have hclose : ">".toList = ['>'] := by decide
  have hname : Element.nameIn ({ name := root } : Element).spaces root = (rootTag root).name := rfl
  rw [endTag, hname, String.toList_append, String.toList_append, hopen, hclose]
  rfl

theorem toList_rowLines (rows : List Element) : (rowLines rows).toList = rowChars (rows.map Element.tag) := by
  have hindent : "\n  ".toList = ['\n', ' ', ' '] := by decide
  rw [rowLines, String.toList_join, List.flatMap_map, rowChars, List.flatMap_map]
  refine List.flatMap_congr fun e he => ?_
  rw [String.toList_append, rowIndent, hindent, e.toList_render]

/-- A root around what stands inside of it. -/
def rootChars (t : Tag) (inside : List Char) : List Char :=
  declaration.toList ++ '<' :: (t.chars ++ '>' :: (inside ++ '<' :: '/' :: (t.name.toList ++ ['>'])))

theorem toList_document (root : QualifiedName) (rows : List Element) :
    (document root rows).toList = rootChars (rootTag root) (rowChars (rows.map Element.tag) ++ ['\n']) := by
  have hline : "\n".toList = ['\n'] := by decide
  simp only [document, rootChars, String.toList_append, toList_startTag, toList_endTag, toList_rowLines, hline,
    List.append_assoc, List.cons_append, List.nil_append]

theorem toList_closed (root : QualifiedName) :
    (declaration ++ startTag root ++ endTag root).toList = rootChars (rootTag root) [] := by
  simp only [rootChars, String.toList_append, toList_startTag, toList_endTag, List.append_assoc, List.cons_append,
    List.nil_append]

theorem toList_declaration : declaration.toList = '<' :: '?' :: 'x' :: 'm' :: 'l' :: ' ' :: 'v' ::
    ("ersion='1.0'".toList ++ ' ' :: 'e' :: ("ncoding='utf-8'".toList ++ ['?', '>', '\n'])) := by decide

theorem skipDeclaration?_declaration (rest : List Char) : skipDeclaration? (declaration.toList ++ rest) = some ('\n' :: rest) := by
  have hversion : ∀ l, readAttribute? ('v' :: ("ersion='1.0'".toList ++ l)) = some (("version", "1.0"), l) := fun l => rfl
  have hencoding : ∀ l, readAttribute? ('e' :: ("ncoding='utf-8'".toList ++ l)) = some (("encoding", "utf-8"), l) :=
    fun l => rfl
  have hend : ∀ done fuel, readAttributes? done (fuel + 1) ('?' :: '>' :: '\n' :: rest) = some (done, '?' :: '>' :: '\n' :: rest) :=
    fun done fuel => rfl
  rw [toList_declaration]
  simp only [List.cons_append, List.append_assoc, List.nil_append, skipDeclaration?]
  generalize hfuel : List.length _ = fuel
  obtain ⟨fuel, rfl⟩ : ∃ n, fuel = n + 2 := ⟨_, hfuel.symm⟩
  rw [readAttributes?_step (by decide) (hversion _) (by simp), readAttributes?_step (by decide) (hencoding _) (by decide),
    hend]
  rfl

theorem readElement?_root {t : Tag} (ht : t.Readable) {inside : List Char} {nodes : List Node} (hinside : Reads inside nodes)
    {fuel : Nat} (hfuel : inside.length + 3 ≤ fuel) :
    readElement? fuel (t.chars ++ '>' :: (inside ++ '<' :: '/' :: (t.name.toList ++ ['>']))) =
      some (.element t.name t.attributes nodes, []) := by
  obtain ⟨fuel, rfl⟩ := Nat.exists_eq_add_of_le' (Nat.le_trans (show 1 ≤ inside.length + 3 by omega) hfuel)
  obtain ⟨hname, hattributes⟩ := readTag ht.named ht.attributesNamed ht.nodup (.inr rfl)
    (inside ++ '<' :: '/' :: (t.name.toList ++ ['>']))
  have hcontent := hinside (t.name.toList ++ ['>']) fuel (by omega)
  have hend : readEnd? t.name (t.name.toList ++ ['>']) = some [] := by
    rw [readEnd?, readName?_append ht.named (by decide)]
    simp only [Option.bind_eq_bind, Option.bind_some, skipSpace_cons (show isSpace '>' = false by decide), if_true]
  rw [Tag.chars, List.append_assoc, readElement?, hname]
  simp only [Option.bind_eq_bind, Option.bind_some, hattributes, hcontent, hend]
  rfl

theorem normalizeLineEnds_of_notMem {cs : List Char} (h : '\r' ∉ cs) : normalizeLineEnds cs = cs := by
  induction cs with
  | nil => rfl
  | cons c rest ih =>
    simp only [List.mem_cons, not_or] at h
    rw [normalizeLineEnds, if_neg (Ne.symm h.1), ih h.2]
    exact fun tail heq _ => h.1 heq.symm

theorem isKept_of_isDocumentName {name : String} (h : isDocumentName name = true) : ∀ c ∈ name.toList, isKept c = true := by
  obtain ⟨first, others, hfirst, -, hall⟩ := exists_of_isDocumentName h
  exact fun c hc => isKept_of_isTagChar (hall c (hfirst ▸ hc))

theorem isKept_of_escapeChar {c : Char} (h : isXmlChar c = true) : ∀ d ∈ escapeChar c, isKept d = true := by
  intro d hd
  obtain ⟨mark, hescape, -, hmark, -⟩ | ⟨hescape, hplain⟩ := escapeChar_cases c
  · rw [hescape, List.mem_cons, List.mem_append, List.mem_singleton] at hd
    obtain rfl | hd | rfl := hd
    · decide
    · exact List.all_eq_true.1 hmark d hd
    · decide
  · rw [hescape, List.mem_singleton] at hd
    rw [hd, isKept, h, Bool.true_and, bne_iff_ne]
    rintro rfl
    exact hplain (by decide)

theorem Tag.Readable.isKept_chars {t : Tag} (h : t.Readable) : ∀ c ∈ t.chars, isKept c = true := by
  have hattribute : ∀ a ∈ t.attributes, ∀ c ∈ attributeChars a, isKept c = true := by
    intro a ha
    simp only [attributeChars, List.forall_mem_cons, List.forall_mem_append]
    refine ⟨by decide, isKept_of_isDocumentName (h.attributesNamed a ha), by decide, by decide, fun c hc => ?_, by decide,
      List.forall_mem_nil _⟩
    obtain ⟨d, hd, hcd⟩ := List.mem_flatMap.1 hc
    exact isKept_of_escapeChar (List.all_eq_true.1 (h.texts a ha) d hd) c hcd
  refine List.forall_mem_append.2 ⟨isKept_of_isDocumentName h.named, fun c hc => ?_⟩
  obtain ⟨a, ha, hca⟩ := List.mem_flatMap.1 hc
  exact hattribute a ha c hca

theorem isKept_rootChars {t : Tag} (ht : t.Readable) {inside : List Char} (hinside : ∀ c ∈ inside, isKept c = true) :
    ∀ c ∈ rootChars t inside, isKept c = true := by
  have hdeclaration : ∀ c ∈ declaration.toList, isKept c = true := List.all_eq_true.1 (by decide)
  simp only [rootChars, List.forall_mem_append, List.forall_mem_cons]
  exact ⟨hdeclaration, by decide, ht.isKept_chars, by decide, hinside, by decide, by decide,
    isKept_of_isDocumentName ht.named, by decide, List.forall_mem_nil _⟩

/-- A root is read with what stands inside of it. -/
theorem readNode?_root {text : String} {t : Tag} (ht : t.Readable) {inside : List Char} {nodes : List Node}
    (hinside : Reads inside nodes) (hkept : ∀ c ∈ inside, isKept c = true) (htext : text.toList = rootChars t inside) :
    readNode? text = some (.element t.name t.attributes nodes) := by
  have hkept := isKept_rootChars ht hkept
  have hlines : normalizeLineEnds text.toList = text.toList :=
    normalizeLineEnds_of_notMem fun hmem => absurd (hkept _ (htext ▸ hmem)) (by decide)
  have hchars : (rootChars t inside).all isXmlChar = true :=
    List.all_eq_true.2 fun c hc => (Bool.and_eq_true_iff.1 (hkept c hc)).1
  have hskip : ∀ l, skipSpace ('\n' :: '<' :: l) = '<' :: l := fun l =>
    skipSpace_cons (show isSpace '<' = false by decide) l
  rw [readNode?, hlines, htext, hchars, rootChars, skipDeclaration?_declaration]
  simp only [Bool.not_true, Bool.false_eq_true, if_false, Option.bind_eq_bind, Option.bind_some, hskip]
  rw [readElement?_root ht hinside]
  · rfl
  · simp only [List.length_append, List.length_cons]
    omega

theorem isKept_rowChars {rows : List Tag} (hrows : ∀ t ∈ rows, t.Readable) : ∀ c ∈ rowChars rows, isKept c = true := by
  have hindent : ∀ c ∈ ['\n', ' ', ' '], isKept c = true := List.all_eq_true.1 (by decide)
  have hclose : ∀ c ∈ ['/', '>'], isKept c = true := List.all_eq_true.1 (by decide)
  have hopen : isKept '<' = true := by decide
  intro c hc
  obtain ⟨t, ht, hct⟩ := List.mem_flatMap.1 hc
  have hline := List.forall_mem_append.2 ⟨(hrows t ht).isKept_chars, hclose⟩
  exact List.forall_mem_append.2 ⟨hindent, List.forall_mem_cons.2 ⟨hopen, hline⟩⟩ c hct

/-- A document is read as its root with its rows. -/
theorem readNode?_written {root : QualifiedName} (hroot : (rootTag root).Readable) {rows : List Element}
    (hrows : ∀ e ∈ rows, e.tag.Readable) : readNode? (document root rows) =
      some (.element (rootTag root).name (rootTag root).attributes (tagNodes (rows.map Element.tag) ++ [.text "\n"])) := by
  have htags : ∀ t ∈ rows.map Element.tag, t.Readable := List.forall_mem_map.2 hrows
  have hline : ∀ c ∈ ['\n'], isKept c = true := List.all_eq_true.1 (by decide)
  exact readNode?_root hroot (reads_rows htags) (List.forall_mem_append.2 ⟨isKept_rowChars htags, hline⟩) (toList_document root rows)

/-- A root that was closed at once is read as a root. -/
theorem readNode?_closed {root : QualifiedName} (hroot : (rootTag root).Readable) :
    readNode? (declaration ++ startTag root ++ endTag root) = some (.element (rootTag root).name (rootTag root).attributes []) :=
  readNode?_root hroot reads_nil (List.forall_mem_nil _) (toList_closed root)

theorem rows_tagNodes (name : String) (attributes : List (String × String)) (rows : List Tag) :
    (Node.element name attributes (tagNodes rows ++ [.text "\n"])).rows = rows.map fun t => (t.name, t.attributes) := by
  induction rows with
  | nil => rfl
  | cons t rows ih =>
    simp only [Node.rows] at ih
    simp only [Node.rows, tagNodes, List.flatMap_cons, List.cons_append, List.nil_append, List.filterMap_cons, List.map_cons]
    exact congrArg _ ih

/-! ## Elements outside of namespaces -/

namespace Element

/-- Outside of all namespaces, with names and texts that a document can hold. -/
structure Plain (e : Element) : Prop where
  unspaced : e.name.space = none
  named : isLocalName e.name.localName = true
  attributesUnspaced : ∀ a ∈ e.attributes, a.1.space = none
  attributesNamed : ∀ a ∈ e.attributes, isLocalName a.1.localName = true
  texts : ∀ a ∈ e.attributes, isXmlText a.2 = true
  nodup : (e.attributes.map Prod.fst).Nodup

/-- The attributes as a reader without namespaces sees them. -/
def localAttributes (e : Element) : List (String × String) := e.attributes.map fun a => (a.1.localName, a.2)

variable {e : Element}

theorem Plain.spaces_eq (h : e.Plain) : e.spaces = [] := by
  have hnone : (e.name :: e.attributes.map Prod.fst).filterMap QualifiedName.space = [] := by
    rw [List.filterMap_eq_nil_iff, List.forall_mem_cons, List.forall_mem_map]
    exact ⟨h.unspaced, h.attributesUnspaced⟩
  rw [spaces, hnone]
  rfl

theorem Plain.wellFormed (h : e.Plain) : e.WellFormed where
  named := isDocumentName_of_isLocalName h.named
  attributesNamed := h.attributesNamed
  declarable := by
    refine List.forall_mem_cons.2 ⟨fun space hspace => ?_, List.forall_mem_map.2 fun a ha space hspace => ?_⟩
    · rw [h.unspaced] at hspace
      cases hspace
    · rw [h.attributesUnspaced a ha] at hspace
      cases hspace
  texts := h.texts
  nodup := h.nodup

theorem Plain.tag_eq (h : e.Plain) : e.tag = ⟨e.name.localName, e.localAttributes⟩ := by
  have hattributes : (e.attributes.map fun a => (nameIn [] a.1, a.2)) = e.localAttributes := by
    refine List.map_congr_left fun a ha => ?_
    rw [nameIn_of_space (h.attributesUnspaced a ha)]
  rw [tag, h.spaces_eq, nameIn_of_space h.unspaced, hattributes]
  rfl

end Element

def rowNodes (rows : List Element) : List Node :=
  rows.flatMap fun e => [.text "\n  ", .element e.name.localName e.localAttributes []]

/-- A document without namespaces is read as its root with its rows, by their own names. -/
theorem readNode?_document {root : String} (hroot : isDocumentName root = true) {rows : List Element}
    (hrows : ∀ e ∈ rows, e.Plain) :
    readNode? (document ⟨none, root⟩ rows) = some (.element root [] (rowNodes rows ++ [.text "\n"])) := by
  have hrootTag : rootTag ⟨none, root⟩ = ⟨root, []⟩ := rfl
  have hreadable : (rootTag ⟨none, root⟩).Readable := by
    rw [hrootTag]
    exact ⟨hroot, List.forall_mem_nil _, List.forall_mem_nil _, List.nodup_nil⟩
  have hnodes : tagNodes (rows.map Element.tag) = rowNodes rows := by
    rw [tagNodes, List.flatMap_map, rowNodes]
    refine List.flatMap_congr fun e he => ?_
    rw [(hrows e he).tag_eq]
    rfl
  rw [readNode?_written hreadable fun e he => (hrows e he).wellFormed.readable, hrootTag, hnodes]

theorem rows_rowNodes (root : String) (rows : List Element) :
    (Node.element root [] (rowNodes rows ++ [.text "\n"])).rows = rows.map fun e => (e.name.localName, e.localAttributes) := by
  induction rows with
  | nil => rfl
  | cons e rows ih =>
    simp only [Node.rows] at ih
    simp only [Node.rows, rowNodes, List.flatMap_cons, List.cons_append, List.nil_append, List.filterMap_cons, List.map_cons]
    exact congrArg _ ih
end TableDump.Markup
