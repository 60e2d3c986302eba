import TableDump.Proofs.Export.ReadableDocument

/-! # Elements of rows

Which rows can be written, and what is told about one that cannot.

* `Row.Writable`: a column with a local name and a text of characters that a document allows.
* `foldlM_setColumn_eq_error`: columns are set in order, up to the first that is not writable.
* `buildElement_refuses_first`: a row becomes an element with its columns in order, or the first name or text that cannot
  be written is told.
-/

namespace TableDump
open TableDump.Markup TableDump.Text
set_option autoImplicit false

/-! ## Columns of rows -/

/-- A column whose name holds no colon and whose text holds allowed characters only. -/
def Row.Writable (entry : String × String) : Prop := isLocalName entry.1 = true ∧ ∀ c ∈ entry.2.toList, IsAllowed c

section
variable {table name : String} {row : Row} {e e' : Element} {f : Fault}

theorem refusedBy_of_kind {change : Fault → Fault} (h : f.kind = .value) : refusedBy change f = change f := by
  rw [refusedBy, h]
  rfl

theorem setColumn_eq_ok_iff {entry : String × String} (hname : '{' ∉ entry.1.toList) : setColumn table e entry = .ok e' ↔
    Row.Writable entry ∧ e' = { e with attributes := Element.setAttribute ⟨none, entry.1⟩ entry.2 e.attributes } := by
  rw [setColumn, mapError_eq_ok_iff, Element.set_eq_ok_iff hname, Row.Writable, isXmlText_iff]

theorem setColumn_eq_error {entry : String × String} (h : setColumn table e entry = .error f) :
    ∃ cause : Fault, cause.kind = .value ∧ f = .unwritableColumn table entry.1 cause := by
  obtain ⟨cause, hset, rfl⟩ := mapError_eq_error_iff.1 h
  have hkind := Element.kind_set hset
  exact ⟨cause, hkind, refusedBy_of_kind hkind⟩

/-- The columns are set if all of them can be written. -/
theorem exists_foldlM_setColumn_iff (hrow : row.Unbraced) :
    (∃ e', row.foldlM (setColumn table) e = .ok e') ↔ ∀ entry ∈ row, Row.Writable entry := by
  induction row generalizing e with
  | nil => exact iff_of_true ⟨e, rfl⟩ (List.forall_mem_nil _)
  | cons entry rest ih =>
    obtain ⟨hentry, hrest⟩ := List.forall_mem_cons.1 hrow
    rw [List.foldlM_cons, List.forall_mem_cons]
    constructor
    · rintro ⟨e', h⟩
      obtain ⟨mid, hset, h⟩ := outcome_bind_eq_ok_iff.1 h
      exact ⟨((setColumn_eq_ok_iff hentry).1 hset).1, (ih hrest).1 ⟨e', h⟩⟩
    · rintro ⟨hwritable, hall⟩
      obtain ⟨e', h⟩ := (ih hrest).2 hall
      exact ⟨e', outcome_bind_eq_ok_iff.2 ⟨_, (setColumn_eq_ok_iff hentry).2 ⟨hwritable, rfl⟩, h⟩⟩

/-- A fault of the columns is that of the first one that cannot be written. -/
theorem foldlM_setColumn_eq_error (hrow : row.Unbraced) (h : row.foldlM (setColumn table) e = .error f) :
    ∃ before column text after, row = before ++ (column, text) :: after ∧ (∀ entry ∈ before, Row.Writable entry) ∧
      ¬ Row.Writable (column, text) ∧ ∃ cause : Fault, cause.kind = .value ∧ f = .unwritableColumn table column cause := by
  induction row generalizing e with
  | nil => cases h
  | cons entry rest ih =>
    obtain ⟨hentry, hrest⟩ := List.forall_mem_cons.1 hrow
    rw [List.foldlM_cons] at h
    obtain hset | ⟨mid, hset, h⟩ := outcome_bind_eq_error_iff.1 h
    · refine ⟨[], entry.1, entry.2, rest, rfl, List.forall_mem_nil _, fun hwritable => ?_, setColumn_eq_error hset⟩
      cases hset.symm.trans ((setColumn_eq_ok_iff hentry).2 ⟨hwritable, rfl⟩)
    · obtain ⟨before, column, text, after, hsplit, hbefore, hfirst, hcause⟩ := ih hrest h
      refine ⟨entry :: before, column, text, after, by rw [hsplit, List.cons_append], ?_, hfirst, hcause⟩
      exact List.forall_mem_cons.2 ⟨((setColumn_eq_ok_iff hentry).1 hset).1, hbefore⟩

/-! ## Rows -/

theorem makeElement_eq_ok_iff (hname : '{' ∉ name.toList) :
    (Element.make (.str name)).mapError (refusedBy (.unwritableElement table (Json.str name).toText)) = .ok e ↔
      isLocalName name = true ∧ e = { name := ⟨none, name⟩ } := by
  rw [mapError_eq_ok_iff, Element.make_eq_ok_iff hname]

theorem exists_buildElement_iff (hname : '{' ∉ name.toList) (hrow : row.Unbraced) :
    (∃ e, buildElement table (.str name) row = .ok e) ↔ isLocalName name = true ∧ ∀ entry ∈ row, Row.Writable entry := by
  rw [← @exists_foldlM_setColumn_iff table row { name := ⟨none, name⟩ } hrow]
  constructor
  · rintro ⟨e, h⟩
    obtain ⟨first, hfirst, h⟩ := outcome_bind_eq_ok_iff.1 h
    obtain ⟨hlocal, rfl⟩ := (makeElement_eq_ok_iff hname).1 hfirst
    exact ⟨hlocal, e, h⟩
  · rintro ⟨hlocal, e, h⟩
    exact ⟨e, outcome_bind_eq_ok_iff.2 ⟨_, (makeElement_eq_ok_iff hname).2 ⟨hlocal, rfl⟩, h⟩⟩

theorem buildElement_columns (hname : '{' ∉ name.toList) (hrow : row.Unbraced) (hnodup : (row.map Prod.fst).Nodup)
    (h : buildElement table (.str name) row = .ok e) :
    e.name = ⟨none, name⟩ ∧ e.attributes = row.map fun entry => (⟨none, entry.1⟩, entry.2) := by
  obtain ⟨hplain, hlocal, hattributes⟩ := buildElement_plain hname hrow hnodup h
  constructor
  · rw [← hlocal, ← hplain.unspaced]
  · rw [hplain.attributes_eq, hattributes]

theorem buildElement_eq_error (hname : '{' ∉ name.toList) (hrow : row.Unbraced)
    (h : buildElement table (.str name) row = .error f) : ∃ cause : Fault, cause.kind = .value ∧
      ((isLocalName name = false ∧ f = .unwritableElement table name cause) ∨
        (isLocalName name = true ∧ ∃ before column text after, row = before ++ (column, text) :: after ∧
          (∀ entry ∈ before, Row.Writable entry) ∧ ¬ Row.Writable (column, text) ∧
          f = .unwritableColumn table column cause)) := by
  obtain h | ⟨first, hfirst, h⟩ := outcome_bind_eq_error_iff.1 h
  · obtain ⟨cause, hcause, rfl⟩ := mapError_eq_error_iff.1 h
    have hkind := Element.kind_make hcause
    refine ⟨cause, hkind, .inl ⟨Bool.eq_false_iff.2 fun hlocal => ?_, refusedBy_of_kind hkind⟩⟩
    cases hcause.symm.trans ((Element.make_eq_ok_iff hname).2 ⟨hlocal, rfl⟩)
  · obtain ⟨before, column, text, after, hsplit, hbefore, hrefused, cause, hkind, hf⟩ := foldlM_setColumn_eq_error hrow h
    exact ⟨cause, hkind,
      .inr ⟨((makeElement_eq_ok_iff hname).1 hfirst).1, before, column, text, after, hsplit, hbefore, hrefused, hf⟩⟩

/-- A row is written if and only if its name and its columns can be, and then has them in order. Otherwise the fault is one of the
table, and tells the name or, where that can be written, the first column that cannot. -/
theorem buildElement_refuses_first (hname : '{' ∉ name.toList) (hrow : row.Unbraced) (hnodup : (row.map Prod.fst).Nodup) :
    ((∃ e, buildElement table (.str name) row = .ok e) ↔ isLocalName name = true ∧ ∀ entry ∈ row, Row.Writable entry) ∧
    (∀ {e}, buildElement table (.str name) row = .ok e →
      e.name = ⟨none, name⟩ ∧ e.attributes = row.map fun entry => (⟨none, entry.1⟩, entry.2)) ∧
    ∀ {f}, buildElement table (.str name) row = .error f → f.kind = .tableExport ∧ f.table = some table ∧
      ∃ cause : Fault, cause.kind = .value ∧
        ((isLocalName name = false ∧
            f.message = "Invalid element name " ++ name ++ " for table " ++ table ++ ": " ++ cause.message) ∨
          (isLocalName name = true ∧ ∃ before column text after, row = before ++ (column, text) :: after ∧
            (∀ entry ∈ before, Row.Writable entry) ∧ ¬ Row.Writable (column, text) ∧
            f.message = "Cannot write column " ++ column ++ " of table " ++ table ++ ": " ++ cause.message)) := by
  refine ⟨exists_buildElement_iff hname hrow, fun h => buildElement_columns hname hrow hnodup h, fun {f} h => ?_⟩
  obtain ⟨cause, hkind, ⟨hlocal, rfl⟩ | ⟨hlocal, before, column, text, after, hsplit, hbefore, hrefused, rfl⟩⟩ :=
    buildElement_eq_error hname hrow h
  · exact ⟨rfl, rfl, cause, hkind, .inl ⟨hlocal, rfl⟩⟩
  · exact ⟨rfl, rfl, cause, hkind, .inr ⟨hlocal, before, column, text, after, hsplit, hbefore, hrefused, rfl⟩⟩

/-- A text with a control character stands before a name with a colon. -/
def brokenNotes : Row := [("login", "ada"), ("note", "\x01"), ("a:b", "")]

theorem buildElement_refuses_first_note : buildElement "users" (.str "User") brokenNotes =
      .error (.unwritableColumn "users" "note" .notXmlText) ∧
    ∃ before column text after, brokenNotes = before ++ (column, text) :: after ∧
      (∀ entry ∈ before, Row.Writable entry) ∧ ¬ Row.Writable (column, text) := by
  have hbuild : buildElement "users" (.str "User") brokenNotes = .error (.unwritableColumn "users" "note" .notXmlText) := by
    decide
  have hunbraced : brokenNotes.Unbraced := by
    unfold Row.Unbraced
    decide
  obtain ⟨-, -, cause, -, ⟨hrefused, -⟩ | ⟨-, before, column, text, after, hsplit, hbefore, hfirst, -⟩⟩ :=
    (buildElement_refuses_first (by decide) hunbraced (by decide)).2.2 hbuild
  · exact absurd hrefused (by decide)
  · exact ⟨hbuild, before, column, text, after, hsplit, hbefore, hfirst⟩

end
end TableDump
