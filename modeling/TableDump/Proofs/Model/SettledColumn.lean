import Mathlib.Data.List.Find
import TableDump.Proofs.Export.ExtractionFrame
import TableDump.Proofs.Model.ColumnName
import TableDump.Proofs.Schema.ReferenceGraph

/-! # Names that do not show letter case

What models declare decides exported names, and the spelling of tables and columns shows only where they
declare nothing.

* `IsNamed`: tables that models name. They are exported under one name in every letter case
  (`exportNaming_congr`).
* `Naming.Settles`: columns that what is declared of a table names in every letter case
  (`Naming.Settles.columnName_congr`).
-/

namespace TableDump
open TableDump.Schema TableDump.Text
set_option autoImplicit false

/-! ## Columns -/

/-- The attribute matches the column, by its name or by its column override. -/
def Attribute.Declares (a : Attribute) (column : String) : Prop :=
  ∃ name, (a.name = .str name ∨ a.column = .str name) ∧ sameName name column = true

section
variable {attributes : List Attribute} {column column' : String} (hcolumn : sameName column column' = true)

include hcolumn in
theorem matchingName_congr : matchingName attributes column = matchingName attributes column' := by
  have hsame : ∀ name, sameName name column = sameName name column' := fun name => sameName_congr (sameName_refl name) hcolumn
  induction attributes with
  | nil => rfl
  | cons a rest ih => simp only [matchingName, hsame, ih]

include hcolumn in
theorem matchingPrefix_congr : matchingPrefix attributes column = matchingPrefix attributes column' := by
  have hsame : ∀ name, sameName name column = sameName name column' := fun name => sameName_congr (sameName_refl name) hcolumn
  induction attributes with
  | nil => rfl
  | cons a rest ih => simp only [matchingPrefix, hsame, ih]

theorem matchingName_ne_none {a : Attribute} (ha : a ∈ attributes) (h : a.Declares column) (hne : column ≠ "") :
    matchingName attributes column ≠ .ok none := by
  induction attributes with
  | nil => cases ha
  | cons b rest ih =>
    intro hnone
    rw [matchingName] at hnone
    obtain ⟨name, hname, hnone⟩ := outcome_bind_eq_ok_iff.1 hnone
    split at hnone
    · cases hnone
    · next hother =>
      rcases List.mem_cons.1 ha with rfl | ha
      · obtain ⟨declared, hdeclared | hdeclared, hsame⟩ := h
        · rw [hdeclared] at hname
          cases hname
          exact hother hsame
        · have htruth : a.column.truth = true := by
            rw [hdeclared]
            refine Bool.not_eq_true' _ ▸ Bool.eq_false_iff.2 fun hempty => hne ?_
            exact eq_empty_of_sameName (String.isEmpty_iff.1 hempty ▸ hsame)
          rw [if_pos htruth, hdeclared] at hnone
          obtain ⟨override, hoverride, hnone⟩ := outcome_bind_eq_ok_iff.1 hnone
          cases hoverride
          rw [if_pos hsame] at hnone
          cases hnone
      · split at hnone
        · obtain ⟨override, -, hnone⟩ := outcome_bind_eq_ok_iff.1 hnone
          split at hnone
          · cases hnone
          · exact ih ha hnone
        · exact ih ha hnone

theorem matchingPrefix_ne_none {a : Attribute} (ha : a ∈ attributes) {name left : String} (hname : a.name = .str name)
    (h : sameName name left = true) : matchingPrefix attributes left ≠ .ok none := by
  induction attributes with
  | nil => cases ha
  | cons b rest ih =>
    intro hnone
    rw [matchingPrefix] at hnone
    obtain ⟨found, hfound, hnone⟩ := outcome_bind_eq_ok_iff.1 hnone
    split at hnone
    · cases hnone
    · next hother =>
      rcases List.mem_cons.1 ha with rfl | ha
      · rw [hname] at hfound
        cases hfound
        exact hother h
      · exact ih ha hnone

/-- A foreign key whose prefix is declared shows no letter case. -/
theorem withSuffix_congr (hcolumn : sameName column column' = true) (hsuffix : endsInSuffix column = true)
    (h : matchingPrefix attributes (beforeLowLine column) ≠ .ok none) :
    withSuffix attributes column = withSuffix attributes column' := by
  have hmap : ∀ (r : Except Fault (Option String)) (left left' : String), r ≠ .ok none →
      (r.map fun named => named.getD left ++ foreignKeySuffix) = r.map fun named => named.getD left' ++ foreignKeySuffix := by
    intro r left left' hr
    rcases r with f | _ | name
    · rfl
    · exact absurd rfl hr
    · rfl
  rw [withSuffix, withSuffix, ← endsInSuffix_congr hcolumn, if_pos hsuffix, if_pos hsuffix,
    ← matchingPrefix_congr (lower_beforeLowLine_congr hcolumn)]
  exact hmap _ _ _ h

/-- An empty name is that of an empty column or table, which has one spelling only. -/
theorem settledName_congr (hcolumn : sameName column column' = true) {name : String} (h : sameName name column = true) :
    settledName (some name) column = settledName (some name) column' := by
  by_cases hempty : name = ""
  · rw [hempty] at h
    rw [eq_empty_of_sameName h, eq_empty_of_sameName (sameName_trans h hcolumn)]
  · have hname : name.isEmpty = false := Bool.eq_false_iff.2 fun hname => hempty (String.isEmpty_iff.1 hname)
    rw [settledName, settledName, hname, if_neg Bool.false_ne_true, if_neg Bool.false_ne_true]

theorem resolveColumn_congr (hcolumn : sameName column column' = true)
    (h : matchingName attributes column = .ok none → withSuffix attributes column = withSuffix attributes column') :
    resolveColumn attributes column = resolveColumn attributes column' := by
  rw [resolveColumn_eq, resolveColumn_eq, ← matchingName_congr hcolumn]
  refine outcome_bind_congr fun found hfound => ?_
  cases found with
  | none => exact h hfound
  | some name => rw [settledName_congr hcolumn (sameName_of_matchingName hfound)]

/-- A column that an attribute declares shows no letter case. -/
theorem resolveColumn_congr_of_declares (hcolumn : sameName column column' = true) {a : Attribute} (ha : a ∈ attributes)
    (h : a.Declares column) : resolveColumn attributes column = resolveColumn attributes column' := by
  by_cases hempty : column = ""
  · subst hempty
    rw [eq_empty_of_sameName hcolumn]
  · exact resolveColumn_congr hcolumn fun hnone => absurd hnone (matchingName_ne_none ha h hempty)

theorem resolveColumn_congr_of_prefix (hcolumn : sameName column column' = true) (hsuffix : endsInSuffix column = true)
    {a : Attribute} (ha : a ∈ attributes) {name : String} (hname : a.name = .str name)
    (h : sameName name (beforeLowLine column) = true) :
    resolveColumn attributes column = resolveColumn attributes column' :=
  resolveColumn_congr hcolumn fun _ => withSuffix_congr hcolumn hsuffix (matchingPrefix_ne_none ha hname h)

/-- Whether a column can be resolved does not depend on its letter case. -/
theorem exists_resolveColumn (hcolumn : sameName column column' = true) {name : String}
    (h : resolveColumn attributes column = .ok name) :
    ∃ name', resolveColumn attributes column' = .ok name' ∧ sameName name name' = true := by
  have hresolved : ∃ name', resolveColumn attributes column' = .ok name' := by
    rw [resolveColumn_eq] at h ⊢
    obtain ⟨found, hfound, h⟩ := outcome_bind_eq_ok_iff.1 h
    have hfound' := (matchingName_congr hcolumn).symm.trans hfound
    have hsettled : sameName (settledName found column) (settledName found column') = true :=
      sameName_trans (sameName_trans (sameName_settledName hfound) hcolumn) (sameName_symm (sameName_settledName hfound'))
    simp only [hfound', bind, Except.bind]
    rw [withSuffix, ← endsInSuffix_congr hsettled, ← matchingPrefix_congr (lower_beforeLowLine_congr hsettled)]
    rw [withSuffix] at h
    split at h
    · next hsuffix =>
      rw [if_pos hsuffix]
      cases hnamed : matchingPrefix attributes (beforeLowLine (settledName found column)) with
      | error f =>
        rw [hnamed] at h
        cases h
      | ok named => exact ⟨_, rfl⟩
    · next hsuffix => exact ⟨_, if_neg hsuffix⟩
  obtain ⟨name', hname'⟩ := hresolved
  refine ⟨name', hname', sameName_iff.2 ?_⟩
  rw [lower_resolveColumn h, lower_resolveColumn hname', exportedKey_congr hcolumn]

end

theorem RelationColumns.normalize_congr {r : RelationColumns} {name name' side : String} (hname : sameName name name' = true)
    (hside : r.left = .str side ∨ r.right = .str side) (h : sameName side name = true) : r.normalize name = r.normalize name' := by
  have hsame : ∀ declared, sameName name declared = sameName name' declared := fun declared =>
    sameName_congr hname (sameName_refl declared)
  have hmatches : sameName name' side = true := sameName_trans (sameName_symm hname) (sameName_symm h)
  rw [normalize, normalize]
  refine outcome_bind_congr fun left hleft => ?_
  rw [hsame]
  split
  · rfl
  · next hother =>
    refine outcome_bind_congr fun right hright => ?_
    rcases hside with hside | hside
    · rw [hside] at hleft
      cases hleft
      exact absurd hmatches hother
    · rw [hside] at hright
      cases hright
      rw [hsame, if_pos hmatches, if_pos hmatches]

namespace Naming

/-- The name of a column once the attributes of its entity have been looked at. -/
def resolved (n : Naming) (column : String) : Except Fault String :=
  n.entity.elim (.ok column) fun e => resolveColumn e.attributes column

/-- What is declared of a table names the column in every letter case. -/
inductive Settles (n : Naming) (column : String) : Prop
  | declared {e : Entity} {a : Attribute} (he : n.entity = some e) (ha : a ∈ e.attributes) (h : a.Declares column)
  | prefixed {e : Entity} {a : Attribute} {name : String} (he : n.entity = some e) (ha : a ∈ e.attributes)
      (hname : a.name = .str name) (hsuffix : endsInSuffix column = true) (h : sameName name (beforeLowLine column) = true)
  | side {r : RelationColumns} {name side : String} (hr : n.relation = some r) (hname : n.resolved column = .ok name)
      (hside : r.left = .str side ∨ r.right = .str side) (h : sameName side name = true)

variable {n : Naming} {column column' : String}

theorem columnName_of_resolved (h : n.resolved column = n.resolved column') : n.columnName column = n.columnName column' := by
  rw [resolved, resolved] at h
  rw [columnName_eq, columnName_eq, h]

theorem resolved_entity {e : Entity} (he : n.entity = some e) (column : String) :
    n.resolved column = resolveColumn e.attributes column := by
  rw [resolved, he]
  rfl

theorem exists_resolved (hcolumn : sameName column column' = true) {name : String} (h : n.resolved column = .ok name) :
    ∃ name', n.resolved column' = .ok name' ∧ sameName name name' = true := by
  cases he : n.entity with
  | none =>
    simp only [resolved, he, Option.elim_none, Except.ok.injEq] at h ⊢
    exact ⟨column', rfl, h ▸ hcolumn⟩
  | some e =>
    rw [resolved_entity he] at h ⊢
    exact exists_resolveColumn hcolumn h

theorem Settles.columnName_congr (h : n.Settles column) (hcolumn : sameName column column' = true) :
    n.columnName column = n.columnName column' := by
  cases h with
  | @declared e a he ha h =>
    refine columnName_of_resolved ?_
    rw [resolved_entity he, resolved_entity he]
    exact resolveColumn_congr_of_declares hcolumn ha h
  | @prefixed e a name he ha hname hsuffix h =>
    refine columnName_of_resolved ?_
    rw [resolved_entity he, resolved_entity he]
    exact resolveColumn_congr_of_prefix hcolumn hsuffix ha hname h
  | @side r name side hr hname hside h =>
    obtain ⟨name', hname', hsame⟩ := exists_resolved hcolumn hname
    rw [resolved] at hname hname'
    rw [columnName_eq, columnName_eq, hname, hname', hr]
    exact RelationColumns.normalize_congr hsame hside h

end Naming

/-! ## Tables -/

/-- A table that models name: an entity is mapped on it, or it is a relation table. -/
def IsNamed (entities : EntityIndex) (relations : RelationTables) (table : String) : Prop :=
  (∃ e, entities.find? table = some e) ∨ ∃ name columns, (.str name, columns) ∈ relations ∧ sameName name table = true

section
variable {entities : EntityIndex} {relations : RelationTables} {table table' : String}

theorem EntityIndex.find?_congr (entities : EntityIndex) (htable : sameName table table' = true) :
    entities.find? table = entities.find? table' := by
  rw [find?, find?]
  exact congrArg (Option.map IndexEntry.entity)
    (List.find?_congr fun entry _ => sameName_congr (sameName_refl entry.table) htable)

namespace RelationTables

theorem find?_congr (relations : RelationTables) (htable : sameName table table' = true) :
    relations.find? table = relations.find? table' := by
  have hsame : ∀ name, sameName name table = sameName name table' := fun name => sameName_congr (sameName_refl name) htable
  induction relations with
  | nil => rfl
  | cons entry rest ih => simp only [find?, hsame, ih]

theorem sameName_of_find? {name : String} (h : relations.find? table = .ok (some name)) : sameName name table = true := by
  induction relations with
  | nil => cases h
  | cons entry rest ih =>
    rw [find?] at h
    obtain ⟨declared, -, h⟩ := outcome_bind_eq_ok_iff.1 h
    split at h
    · next hsame =>
      cases h
      exact hsame
    · exact ih h

theorem find?_ne_none {name : String} {columns : RelationColumns} (hmem : (.str name, columns) ∈ relations)
    (h : sameName name table = true) : relations.find? table ≠ .ok none := by
  induction relations with
  | nil => cases hmem
  | cons entry rest ih =>
    intro hnone
    rw [find?] at hnone
    obtain ⟨declared, hdeclared, hnone⟩ := outcome_bind_eq_ok_iff.1 hnone
    split at hnone
    · cases hnone
    · next hother =>
      rcases List.mem_cons.1 hmem with rfl | hmem
      · cases hdeclared
        exact hother h
      · exact ih hmem hnone

end RelationTables

theorem exportedName_congr (h : IsNamed entities relations table) (htable : sameName table table' = true) :
    entities.exportedName relations table = entities.exportedName relations table' := by
  rw [EntityIndex.exportedName, EntityIndex.exportedName, ← entities.find?_congr htable, ← relations.find?_congr htable]
  cases hentity : entities.find? table with
  | some e => rfl
  | none =>
    refine outcome_bind_congr fun found hfound => ?_
    cases found with
    | none =>
      obtain ⟨e, he⟩ | ⟨name, columns, hmem, hname⟩ := h
      · cases hentity.symm.trans he
      · exact absurd hfound (RelationTables.find?_ne_none hmem hname)
    | some name =>
      have hsettled := settledName_congr htable (RelationTables.sameName_of_find? hfound)
      exact congrArg (fun shown => Except.ok (Json.str shown)) hsettled

theorem exportNaming_congr (h : IsNamed entities relations table) (htable : sameName table table' = true) :
    exportNaming entities relations table = exportNaming entities relations table' := by
  rw [exportNaming, exportNaming, exportedName_congr h htable]

end
end TableDump
