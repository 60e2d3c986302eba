import Mathlib.Data.List.TakeWhile
import TableDump.Export.Row
import TableDump.Proofs.RunFrame
import TableDump.Proofs.Text.LetterCase

/-! # Names of exported columns

* `exportedKey`: the lower case of the name under which a column of a mapped table is exported. The column
  decides it alone; what an entity declares decides only the letter case (`lower_resolveColumn`).
* Two columns get one name only when both end in the suffix of foreign keys and agree before the first
  low line (`Naming.collides_of_columnName`).
-/

namespace TableDump
open TableDump.Text
set_option autoImplicit false

/-! ## Names in lower case -/

theorem lower_append_suffix (s : String) : lower (s ++ foreignKeySuffix) = lower s ++ foreignKeySuffix := by
  have hsuffix : foreignKeySuffix.toList = '_' :: ['i', 'd'] := by decide
  have hlower : lowerFrom false ['i', 'd'] = ['i', 'd'] := by decide
  rw [lower, String.toList_append, hsuffix, lowerFrom_lowLine, hlower, ← hsuffix, String.ofList_append,
    String.ofList_toList, ← lower]

theorem lowLine_notMem_beforeLowLine (s : String) : '_' ∉ (beforeLowLine s).toList := by
  rw [beforeLowLine, String.toList_ofList]
  exact fun hmem => by simpa using List.mem_takeWhile_imp hmem

theorem toList_lower_beforeLowLine (s : String) :
    (lower (beforeLowLine s)).toList = (lower s).toList.takeWhile (· != '_') := by
  have hbefore := lowLine_notMem_beforeLowLine s
  rw [beforeLowLine, String.toList_ofList] at hbefore
  have hkeeps : ∀ c ∈ lowerFrom false (s.toList.takeWhile (· != '_')), (c != '_') = true := fun c hc =>
    bne_iff_ne.2 fun heq => lowLine_notMem_lowerFrom hbefore false (heq ▸ hc)
  have hsplit := List.takeWhile_append_dropWhile (p := (· != '_')) (l := s.toList)
  simp only [lower, beforeLowLine, String.toList_ofList]
  cases hrest : s.toList.dropWhile (· != '_') with
  | nil =>
    rw [hrest, List.append_nil] at hsplit
    rw [hsplit] at hkeeps ⊢
    exact (List.takeWhile_eq_self_iff.2 hkeeps).symm
  | cons c rest =>
    have hc : c = '_' := by
      have hhead := List.head_dropWhile_not (· != '_') (l := s.toList) (by simp [hrest])
      simpa [hrest] using hhead
    rw [hrest, hc] at hsplit
    have hlower := lowerFrom_lowLine false (s.toList.takeWhile (· != '_')) rest
    rw [hsplit] at hlower
    rw [hlower, List.takeWhile_append_of_pos hkeeps]
    simp

theorem lower_beforeLowLine_congr {s t : String} (h : sameName s t = true) :
    sameName (beforeLowLine s) (beforeLowLine t) = true := by
  rw [sameName_iff, ← String.toList_inj, toList_lower_beforeLowLine, toList_lower_beforeLowLine, sameName_iff.1 h]

theorem endsInSuffix_congr {s t : String} (h : sameName s t = true) : endsInSuffix s = endsInSuffix t := by
  rw [endsInSuffix, endsInSuffix, sameName_iff.1 h]

/-! ## Exported names in lower case -/

def exportedKey (column : String) : String :=
  if endsInSuffix column then lower (beforeLowLine column) ++ foreignKeySuffix else lower column

theorem exportedKey_congr {s t : String} (h : sameName s t = true) : exportedKey s = exportedKey t := by
  rw [exportedKey, exportedKey, endsInSuffix_congr h, sameName_iff.1 h, sameName_iff.1 (lower_beforeLowLine_congr h)]

theorem sameName_of_matchingName {attributes : List Attribute} {column name : String}
    (h : matchingName attributes column = .ok (some name)) : sameName name column = true := by
  induction attributes with
  | nil => cases h
  | cons a rest ih =>
    rw [matchingName] at h
    obtain ⟨declared, -, h⟩ := outcome_bind_eq_ok_iff.1 h
    split at h
    · next hsame =>
      cases h
      exact hsame
    · split at h
      · obtain ⟨override, -, h⟩ := outcome_bind_eq_ok_iff.1 h
        split at h
        · next hsame =>
          cases h
          exact hsame
        · exact ih h
      · exact ih h

theorem sameName_of_matchingPrefix {attributes : List Attribute} {left name : String}
    (h : matchingPrefix attributes left = .ok (some name)) : sameName name left = true := by
  induction attributes with
  | nil => cases h
  | cons a rest ih =>
    rw [matchingPrefix] at h
    obtain ⟨declared, -, h⟩ := outcome_bind_eq_ok_iff.1 h
    split at h
    · next hsame =>
      cases h
      exact hsame
    · exact ih h

/-- The name that a column goes by before suffixes are looked at. -/
def settledName (found : Option String) (column : String) : String :=
  match found with
  | some name => if name.isEmpty then column else name
  | none => column

def withSuffix (attributes : List Attribute) (name : String) : Except Fault String :=
  if endsInSuffix name then
    (matchingPrefix attributes (beforeLowLine name)).map fun named => named.getD (beforeLowLine name) ++ foreignKeySuffix
  else .ok name

theorem resolveColumn_eq (attributes : List Attribute) (column : String) : resolveColumn attributes column =
    (matchingName attributes column >>= fun found => withSuffix attributes (settledName found column)) := rfl

theorem sameName_settledName {attributes : List Attribute} {column : String} {found : Option String}
    (h : matchingName attributes column = .ok found) : sameName (settledName found column) column = true := by
  cases found with
  | none => exact sameName_refl column
  | some name =>
    rw [settledName]
    split
    · exact sameName_refl column
    · exact sameName_of_matchingName h

theorem lower_withSuffix {attributes : List Attribute} {name result : String} (h : withSuffix attributes name = .ok result) :
    lower result = exportedKey name := by
  rw [withSuffix] at h
  rw [exportedKey]
  split at h
  · next hsuffix =>
    rw [if_pos hsuffix]
    cases hnamed : matchingPrefix attributes (beforeLowLine name) with
    | error f =>
      rw [hnamed] at h
      cases h
    | ok named =>
      rw [hnamed] at h
      have hresult : named.getD (beforeLowLine name) ++ foreignKeySuffix = result := Except.ok.inj h
      rw [← hresult, lower_append_suffix]
      cases named with
      | none => rfl
      | some declared => rw [Option.getD_some, sameName_iff.1 (sameName_of_matchingPrefix hnamed)]
  · next hsuffix => rw [if_neg hsuffix, Except.ok.inj h]

/-- The declared attributes decide the letter case of an exported name and nothing else. -/
theorem lower_resolveColumn {attributes : List Attribute} {column name : String}
    (h : resolveColumn attributes column = .ok name) : lower name = exportedKey column := by
  rw [resolveColumn_eq] at h
  obtain ⟨found, hfound, h⟩ := outcome_bind_eq_ok_iff.1 h
  rw [lower_withSuffix h, exportedKey_congr (sameName_settledName hfound)]

theorem RelationColumns.sameName_normalize {r : RelationColumns} {name declared : String} (h : r.normalize name = .ok declared) :
    sameName declared name = true := by
  rw [normalize] at h
  obtain ⟨left, -, h⟩ := outcome_bind_eq_ok_iff.1 h
  split at h
  · next hsame =>
    cases h
    rw [sameName_comm, hsame]
  · obtain ⟨right, -, h⟩ := outcome_bind_eq_ok_iff.1 h
    cases h
    split
    · next hsame => rw [sameName_comm, hsame]
    · exact sameName_refl name

theorem Naming.columnName_eq (n : Naming) (column : String) : n.columnName column =
    ((n.entity.elim (.ok column) fun e => resolveColumn e.attributes column) >>= fun name =>
      n.relation.elim (.ok name) fun r => r.normalize name) := by
  obtain ⟨_ | e, _ | r⟩ := n <;> rfl

theorem Naming.lower_columnName {n : Naming} {column name : String} (h : n.columnName column = .ok name) :
    lower name = if n.entity.isSome then exportedKey column else lower column := by
  rw [columnName_eq] at h
  obtain ⟨resolved, hresolved, h⟩ := outcome_bind_eq_ok_iff.1 h
  have hname : lower name = lower resolved := by
    cases hr : n.relation with
    | none =>
      rw [hr] at h
      rw [Except.ok.inj h]
    | some r =>
      rw [hr] at h
      exact sameName_iff.1 (RelationColumns.sameName_normalize h)
  rw [hname]
  cases he : n.entity with
  | none =>
    rw [he] at hresolved
    rw [Option.isSome_none, if_neg Bool.false_ne_true, Except.ok.inj hresolved]
  | some e =>
    rw [he] at hresolved
    rw [Option.isSome_some, if_pos rfl, lower_resolveColumn hresolved]

/-! ## Columns with one exported name -/

/-- Both are foreign keys that agree before the first low line. -/
def Collides (a b : String) : Prop :=
  endsInSuffix a = true ∧ endsInSuffix b = true ∧ sameName (beforeLowLine a) (beforeLowLine b) = true

instance (a b : String) : Decidable (Collides a b) := inferInstanceAs (Decidable (_ ∧ _ ∧ _))

/-- A suffixed key is no key of a column without the suffix. -/
theorem endsInSuffix_of_key {column left : String} (h : left ++ foreignKeySuffix = lower column) :
    endsInSuffix column = true := by
  rw [endsInSuffix, ← h, String.toList_append, List.isSuffixOf_iff_suffix]
  exact List.suffix_append _ _

/-- Only the attributes of an entity give two columns one name. -/
theorem Naming.collides_of_columnName {n : Naming} {a b name : String} (hab : sameName a b = false)
    (ha : n.columnName a = .ok name) (hb : n.columnName b = .ok name) : n.entity.isSome = true ∧ Collides a b := by
  have hlower : lower a ≠ lower b := by simpa [sameName] using hab
  have hkeys := (lower_columnName ha).symm.trans (lower_columnName hb)
  split at hkeys
  · next hentity =>
    refine ⟨hentity, ?_⟩
    rw [exportedKey, exportedKey] at hkeys
    split at hkeys <;> split at hkeys
    · next hsuffix hsuffix' =>
      exact ⟨hsuffix, hsuffix', sameName_iff.2 ((String.append_left_inj _).1 hkeys)⟩
    · next hsuffix' => exact absurd (endsInSuffix_of_key hkeys) hsuffix'
    · next hsuffix _ => exact absurd (endsInSuffix_of_key hkeys.symm) hsuffix
    · exact absurd hkeys hlower
  · exact absurd hkeys hlower

end TableDump
