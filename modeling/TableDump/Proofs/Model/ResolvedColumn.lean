import TableDump.Proofs.Model.ModelLoading
import TableDump.Proofs.Model.SettledColumn

/-! # Resolved names of columns

What the attributes of an entity make of the name of a column.

* `Attribute.NamesColumns`: an attribute whose name is a text, and its column override too. Such attributes resolve every
  column (`exists_resolveColumn_of_texts`).
* Two spellings of a column are resolved to spellings of one name, and to one spelling where an attribute declares the
  column or the prefix of the foreign key that it is (`resolveColumn_ignores_case`).
* `IsNormalName`: a name that is no foreign key, or one that ends in the suffix in small letters and has no other low
  line. Every resolved name is normal, and resolving it again changes its letter case at most
  (`resolveColumn_reaches_normal_name`).
-/

namespace TableDump
open TableDump.Text
set_option autoImplicit false

/-! ## Attributes of texts -/

structure Attribute.NamesColumns (a : Attribute) : Prop where
  name : a.name.IsText
  column : a.column.truth = true → a.column.IsText

section
variable {attributes : List Attribute} (h : ∀ a ∈ attributes, a.NamesColumns)
include h

theorem exists_matchingName (column : String) : ∃ found, matchingName attributes column = .ok found := by
  induction attributes with
  | nil => exact ⟨none, rfl⟩
  | cons a rest ih =>
    obtain ⟨ha, hrest⟩ := List.forall_mem_cons.1 h
    obtain ⟨name, hname⟩ := ha.name
    simp only [matchingName, hname, Json.textFor, bind, Except.bind]
    split
    · exact ⟨some name, rfl⟩
    · split
      · next htruth =>
        obtain ⟨override, hoverride⟩ := ha.column htruth
        simp only [hoverride]
        split
        · exact ⟨some override, rfl⟩
        · exact ih hrest
      · exact ih hrest

theorem exists_matchingPrefix (left : String) : ∃ named, matchingPrefix attributes left = .ok named := by
  induction attributes with
  | nil => exact ⟨none, rfl⟩
  | cons a rest ih =>
    obtain ⟨ha, hrest⟩ := List.forall_mem_cons.1 h
    obtain ⟨name, hname⟩ := ha.name
    simp only [matchingPrefix, hname, Json.textFor, bind, Except.bind]
    split
    · exact ⟨some name, rfl⟩
    · exact ih hrest

theorem exists_resolveColumn_of_texts (column : String) : ∃ name, resolveColumn attributes column = .ok name := by
  obtain ⟨found, hfound⟩ := exists_matchingName h column
  obtain ⟨named, hnamed⟩ := exists_matchingPrefix h (beforeLowLine (settledName found column))
  rw [resolveColumn_eq, hfound]
  simp only [bind, Except.bind, withSuffix, hnamed]
  split <;> exact ⟨_, rfl⟩

end

/-! ## Spellings of a column -/

/-- The name of the attribute is what stands before the first low line of the column. -/
def Attribute.Prefixes (a : Attribute) (column : String) : Prop :=
  ∃ name, a.name = .str name ∧ sameName name (beforeLowLine column) = true

theorem resolveColumn_ignores_case (attributes : List Attribute) {column column' : String} (hcolumn : sameName column column' = true) :
    ((∀ a ∈ attributes, a.NamesColumns) → ∃ name, resolveColumn attributes column = .ok name) ∧
      (∀ name, resolveColumn attributes column = .ok name →
        ∃ name', resolveColumn attributes column' = .ok name' ∧ sameName name name' = true) ∧
      ((∃ a ∈ attributes, a.Declares column) ∨ (endsInSuffix column = true ∧ ∃ a ∈ attributes, a.Prefixes column) →
        resolveColumn attributes column = resolveColumn attributes column') := by
  refine ⟨fun htexts => exists_resolveColumn_of_texts htexts column, fun name h => exists_resolveColumn hcolumn h, ?_⟩
  rintro (⟨a, ha, hdeclares⟩ | ⟨hsuffix, a, ha, name, hname, hprefix⟩)
  · exact resolveColumn_congr_of_declares hcolumn ha hdeclares
  · exact resolveColumn_congr_of_prefix hcolumn hsuffix ha hname hprefix

/-- The override of one attribute matches the column, and the name of another one what stands before its first low line. -/
def ownerAttributes : List Attribute :=
  [{ name := .str "holder", column := .str "Owner_Group_Id" }, { name := .str "owner", basic := .bool false }]

theorem resolveColumn_ignores_case_owner : sameName "OWNER_GROUP_ID" "owner_group_id" = true ∧
    (∀ a ∈ ownerAttributes, a.NamesColumns) ∧ (∃ a ∈ ownerAttributes, a.Declares "OWNER_GROUP_ID") ∧
    resolveColumn ownerAttributes "OWNER_GROUP_ID" = .ok "owner_id" ∧
    resolveColumn ownerAttributes "owner_group_id" = .ok "owner_id" := by
  have hcolumn : sameName "OWNER_GROUP_ID" "owner_group_id" = true := by decide
  have hdeclares : ∃ a ∈ ownerAttributes, a.Declares "OWNER_GROUP_ID" :=
    ⟨_, List.mem_cons_self, "Owner_Group_Id", .inr rfl, by decide⟩
  have htexts : ∀ a ∈ ownerAttributes, a.NamesColumns :=
    List.forall_mem_cons.2 ⟨⟨⟨_, rfl⟩, fun _ => ⟨_, rfl⟩⟩, List.forall_mem_singleton.2 ⟨⟨_, rfl⟩, nofun⟩⟩
  have hresolved : resolveColumn ownerAttributes "OWNER_GROUP_ID" = .ok "owner_id" := by rfl
  have hsame := (resolveColumn_ignores_case ownerAttributes hcolumn).2.2 (.inl hdeclares)
  exact ⟨hcolumn, htexts, hdeclares, hresolved, hsame ▸ hresolved⟩

/-! ## Normal names -/

def IsNormalName (name : String) : Prop :=
  endsInSuffix name = true → ∃ left : String, name = left ++ foreignKeySuffix ∧ '_' ∉ left.toList

theorem lowLine_notMem_of_sameName {s t : String} (h : sameName s t = true) (ht : '_' ∉ t.toList) : '_' ∉ s.toList := by
  rwa [← lowLine_mem_lower_iff, sameName_iff.1 h, lowLine_mem_lower_iff]

theorem isNormalName_withSuffix {attributes : List Attribute} {name result : String} (h : withSuffix attributes name = .ok result) :
    IsNormalName result := by
  rw [withSuffix] at h
  split at h
  · obtain ⟨named, hnamed, hresult⟩ := outcome_map_eq_ok_iff.1 h
    refine fun _ => ⟨named.getD (beforeLowLine name), hresult.symm, ?_⟩
    cases named with
    | none => exact lowLine_notMem_beforeLowLine name
    | some declared =>
      exact lowLine_notMem_of_sameName (sameName_of_matchingPrefix hnamed) (lowLine_notMem_beforeLowLine name)
  · next hsuffix =>
    rw [← Except.ok.inj h]
    exact fun hends => absurd hends hsuffix

theorem beforeLowLine_append_suffix {left : String} (h : '_' ∉ left.toList) : beforeLowLine (left ++ foreignKeySuffix) = left := by
  have hleft : ∀ c ∈ left.toList, (c != '_') = true := fun c hc => bne_iff_ne.2 fun heq => h (heq ▸ hc)
  have hsuffix : foreignKeySuffix.toList.takeWhile (· != '_') = [] := by decide
  rw [beforeLowLine, String.toList_append, List.takeWhile_append_of_pos hleft, hsuffix, List.append_nil, String.ofList_toList]

/-- Cutting a normal name at its first low line changes nothing. -/
theorem exportedKey_of_isNormalName {name : String} (h : IsNormalName name) : exportedKey name = lower name := by
  rw [exportedKey]
  split
  · next hsuffix =>
    obtain ⟨left, rfl, hleft⟩ := h hsuffix
    rw [beforeLowLine_append_suffix hleft, lower_append_suffix]
  · rfl

theorem resolveColumn_reaches_normal_name (attributes : List Attribute) (column : String) :
    ((∀ a ∈ attributes, a.NamesColumns) →
        ∃ name again, resolveColumn attributes column = .ok name ∧ resolveColumn attributes name = .ok again) ∧
      ∀ name, resolveColumn attributes column = .ok name → IsNormalName name ∧
        (endsInSuffix column = false → sameName name column = true) ∧
        ∀ again, resolveColumn attributes name = .ok again → sameName again name = true := by
  constructor
  · intro htexts
    obtain ⟨name, hname⟩ := exists_resolveColumn_of_texts htexts column
    obtain ⟨again, hagain⟩ := exists_resolveColumn_of_texts htexts name
    exact ⟨name, again, hname, hagain⟩
  · intro name hname
    have hkey := lower_resolveColumn hname
    have hnormal : IsNormalName name := by
      rw [resolveColumn_eq] at hname
      obtain ⟨found, -, hsettled⟩ := outcome_bind_eq_ok_iff.1 hname
      exact isNormalName_withSuffix hsettled
    refine ⟨hnormal, fun hplain => ?_, fun again hagain => ?_⟩
    · rw [exportedKey, hplain] at hkey
      exact sameName_iff.2 hkey
    · rw [sameName_iff, lower_resolveColumn hagain, exportedKey_of_isNormalName hnormal]

/-- No attribute matches the column, and one matches the name that it is resolved to. -/
def managerAttributes : List Attribute := [{ name := .str "MANAGER_ID" }]

theorem resolveColumn_reaches_normal_name_manager : (∀ a ∈ managerAttributes, a.NamesColumns) ∧
    resolveColumn managerAttributes "manager_Group_Id" = .ok "manager_id" ∧ IsNormalName "manager_id" ∧
    resolveColumn managerAttributes "manager_id" = .ok "MANAGER_id" ∧ sameName "MANAGER_id" "manager_id" = true := by
  have htexts : ∀ a ∈ managerAttributes, a.NamesColumns := List.forall_mem_singleton.2 ⟨⟨_, rfl⟩, nofun⟩
  have hresolved : resolveColumn managerAttributes "manager_Group_Id" = .ok "manager_id" := by rfl
  have hagain : resolveColumn managerAttributes "manager_id" = .ok "MANAGER_id" := by rfl
  obtain ⟨hnormal, -, hsame⟩ := (resolveColumn_reaches_normal_name managerAttributes "manager_Group_Id").2 _ hresolved
  exact ⟨htexts, hresolved, hnormal, hagain, hsame _ hagain⟩

end TableDump
