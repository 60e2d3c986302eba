import TableDump.Proofs.Model.RelationDeclarations
import TableDump.Proofs.Schema.GraphHistory

/-! # Lookup by table

What an index of models answers, told from the list of the models.

* `lastOn`: the last of some models on a table, names compared ignoring case; `declaredTables`: the tables of the models that
  have one.
* `replacements`: one warning for each model whose table an earlier model has.
* `EntityIndex.Indexes`: the index finds the last model on each table, and its tables are the distinct ones of the models. An
  insertion keeps it and logs what it replaces (`EntityIndex.Indexes.insert`), and so does a whole list
  (`EntityIndex.ofEntities_indexes`).
* `EntityIndex.ofEntities_answers`: what is found, counted and logged, and the name under which a table is exported.
-/

namespace TableDump
open TableDump.Schema TableDump.Text
set_option autoImplicit false

/-! ## Models on a table -/

namespace Entity

/-- The table of an entity, none where its name is empty. -/
def declaredTable? (e : Entity) : Option String :=
  match e.table with
  | .str table => if table.isEmpty then none else some table
  | _ => none

def isOn (table : String) (e : Entity) : Bool := e.declaredTable?.any fun declared => sameName declared table

/-- An entity has a table or none; a table that is no text is ruled out. -/
theorem declaredTable?_cases {e : Entity} (h : e.table.truth = true → e.table.IsText) :
    (e.table.truth = false ∧ e.declaredTable? = none) ∨
      ∃ table, e.table = .str table ∧ e.table.truth = true ∧ e.declaredTable? = some table := by
  cases htruth : e.table.truth with
  | true =>
    obtain ⟨table, htable⟩ := h htruth
    have hfilled : table.isEmpty = false := by simpa [htable, Json.truth] using htruth
    refine .inr ⟨table, htable, rfl, ?_⟩
    simp [declaredTable?, htable, hfilled]
  | false =>
    refine .inl ⟨rfl, ?_⟩
    rw [declaredTable?]
    split
    · next table htable =>
      have hempty : table.isEmpty = true := by simpa [htable, Json.truth] using htruth
      exact if_pos hempty
    · rfl

end Entity

def declaredTables (models : List Entity) : List String := models.filterMap Entity.declaredTable?

/-- The last of some models on a table. -/
def lastOn (models : List Entity) (table : String) : Option Entity := (models.filter (Entity.isOn table)).getLast?

theorem lastOn_concat (models : List Entity) (e : Entity) (table : String) :
    lastOn (models ++ [e]) table = if e.isOn table then some e else lastOn models table := by
  rw [lastOn, List.filter_append, List.filter_singleton]
  cases e.isOn table
  · rw [Bool.cond_false, List.append_nil]
    rfl
  · exact List.getLast?_concat

theorem lastOn_eq_none_iff {models : List Entity} {table : String} :
    lastOn models table = none ↔ ∀ declared ∈ declaredTables models, sameName declared table = false := by
  rw [lastOn, List.getLast?_eq_none_iff, List.filter_eq_nil_iff]
  simp only [declaredTables, List.mem_filterMap, Entity.isOn, Option.any_eq_true, not_exists, not_and, Bool.not_eq_true]
  exact ⟨fun h declared ⟨e, he, hdeclared⟩ => h e he declared hdeclared,
    fun h e he declared hdeclared => h declared ⟨e, he, hdeclared⟩⟩

/-! ## Replaced models -/

/-- The warning that an entity takes the place of an earlier one. -/
def replacement? (earlier : List Entity) (e : Entity) : Option Record :=
  e.declaredTable?.bind fun table =>
    (lastOn earlier table).map fun replaced => ⟨.warning, EntityIndex.mappedTwice table replaced e⟩

/-- One warning for each model whose table one of the models before it has. -/
def replacements (models : List Entity) : List Record :=
  models.zipIdx.filterMap fun numbered => replacement? (models.take numbered.2) numbered.1

theorem replacements_concat (models : List Entity) (e : Entity) :
    replacements (models ++ [e]) = replacements models ++ (replacement? models e).toList := by
  have hbefore : (models.zipIdx.filterMap fun numbered => replacement? ((models ++ [e]).take numbered.2) numbered.1) =
      replacements models := by
    refine List.filterMap_congr fun numbered hnumbered => ?_
    rw [List.take_append_of_le_length (List.snd_lt_of_mem_zipIdx hnumbered).le]
  rw [replacements, List.zipIdx_append, List.filterMap_append, hbefore, Nat.zero_add, List.zipIdx_singleton,
    List.filterMap_cons, List.take_left]
  cases replacement? models e <;> rfl

/-! ## Relation tables -/

/-- No table has the name where no key does. -/
theorem RelationTables.find?_of_names_none {tables : RelationTables} (htexts : ∀ entry ∈ tables, entry.1.IsText) {table : String}
    (h : (tables.map Prod.fst).find? (Json.names table) = none) : tables.find? table = .ok none := by
  induction tables with
  | nil => rfl
  | cons entry rest ih =>
    obtain ⟨⟨text, htext⟩, hrest⟩ := List.forall_mem_cons.1 htexts
    obtain ⟨key, columns⟩ := entry
    obtain rfl : key = .str text := htext
    have hnone := List.find?_eq_none.1 h
    have hother : sameName text table = false := Bool.eq_false_iff.2 (hnone (.str text) List.mem_cons_self)
    have hothers := List.find?_eq_none.2 fun name hname => hnone name (List.mem_cons_of_mem _ hname)
    simp only [find?, Json.textFor, bind, Except.bind, hother]
    exact ih hrest hothers

/-! ## Indices -/

namespace EntityIndex
variable {models : List Entity} {index : EntityIndex} {e : Entity}

theorem lowers_putEntry (entry : IndexEntry) (entries : List IndexEntry) :
    ((putEntry entry entries).map fun old => lower old.table) =
      (entries.map fun old => lower old.table) ++
        if ∃ old ∈ entries, sameName old.table entry.table = true then [] else [lower entry.table] := by
  induction entries with
  | nil => simp [putEntry]
  | cons old rest ih =>
    cases hold : sameName old.table entry.table with
    | true => simp [putEntry, hold, sameName_iff.1 hold]
    | false => simp [putEntry, hold, ih]

/-- The index finds the last of the models on each table, and has one entry for each distinct table. -/
structure Indexes (index : EntityIndex) (models : List Entity) : Prop where
  find : ∀ table, index.find? table = lastOn models table
  tables : (index.entries.map fun entry => lower entry.table) = (distinctNames (declaredTables models)).map lower

theorem indexes_nil : Indexes {} [] := ⟨fun _ => rfl, rfl⟩

theorem Indexes.size_eq (h : index.Indexes models) : index.size = (distinctNames (declaredTables models)).length := by
  rw [size, ← List.length_map, h.tables, List.length_map]

theorem Indexes.skip (h : index.Indexes models) (he : e.declaredTable? = none) : index.Indexes (models ++ [e]) where
  find table := by
    rw [h.find, lastOn_concat, Entity.isOn, he]
    rfl
  tables := by
    rw [h.tables, declaredTables, declaredTables, List.filterMap_append, List.filterMap_cons_none he, List.filterMap_nil,
      List.append_nil]

theorem find?_eq_none_iff {table : String} :
    index.find? table = none ↔ ¬ ∃ old ∈ index.entries, sameName old.table table = true := by
  rw [find?, Option.map_eq_none_iff, List.find?_eq_none]
  simp only [not_exists, not_and]

theorem Indexes.put (h : index.Indexes models) {table : String} (he : e.declaredTable? = some table) :
    (⟨putEntry ⟨table, e⟩ index.entries⟩ : EntityIndex).Indexes (models ++ [e]) where
  find t := by
    rw [lastOn_concat, Entity.isOn, he, Option.any_some]
    cases hsame : sameName table t with
    | true =>
      rw [if_pos rfl, ← EntityIndex.find?_congr _ hsame]
      exact find?_putEntry_self ⟨table, e⟩ index.entries
    | false =>
      have hother : sameName (IndexEntry.mk table e).table t = false := hsame
      rw [if_neg Bool.false_ne_true, ← h.find, find?_putEntry_of_ne hother]
  tables := by
    -- an entry is there before just when a model has declared the table before
    have htaken : (∃ old ∈ index.entries, sameName old.table table = true) ↔
        ∃ declared ∈ declaredTables models, sameName declared table = true := by
      rw [← not_iff_not, ← find?_eq_none_iff, h.find, lastOn_eq_none_iff]
      simp only [not_exists, not_and, Bool.not_eq_true]
    have hdeclared : declaredTables (models ++ [e]) = declaredTables models ++ [table] := by
      rw [declaredTables, List.filterMap_append, List.filterMap_cons_some he]
      rfl
    rw [lowers_putEntry, h.tables, hdeclared, distinctNames_concat, List.map_append]
    simp only [htaken]
    split <;> rfl

theorem Indexes.insert (h : index.Indexes models) (he : e.table.truth = true → e.table.IsText) (s : Session) :
    ∃ index' : EntityIndex, index'.Indexes (models ++ [e]) ∧
      (index.insert e).result s = (.ok index', s.extend ((replacement? models e).toList.map .logged)) := by
  unfold EntityIndex.insert
  rcases Entity.declaredTable?_cases he with ⟨htruth, hnone⟩ | ⟨table, htable, htruth, hdeclared⟩
  · refine ⟨index, h.skip hnone, ?_⟩
    rw [htruth, if_neg Bool.false_ne_true]
    simp [replacement?, hnone]
  · refine ⟨_, h.put hdeclared, ?_⟩
    rw [htruth, if_pos rfl, htable, Json.textFor, Run.lift_ok_bind, h.find]
    rw [replacement?, hdeclared, Option.bind_some]
    cases lastOn models table with
    | none => simp
    | some replaced => rfl

/-- An index of models finds the last one on each table, and each replacement is logged. -/
theorem ofEntities_indexes (models : List Entity) (htables : NamesTables models) (s : Session) :
    ∃ index : EntityIndex, index.Indexes models ∧
      (ofEntities models).result s = (.ok index, s.extend ((replacements models).map .logged)) := by
  induction models using List.reverseRecOn with
  | nil => exact ⟨{}, indexes_nil, by simp [ofEntities, replacements]⟩
  | append_singleton models e ih =>
    obtain ⟨hmodels, he⟩ := List.forall_mem_append.1 htables
    obtain ⟨index, hindex, hresult⟩ := ih hmodels
    obtain ⟨index', hindex', hinsert⟩ :=
      hindex.insert (List.forall_mem_singleton.1 he) (s.extend ((replacements models).map .logged))
    refine ⟨index', hindex', ?_⟩
    rw [ofEntities, List.foldlM_append, Run.result_bind, ← ofEntities, hresult]
    simp only [List.foldlM_cons, List.foldlM_nil, bind_pure, hinsert, replacements_concat, List.map_append,
      Session.extend_extend]

/-! ## Exported names -/

/-- A mapped table has the name of its entity, a relation table its first declared name, and any other one its own. -/
theorem exportedName_eq (index : EntityIndex) {relations : RelationTables} (htexts : ∀ entry ∈ relations, entry.1.IsText)
    (table : String) : index.exportedName relations table =
      .ok ((((index.find? table).map Entity.name).or ((relations.map Prod.fst).find? (Json.names table))).getD (.str table)) := by
  cases hmapped : index.find? table with
  | some e =>
    rw [exportedName, hmapped]
    rfl
  | none =>
    cases hdeclared : (relations.map Prod.fst).find? (Json.names table) with
    | some key =>
      obtain ⟨name, rfl⟩ := Json.isText_of_names (List.find?_some hdeclared)
      exact exportedName_of_find? hmapped (RelationTables.find?_of_names htexts hdeclared)
    | none =>
      rw [exportedName, hmapped]
      simp only [RelationTables.find?_of_names_none htexts hdeclared]
      rfl

/-- What is found, counted and logged for some models, and the name under which a table is exported. -/
theorem ofEntities_answers (models : List Entity) (htables : NamesTables models) (s : Session) :
    ∃ index : EntityIndex, (ofEntities models).result s = (.ok index, s.extend ((replacements models).map .logged)) ∧
      (∀ table, index.find? table = lastOn models table) ∧
      index.size = (distinctNames (declaredTables models)).length ∧
      ∀ relations : RelationTables, (∀ entry ∈ relations, entry.1.IsText) → ∀ table,
        index.exportedName relations table = .ok ((((lastOn models table).map Entity.name).or
          ((relations.map Prod.fst).find? (Json.names table))).getD (.str table)) ∧
        (IsNamed index relations table → ∀ table', sameName table table' = true →
          index.exportedName relations table' = index.exportedName relations table) ∧
        (¬ IsNamed index relations table → index.exportedName relations table = .ok (.str table)) := by
  obtain ⟨index, hindex, hresult⟩ := ofEntities_indexes models htables s
  refine ⟨index, hresult, hindex.find, hindex.size_eq, fun relations htexts table => ⟨?_, ?_, fun hunnamed => ?_⟩⟩
  · rw [exportedName_eq index htexts, hindex.find]
  · exact fun hnamed table' hsame => (exportedName_congr hnamed hsame).symm
  · have hunmapped : index.find? table = none := Option.eq_none_iff_forall_ne_some.2 fun e he => hunnamed (.inl ⟨e, he⟩)
    have hundeclared : (relations.map Prod.fst).find? (Json.names table) = none := by
      refine List.find?_eq_none.2 fun key hkey hnames => hunnamed (.inr ?_)
      obtain ⟨⟨_, columns⟩, hentry, rfl⟩ := List.mem_map.1 hkey
      obtain ⟨name, rfl⟩ := Json.isText_of_names hnames
      exact ⟨name, columns, hentry, hnames⟩
    rw [exportedName_eq index htexts, hunmapped, hundeclared]
    rfl

/-- Three models are on one table, and one is on none. -/
def overlappingModels : List Entity :=
  [{ name := .str "Legacy", table := .str "accounts" }, { name := .str "Notice" },
    { name := .str "Account", table := .str "ACCOUNTS" }, { name := .str "User", table := .str "Users" },
    { name := .str "Member", table := .str "Accounts" }]

theorem ofEntities_answers_overlapping : NamesTables overlappingModels ∧
    ∃ index : EntityIndex, (ofEntities overlappingModels).result {} = (.ok index, ⟨
      [.logged ⟨.warning, "Table ACCOUNTS mapped by both Legacy and Account; keeping Account"⟩,
        .logged ⟨.warning, "Table Accounts mapped by both Account and Member; keeping Member"⟩], ""⟩) ∧
      index.find? "aCCOUNTS" = some { name := .str "Member", table := .str "Accounts" } ∧ index.find? "Notice" = none ∧
      index.size = 2 ∧
      index.exportedName [(.str "Links", ⟨.str "user_id", .str "role_id"⟩)] "LINKS" = .ok (.str "Links") ∧
      index.exportedName [(.str "Links", ⟨.str "user_id", .str "role_id"⟩)] "Other" = .ok (.str "Other") := by
  have htables : NamesTables overlappingModels := by
    simp only [NamesTables, overlappingModels, List.forall_mem_cons]
    exact ⟨fun _ => ⟨_, rfl⟩, fun htruth => absurd htruth Bool.false_ne_true, fun _ => ⟨_, rfl⟩, fun _ => ⟨_, rfl⟩,
      fun _ => ⟨_, rfl⟩, List.forall_mem_nil _⟩
  obtain ⟨index, hresult, hfind, hsize, hexported⟩ := ofEntities_answers overlappingModels htables {}
  have hlinks := hexported [(.str "Links", ⟨.str "user_id", .str "role_id"⟩)] (List.forall_mem_singleton.2 ⟨"Links", rfl⟩)
  refine ⟨htables, index, hresult.trans rfl, (hfind _).trans rfl, (hfind _).trans rfl, hsize.trans rfl, ?_, ?_⟩
  · exact (hlinks "LINKS").1.trans rfl
  · exact (hlinks "Other").1.trans rfl

end EntityIndex
end TableDump
