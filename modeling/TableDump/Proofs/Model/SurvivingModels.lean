import TableDump.Proofs.Model.ModelLoading
import TableDump.Proofs.Schema.ReferenceGraph

/-! # Surviving models

Which models an index holds when several are mapped on one table, and in what order.

* `surviving`: the models whose table no later model takes, in the order in which they are declared.
* `Entity.Joins`: one entity goes into an index, in the place of the one on its table or behind all of them.
* An index holds the surviving models (`ends_ofEntities_perm`). Those that pass a test stand in it in their order, where none
  of them took the place of an earlier model (`ends_ofEntities_filter`).
-/

namespace TableDump
open TableDump.Schema TableDump.Text
set_option autoImplicit false

/-! ## Replaced models -/

/-- The later model is mapped on the same table. -/
def Entity.replacedBy (e later : Entity) : Bool :=
  match e.table, later.table with
  | .str table, .str taken => !taken.isEmpty && sameName table taken
  | _, _ => false

theorem Entity.not_replacedBy {later : Entity} (h : later.table.truth = false) (e : Entity) : e.replacedBy later = false := by
  rw [replacedBy]
  split
  · next taken _ htaken =>
    rw [htaken, Json.truth] at h
    rw [h]
    rfl
  · rfl

/-- The models with a table that no later model takes. -/
def surviving : List Entity → List Entity
  | [] => []
  | e :: rest => if e.table.truth && !rest.any e.replacedBy then e :: surviving rest else surviving rest

/-- What of some entities no model replaces. -/
def keptBy (models entities : List Entity) : List Entity := entities.filter fun old => !models.any old.replacedBy

/-- The entity itself, unless it has no table. -/
def Entity.mapped (e : Entity) : List Entity := if e.table.truth then [e] else []

theorem Entity.eq_of_mem_mapped {e other : Entity} (h : other ∈ e.mapped) : other = e := by
  rw [mapped] at h
  split at h
  · exact List.mem_singleton.1 h
  · cases h

theorem keptBy_cons (e : Entity) (rest entities : List Entity) :
    keptBy (e :: rest) entities = keptBy rest (entities.filter fun old => !old.replacedBy e) := by
  rw [keptBy, keptBy, List.filter_filter]
  refine List.filter_congr fun old _ => ?_
  rw [List.any_cons, Bool.not_or, Bool.and_comm]

theorem surviving_cons (e : Entity) (rest : List Entity) : surviving (e :: rest) = keptBy rest e.mapped ++ surviving rest := by
  rw [surviving, Entity.mapped, keptBy]
  cases e.table.truth <;> cases hrest : rest.any e.replacedBy <;> simp [hrest]

/-! ## Joining an index -/

/-- An entity joins others in the place of the one that it replaces, or behind all of them. -/
def Entity.Joins (e : Entity) (entities entities' : List Entity) : Prop :=
  ∃ before after, (entities.filter fun old => !old.replacedBy e) = before ++ after ∧ entities' = before ++ e.mapped ++ after ∧
    ((∀ old ∈ entities, old.replacedBy e = false) → after = [])

namespace Entity.Joins
variable {e : Entity} {entities entities' : List Entity} (h : e.Joins entities entities')
include h

theorem perm : entities'.Perm ((entities.filter fun old => !old.replacedBy e) ++ e.mapped) := by
  obtain ⟨before, after, hkept, rfl, -⟩ := h
  rw [hkept, List.append_assoc, List.append_assoc]
  exact List.Perm.append_left before List.perm_append_comm

/-- The order stays for what passes a test, unless the entity passes it and replaces another one. -/
theorem filter_eq {p : Entity → Bool} (hp : p e = true → ∀ old ∈ entities, old.replacedBy e = false) :
    entities'.filter p = (entities.filter fun old => !old.replacedBy e).filter p ++ e.mapped.filter p := by
  obtain ⟨before, after, hkept, rfl, hnew⟩ := h
  rw [hkept]
  cases hpass : p e with
  | true =>
    rw [hnew (hp hpass), List.append_nil, List.append_nil, List.filter_append]
  | false =>
    have hnone : e.mapped.filter p = [] := by
      rw [mapped]
      split
      · simp [hpass]
      · rfl
    rw [List.filter_append, List.filter_append, List.filter_append, hnone, List.append_nil, List.append_nil]

end Entity.Joins

namespace EntityIndex

structure Keyed (entries : List IndexEntry) : Prop where
  tables : ∀ entry ∈ entries, entry.entity.table = .str entry.table
  distinct : entries.Pairwise fun a b => sameName a.table b.table = false

theorem keyed_nil : Keyed [] := ⟨List.forall_mem_nil _, List.Pairwise.nil⟩

theorem putEntry_split (entry : IndexEntry) {entries : List IndexEntry}
    (h : entries.Pairwise fun a b => sameName a.table b.table = false) :
    ∃ before after, (entries.filter fun old => !sameName old.table entry.table) = before ++ after ∧
      putEntry entry entries = before ++ entry :: after ∧
      ((∀ old ∈ entries, sameName old.table entry.table = false) → after = []) := by
  induction entries with
  | nil => exact ⟨[], [], rfl, rfl, fun _ => rfl⟩
  | cons old rest ih =>
    obtain ⟨hold, hrest⟩ := List.pairwise_cons.1 h
    cases hsame : sameName old.table entry.table with
    | true =>
      have hkept : rest.filter (fun other => !sameName other.table entry.table) = rest := by
        refine List.filter_eq_self.2 fun other hother => ?_
        rw [← sameName_congr (sameName_refl other.table) hsame, sameName_comm, hold other hother]
        rfl
      refine ⟨[], rest, by simp [hsame, hkept], by simp [putEntry, hsame], fun hnone => ?_⟩
      cases hsame.symm.trans (hnone old List.mem_cons_self)
    | false =>
      obtain ⟨before, after, hkept, hput, hnew⟩ := ih hrest
      refine ⟨old :: before, after, by simp [hsame, hkept], by simp [putEntry, hsame, hput], fun hnone => ?_⟩
      exact hnew (List.forall_mem_cons.1 hnone).2

theorem Keyed.putEntry {entries : List IndexEntry} (h : Keyed entries) {entry : IndexEntry}
    (hentry : entry.entity.table = .str entry.table) : Keyed (putEntry entry entries) := by
  obtain ⟨before, after, hkept, hput, -⟩ := putEntry_split entry h.distinct
  constructor
  · intro other hother
    rcases mem_putEntry hother with rfl | hother
    · exact hentry
    · exact h.tables other hother
  · have hdistinct : (entry :: (before ++ after)).Pairwise fun a b => sameName a.table b.table = false := by
      rw [← hkept]
      refine List.pairwise_cons.2 ⟨fun other hother => ?_, h.distinct.filter _⟩
      rw [sameName_comm]
      simpa using (List.mem_filter.1 hother).2
    rw [hput]
    exact hdistinct.perm List.perm_middle.symm fun {a b} hab => (sameName_comm b.table a.table).trans hab

theorem ends_insert_joins (e : Entity) {index : EntityIndex} (h : Keyed index.entries) : Run.Ends (fun _ => True)
    (fun index' => Keyed index'.entries ∧ e.Joins index.entities index'.entities) (index.insert e) := by
  unfold insert
  split
  · next htruth =>
    cases htable : e.table with
    | str table =>
      have htaken : table.isEmpty = false := by simpa [htable, Json.truth] using htruth
      have hreplaced : ∀ entry ∈ index.entries, entry.entity.replacedBy e = sameName entry.table table := by
        intro entry hentry
        simp [Entity.replacedBy, h.tables entry hentry, htable, htaken]
      have hjoins : e.Joins index.entities (⟨EntityIndex.putEntry ⟨table, e⟩ index.entries⟩ : EntityIndex).entities := by
        obtain ⟨before, after, hkept, hput, hnew⟩ := putEntry_split ⟨table, e⟩ h.distinct
        refine ⟨before.map IndexEntry.entity, after.map IndexEntry.entity, ?_, ?_, fun hnone => ?_⟩
        · rw [entities, List.filter_map, ← List.map_append, ← hkept]
          exact congrArg (List.map IndexEntry.entity) (List.filter_congr fun old hold => congrArg (!·) (hreplaced old hold))
        · rw [entities, hput, Entity.mapped, htruth]
          simp
        · have hothers : ∀ old ∈ index.entries, sameName old.table table = false := fun old hold =>
            (hreplaced old hold).symm.trans (hnone old.entity (List.mem_map_of_mem hold))
          rw [hnew hothers, List.map_nil]
      rw [Json.textFor, Run.lift_ok_bind]
      simp only
      split
      · exact (Run.ends_record _).bind fun _ _ => Run.ends_pure ⟨h.putEntry htable, hjoins⟩
      · exact Run.ends_pure ⟨h.putEntry htable, hjoins⟩
    | _ => exact Run.ends_throw trivial
  · next htruth =>
    have hnone : (index.entities.filter fun old => !old.replacedBy e) = index.entities := by
      refine List.filter_eq_self.2 fun old _ => ?_
      rw [Entity.not_replacedBy (Bool.eq_false_iff.2 htruth) old]
      rfl
    refine Run.ends_pure ⟨h, index.entities, [], by rw [hnone, List.append_nil], ?_, fun _ => rfl⟩
    rw [Entity.mapped, if_neg htruth, List.append_nil, List.append_nil]

/-! ## Whole indices -/

theorem ends_inserts_perm (models : List Entity) {index : EntityIndex} (h : Keyed index.entries) : Run.Ends (fun _ => True)
    (fun index' => index'.entities.Perm (keptBy models index.entities ++ surviving models)) (models.foldlM insert index) := by
  induction models generalizing index with
  | nil =>
    refine Run.ends_pure (List.Perm.of_eq ?_)
    simp [surviving, keptBy]
  | cons e rest ih =>
    rw [List.foldlM_cons]
    refine (ends_insert_joins e h).bind fun index₁ hinserted => ?_
    obtain ⟨hkeyed, hjoins⟩ := hinserted
    refine (ih hkeyed).mono (fun _ _ => trivial) fun index' hindex' => hindex'.trans ?_
    have hkept := hjoins.perm.filter fun old => !rest.any old.replacedBy
    rw [List.filter_append] at hkept
    rw [keptBy_cons, surviving_cons, ← List.append_assoc]
    exact hkept.append_right _

/-- An index holds the models whose table no later model takes. -/
theorem ends_ofEntities_perm (models : List Entity) :
    Run.Ends (fun _ => True) (fun index => index.entities.Perm (surviving models)) (ofEntities models) :=
  ends_inserts_perm models keyed_nil

/-- No model that passes a test, and whose table no later model takes, takes the place of an earlier one. -/
def keepPlaces (p : Entity → Bool) (earlier : List Entity) : List Entity → Bool
  | [] => true
  | e :: rest =>
    (!(p e && !rest.any e.replacedBy) || earlier.all fun old => !old.replacedBy e) && keepPlaces p (e :: earlier) rest

theorem ends_inserts_filter {p : Entity → Bool} {models earlier : List Entity} (hplaces : keepPlaces p earlier models = true)
    {index : EntityIndex} (h : Keyed index.entries) (hearlier : index.entities ⊆ earlier) : Run.Ends (fun _ => True)
    (fun index' => index'.entities.filter p = (keptBy models index.entities).filter p ++ (surviving models).filter p)
    (models.foldlM insert index) := by
  induction models generalizing index earlier with
  | nil =>
    refine Run.ends_pure ?_
    simp [surviving, keptBy]
  | cons e rest ih =>
    rw [keepPlaces, Bool.and_eq_true] at hplaces
    obtain ⟨hplace, hplaces⟩ := hplaces
    rw [List.foldlM_cons]
    refine (ends_insert_joins e h).bind fun index₁ hinserted => ?_
    obtain ⟨hkeyed, hjoins⟩ := hinserted
    have hearlier₁ : index₁.entities ⊆ e :: earlier := by
      intro other hother
      rcases List.mem_append.1 (hjoins.perm.mem_iff.1 hother) with hold | hnew
      · exact List.mem_cons_of_mem e (hearlier (List.mem_filter.1 hold).1)
      · rw [Entity.eq_of_mem_mapped hnew]
        exact List.mem_cons_self
    refine (ih hplaces hkeyed hearlier₁).mono (fun _ _ => trivial) fun index' hindex' => hindex'.trans ?_
    -- a model that a later one replaces does not last, and one that lasts replaces nothing
    have hfilter := hjoins.filter_eq (p := fun old => p old && !rest.any old.replacedBy) fun hpass old hold => by
      simp only [hpass, Bool.not_true, Bool.false_or, List.all_eq_true, Bool.not_eq_true'] at hplace
      exact hplace old (hearlier hold)
    simp only [← List.filter_filter] at hfilter
    rw [keptBy_cons, surviving_cons, List.filter_append, ← List.append_assoc]
    exact congrArg (· ++ (surviving rest).filter p) hfilter

theorem ends_ofEntities_filter {p : Entity → Bool} {models : List Entity} (h : keepPlaces p [] models = true) :
    Run.Ends (fun _ => True) (fun index => index.entities.filter p = (surviving models).filter p) (ofEntities models) :=
  ends_inserts_filter h keyed_nil (List.nil_subset _)

end EntityIndex
end TableDump
