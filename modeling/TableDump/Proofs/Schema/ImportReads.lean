import TableDump.Proofs.Schema.GraphHistory
import TableDump.Schema.Catalog
import TableDump.Store.Declared
import TableDump.Proofs.RunFrame

/-! # Reads of references

Which tables sorting asks about, in what order, and where it stops.

* `firstMentions`: the names that are no other spelling of an earlier one. `distinctNames` gives them.
* `Asks imports answer`: asking what a table refers to is told by one event, and gives the answer for that table whatever
  happened before. Catalogs are asked so (`Catalog.asks_imports`).
* Sorting asks about the first mentions of the given tables, in their order, each once, and about no other table. The first
  answer that is a fault ends it (`sortTables_reads_candidates`).
-/

namespace TableDump.Schema
open TableDump.Text
set_option autoImplicit false

/-! ## First mentions -/

def firstMentions (names : List String) : List String :=
  (names.zipIdx.filter fun mention => !(names.take mention.2).any fun u => sameName u mention.1).map Prod.fst

theorem firstMentions_concat (names : List String) (t : String) :
    firstMentions (names ++ [t]) = firstMentions names ++ if ∃ u ∈ names, sameName u t = true then [] else [t] := by
  have hearlier : (names.zipIdx.filter fun mention => !((names ++ [t]).take mention.2).any fun u => sameName u mention.1) =
      names.zipIdx.filter fun mention => !(names.take mention.2).any fun u => sameName u mention.1 := by
    refine List.filter_congr fun mention hmention => ?_
    have hplace : mention.2 ≤ names.length := by
      have hlt := List.snd_lt_of_mem_zipIdx hmention
      omega
    rw [List.take_append_of_le_length hplace]
  rw [firstMentions, List.zipIdx_append, List.filter_append, List.map_append, hearlier, ← firstMentions]
  refine congrArg (firstMentions names ++ ·) ?_
  by_cases h : ∃ u ∈ names, sameName u t = true
  · have hany : names.any (fun u => sameName u t) = true := List.any_eq_true.2 h
    simp [if_pos h, hany]
  · have hany : names.any (fun u => sameName u t) = false := Bool.eq_false_iff.2 fun hany => h (List.any_eq_true.1 hany)
    simp [if_neg h, hany]

theorem distinctNames_eq_firstMentions (names : List String) : distinctNames names = firstMentions names := by
  induction names using List.reverseRecOn with
  | nil => rfl
  | append_singleton names t ih => rw [distinctNames_concat, firstMentions_concat, ih]

/-! ## Questions -/

def Asks (imports : String → Run (List String)) (answer : String → Except Fault (List String)) : Prop :=
  ∀ t s, (imports t).result s = (answer t, s.extend [.importsRead t])

end TableDump.Schema

namespace TableDump
open TableDump.Schema TableDump.Text

/-- The tables that a catalog knows a table to refer to, or why it cannot tell. -/
def Catalog.referred (c : Catalog) (table : String) : Except Fault (List String) :=
  (c.guarded (some table) (c.store.references c.schema table)).map fun names => distinctNames (presentNames names)

theorem Catalog.asks_imports (c : Catalog) : Asks c.imports c.referred := by
  intro t s
  rw [imports, Run.result_bind, Run.result_record]
  exact Run.result_lift _ _

/-! ## Lists of questions -/

namespace Run
variable {α β : Type} {ask : α → Run β} {answer : α → Except Fault β} {told : α → Event}

theorem result_mapM_of_ok (h : ∀ x s, (ask x).result s = (answer x, s.extend [told x])) {xs : List α}
    (hall : ∀ x ∈ xs, ∃ y, answer x = .ok y) (s : Session) :
    ∃ ys, (xs.mapM ask).result s = (.ok ys, s.extend (xs.map told)) := by
  induction xs generalizing s with
  | nil => exact ⟨[], by rw [List.map_nil, Session.extend_nil]; rfl⟩
  | cons x rest ih =>
    obtain ⟨⟨y, hy⟩, hrest⟩ := List.forall_mem_cons.1 hall
    obtain ⟨ys, hys⟩ := ih hrest (s.extend [told x])
    refine ⟨y :: ys, ?_⟩
    rw [result_mapM_cons, h, hy]
    simp only
    rw [hys]
    simp

/-- The first fault ends the list, and nothing behind it is asked. -/
theorem result_mapM_of_error (h : ∀ x s, (ask x).result s = (answer x, s.extend [told x])) {before : List α}
    (hbefore : ∀ x ∈ before, ∃ y, answer x = .ok y) {x : α} {f : Fault} (hx : answer x = .error f) (after : List α)
    (s : Session) : ((before ++ x :: after).mapM ask).result s = (.error f, s.extend ((before ++ [x]).map told)) := by
  induction before generalizing s with
  | nil =>
    rw [List.nil_append, result_mapM_cons, h, hx]
    rfl
  | cons first rest ih =>
    obtain ⟨⟨y, hy⟩, hrest⟩ := List.forall_mem_cons.1 hbefore
    rw [List.cons_append, result_mapM_cons, h, hy]
    simp only
    rw [ih hrest]
    simp

end Run

/-! ## Sorting -/

namespace Schema

section
variable {imports : String → Run (List String)} {answer : String → Except Fault (List String)}

theorem Asks.readReferences (h : Asks imports answer) (t : String) (s : Session) : (readReferences imports t).result s =
    ((answer t).map fun referred => (t, referred.filter fun r => !sameName r t), s.extend [.importsRead t]) := by
  rw [Schema.readReferences, Run.result_bind, h]
  cases answer t <;> rfl

/-- Some first mention that cannot be read ends the sorting with the fault of the first such one, and what was read are the
first mentions up to it. Otherwise all of them were read. -/
theorem sortTables_reads_candidates (h : Asks imports answer) (tables : List String) (s : Session) :
    ((∃ t ∈ firstMentions tables, ∃ f, answer t = .error f) → ∃ before t after f, firstMentions tables = before ++ t :: after ∧
      (∀ u ∈ before, ∃ referred, answer u = .ok referred) ∧ answer t = .error f ∧
      (sortTables imports tables).result s = (.error f, s.extend ((before ++ [t]).map .importsRead))) ∧
    ((∀ t ∈ firstMentions tables, ∃ referred, answer t = .ok referred) → ∃ order,
      (sortTables imports tables).result s = (.ok order, s.extend ((firstMentions tables).map .importsRead))) := by
  have hreadable : ∀ u, (∃ referred, answer u = .ok referred) →
      ∃ y, ((answer u).map fun referred => (u, referred.filter fun r => !sameName r u)) = .ok y := by
    rintro u ⟨referred, hreferred⟩
    exact ⟨_, by rw [hreferred]; rfl⟩
  rw [sortTables, distinctNames_eq_firstMentions]
  constructor
  · rintro ⟨x, hx, g, hg⟩
    obtain ⟨earlier, later, hsplit⟩ := List.append_of_mem hx
    have hany : ∀ y ∈ earlier, ∀ f, answer y = .error f → True := fun _ _ _ _ => trivial
    obtain ⟨before, t, after, f, hfirst, hbefore, ht, -⟩ := exists_first_fault hany hg trivial
    rw [← hsplit] at hfirst
    refine ⟨before, t, after, f, hfirst, hbefore, ht, ?_⟩
    have hfault : ((answer t).map fun referred => (t, referred.filter fun r => !sameName r t)) = .error f := by
      rw [ht]
      rfl
    have hread := Run.result_mapM_of_error h.readReferences (fun u hu => hreadable u (hbefore u hu)) hfault after s
    rw [Run.result_bind, hfirst, hread]
  · intro hall
    obtain ⟨references, hread⟩ := Run.result_mapM_of_ok h.readReferences (fun t ht => hreadable t (hall t ht)) s
    exact ⟨_, by rw [Run.result_bind, hread]; rfl⟩

end

/-- Orders and their items refer to each other and to tables that are not sorted; the keys of customers cannot be read. -/
def lockedCatalog : Catalog where
  store := DeclaredStore.toStore { tables := [
    { name := "Orders", columns := [], references := [some "items", some "Regions", some "ORDERS"] },
    { name := "Items", columns := [], references := [some "orders", some "Prices"] },
    { name := "customers", columns := [], referencesFault := some (.reported .database "locked") },
    { name := "Notes", columns := [], referencesFault := some (.reported .database "busy") }] }
  schema := none

/-- Sorted with customers, orders are read and then customers; sorted without them, orders and items. -/
theorem sortTables_reads_candidates_locked :
    Asks lockedCatalog.imports lockedCatalog.referred ∧
    (lockedCatalog.referred "customers" =
        .error (.unreadableCatalog (some "customers") (.reported .database "locked")) ∧
      (sortTables lockedCatalog.imports ["Orders", "ORDERS", "customers", "Items", "Customers", "Notes"]).result {} =
        (.error (.unreadableCatalog (some "customers") (.reported .database "locked")),
          { events := [.importsRead "Orders", .importsRead "customers"] })) ∧
    ∃ order, (sortTables lockedCatalog.imports ["Orders", "ORDERS", "Items", "orders"]).result {} =
      (.ok order, { events := [.importsRead "Orders", .importsRead "Items"] }) := by
  have hasks := lockedCatalog.asks_imports
  have horders : lockedCatalog.referred "Orders" = .ok ["items", "Regions", "ORDERS"] := rfl
  have hcustomers : lockedCatalog.referred "customers" =
      .error (.unreadableCatalog (some "customers") (.reported .database "locked")) := rfl
  have hmentions : firstMentions ["Orders", "ORDERS", "customers", "Items", "Customers", "Notes"] =
      ["Orders", "customers", "Items", "Notes"] := by decide
  refine ⟨hasks, ⟨hcustomers, ?_⟩, ?_⟩
  · obtain ⟨before, t, after, f, hsplit, hbefore, ht, hsorted⟩ :=
      (sortTables_reads_candidates hasks ["Orders", "ORDERS", "customers", "Items", "Customers", "Notes"] {}).1
        ⟨"customers", by decide, _, hcustomers⟩
    rw [hmentions] at hsplit
    rcases before with _ | ⟨first, _ | ⟨second, rest⟩⟩
    · -- orders can be read, so they are not where the sorting stops
      cases hsplit
      cases horders.symm.trans ht
    · cases hsplit
      cases hcustomers.symm.trans ht
      exact hsorted
    · simp only [List.cons_append, List.cons.injEq] at hsplit
      obtain ⟨referred, hreferred⟩ := hbefore "customers" (by simp [hsplit.2.1])
      cases hcustomers.symm.trans hreferred
  · refine (sortTables_reads_candidates hasks ["Orders", "ORDERS", "Items", "orders"] {}).2 fun t ht => ?_
    have hread : t = "Orders" ∨ t = "Items" := by
      have hmentions' : firstMentions ["Orders", "ORDERS", "Items", "orders"] = ["Orders", "Items"] := by decide
      simpa [hmentions'] using ht
    rcases hread with rfl | rfl
    · exact ⟨_, horders⟩
    · exact ⟨["orders", "Prices"], rfl⟩

end Schema
end TableDump
