import TableDump.Proofs.Export.ExtractionFrame
import TableDump.Proofs.RunBounds
import TableDump.Schema.Catalog

/-! # Stores whose faults are their own

* `Store.CatalogFaults`, `Store.DatabaseFaults`: whatever goes wrong with the metadata, or at all, is a fault of the
  database layer. A query may also meet a value that cannot be read, and its records are as wide as it is.
* What a catalog then fails with is a fault of metadata, with the table that was asked for (`kind_guarded`).
* A connection then fails with a connection fault, or as its body does (`ends_withConnection`). Which of the two it is the
  number of the connection tells (`endsAt_withConnection`).
-/

namespace TableDump
set_option autoImplicit false

namespace Store

structure CatalogFaults (store : Store) : Prop where
  inspect : ∀ f, store.inspect = .error f → f.kind.isDatabase = true
  tables : ∀ schema f, store.tables schema = .error f → f.kind.isDatabase = true
  references : ∀ schema table f, store.references schema table = .error f → f.kind.isDatabase = true
  key : ∀ schema table f, store.key schema table = .error f → f.kind.isDatabase = true
  columns : ∀ schema table f, store.columns schema table = .error f → f.kind.isDatabase = true

variable {store : Store} {α : Type} {f : Fault}

/-! ## Connections -/

theorem closing_eq_ok (h : ∀ f, store.close = .error f → f.kind.isDatabase = true) : store.closing = .ok () := by
  unfold closing
  split
  · rfl
  · next f hf => exact if_pos (h f hf)

theorem endsAt_withConnection {n : Nat} (hconnect : ∀ f, store.connect (n + 1) = .error f → f.kind.isDatabase = true)
    (hclose : ∀ f, store.close = .error f → f.kind.isDatabase = true) {Q : Fault → Prop} {G : α → Prop} {body : Run α}
    (hbody : store.connect (n + 1) = .ok () → Run.Ends Q G body)
    (hlost : ∀ f, store.connect (n + 1) = .error f → Q (.noConnection f)) : Run.EndsAt n Q G (store.withConnection body) := by
  rintro s rfl
  rw [result_withConnection, closing_eq_ok hclose, opening]
  cases hnext : store.connect (s.openedCount + 1) with
  | ok _ => exact hbody hnext _
  | error f =>
    simp only [isDatabaseFault, hconnect f hnext, if_true]
    exact hlost f hnext

end Store

/-! ## Catalogs -/

namespace Catalog
variable {c : Catalog} {α : Type} {f : Fault} {table : Option String} {answer : Except Fault α}

theorem eq_ok_of_guarded {a : α} (h : c.guarded table answer = .ok a) : answer = .ok a := by
  unfold guarded at h
  split at h
  · next hboth =>
    cases h
    obtain ⟨-, -, hanswer⟩ := outcome_bind_eq_ok_iff.1 hboth
    exact hanswer
  · cases h

theorem kind_guarded (hinspect : ∀ f, c.store.inspect = .error f → f.kind.isDatabase = true)
    (hanswer : ∀ f, answer = .error f → f.kind.isDatabase = true) (h : c.guarded table answer = .error f) :
    f.kind = .metadata ∧ f.table = table := by
  unfold guarded at h
  split at h
  · cases h
  · next g hboth =>
    have hg : g.kind.isDatabase = true := by
      obtain hg | ⟨-, -, hg⟩ := outcome_bind_eq_error_iff.1 hboth
      · exact hinspect g hg
      · exact hanswer g hg
    rw [hg, if_pos rfl] at h
    cases h
    exact ⟨rfl, rfl⟩

variable (h : c.store.CatalogFaults) (t : String)
include h

theorem ends_tables : Run.Ends (fun f => f.kind = .metadata) (fun _ => True) c.tables :=
  (Run.ends_record _).bind fun _ _ =>
    Run.ends_lift (fun _ hf => (kind_guarded h.inspect (h.tables c.schema) hf).1) fun _ _ => trivial

theorem ends_imports : Run.Ends (fun f => f.kind = .metadata) (fun _ => True) (c.imports t) := by
  refine (Run.ends_record _).bind fun _ _ => Run.ends_lift (fun f hf => ?_) fun _ _ => trivial
  exact (kind_guarded h.inspect (h.references c.schema t) (outcome_map_eq_error_iff.1 hf)).1

end Catalog
end TableDump
