import TableDump.Run
import TableDump.Value.Basic

/-! # Data sources

* `Store`: what can be asked of a data source. Every answer may be a fault; the schema of a question
  is none for the default one.
* `Store.withConnection` runs a computation on a connection of its own and closes it in the end. Faults
  of the database layer become connection faults when opening, and are passed over when closing.
-/

namespace TableDump
set_option autoImplicit false

structure Store where
  /-- whether the faults of the driver are known to be its own -/
  driverFaults : Bool := true
  /-- opening a connection, given how many were opened so far with this one -/
  connect : Nat → Except Fault Unit := fun _ => .ok ()
  close : Except Fault Unit := .ok ()
  /-- asking for metadata at all -/
  inspect : Except Fault Unit := .ok ()
  tables : Option String → Except Fault (List String)
  references : Option String → String → Except Fault (List (Option String))
  key : Option String → String → Except Fault (List (Option String))
  columns : Option String → String → Except Fault (List Column)
  rows : Query → Except Fault (List (List Value))

namespace Store

def isDatabaseFault (f : Fault) : Bool := f.kind.isDatabase

def openConnection (store : Store) : Run Unit := do
  Run.record .opened
  Run.wrap isDatabaseFault .noConnection (do Run.lift (store.connect (← get).openedCount))

def closeConnection (store : Store) : Run Unit := do
  Run.record .closed
  Run.recover isDatabaseFault (fun _ => pure ()) (Run.lift store.close)

theorem result_closeConnection (store : Store) (s : Session) :
    store.closeConnection.result s =
      (match store.close with
        | .ok _ => .ok ()
        | .error f => if isDatabaseFault f then .ok () else .error f,
        { s with events := s.events ++ [.closed] }) := by
  rw [closeConnection, Run.result_bind, Run.result_record]
  simp only [Run.result_recover, Run.result_lift]
  cases h : store.close with
  | ok a => rfl
  | error f => by_cases hf : isDatabaseFault f <;> simp [hf]

def withConnection {α : Type} (store : Store) (body : Run α) : Run α := do
  store.openConnection
  let outcome ← Run.attempt body
  store.closeConnection
  Run.lift outcome

end Store
end TableDump
