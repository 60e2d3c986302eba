import TableDump.Json.Basic
import TableDump.Store.Query

/-! # Runs

What happens while tables are read and written, and computations that make it happen.

* `Event`: log records, connections opened and closed, and everything read from a data source.
* `Session`: the events so far, in order, and the document text written so far.
* `Run`: computations over a session that may end in a fault; the session outlives the fault.
-/

namespace TableDump
set_option autoImplicit false

/-! ## Events -/

inductive Level
  | info | warning | error
deriving DecidableEq, Repr

structure Record where
  level : Level
  text : String
deriving DecidableEq, Repr

inductive Event
  | logged (record : Record)
  | opened
  | closed
  | tablesListed
  | importsRead (table : String)
  | keyRead (table : String)
  | columnsRead (table : String)
  | queried (query : Query)
  | descendantsRead (root : Json)
deriving Repr

namespace Event

def record? : Event → Option Record
  | logged r => some r
  | _ => none

def query? : Event → Option Query
  | queried q => some q
  | _ => none

def imports? : Event → Option String
  | importsRead t => some t
  | _ => none

def root? : Event → Option Json
  | descendantsRead root => some root
  | _ => none

def isOpened : Event → Bool
  | opened => true
  | _ => false

def isClosed : Event → Bool
  | closed => true
  | _ => false

/-- The table whose metadata or rows the event reads. -/
def table? : Event → Option String
  | importsRead t | keyRead t | columnsRead t => some t
  | queried q => some q.table
  | _ => none

end Event

/-! ## Sessions -/

structure Session where
  events : List Event := []
  written : String := ""

namespace Session

def records (s : Session) : List Record := s.events.filterMap Event.record?

def queries (s : Session) : List Query := s.events.filterMap Event.query?

def importsRead (s : Session) : List String := s.events.filterMap Event.imports?

def roots (s : Session) : List Json := s.events.filterMap Event.root?

def openedCount (s : Session) : Nat := s.events.countP Event.isOpened

def closedCount (s : Session) : Nat := s.events.countP Event.isClosed

end Session

/-! ## Computations -/

abbrev Run := ExceptT Fault (StateM Session)

namespace Run

/-- The outcome of a computation begun in `s`, and the session it leaves. -/
def result {α : Type} (r : Run α) (s : Session) : Except Fault α × Session := StateT.run (ExceptT.run r) s

def record (e : Event) : Run Unit := modify fun s => { s with events := s.events ++ [e] }

def log (level : Level) (text : String) : Run Unit := record (.logged ⟨level, text⟩)

def write (text : String) : Run Unit := modify fun s => { s with written := s.written ++ text }

def lift {α : Type} : Except Fault α → Run α
  | .ok a => pure a
  | .error f => throw f

/-- The outcome of a computation as a value. -/
def attempt {α : Type} (r : Run α) : Run (Except Fault α) := fun s =>
  let (outcome, s) := r.result s
  (.ok outcome, s)

/-- Runs `handle` on a fault that satisfies `p`; other faults pass. -/
def recover {α : Type} (p : Fault → Bool) (handle : Fault → Run α) (r : Run α) : Run α := do
  match ← attempt r with
  | .ok a => return a
  | .error f => if p f then handle f else throw f

/-- Turns a fault that satisfies `p` into another one. -/
def wrap {α : Type} (p : Fault → Bool) (change : Fault → Fault) (r : Run α) : Run α :=
  recover p (fun f => throw (change f)) r

/-! ## What computations leave -/

section
variable {α β : Type} (s : Session)

@[simp] theorem result_pure (a : α) : (pure a : Run α).result s = (.ok a, s) := rfl

@[simp] theorem result_throw (f : Fault) : (throw f : Run α).result s = (.error f, s) := rfl

theorem result_bind (r : Run α) (k : α → Run β) :
    (r >>= k).result s = match r.result s with
      | (.ok a, t) => (k a).result t
      | (.error f, t) => (.error f, t) := by
  rcases h : r.result s with ⟨_ | _, t⟩
  all_goals
    simp only [result] at h
    simp only [result, ExceptT.run_bind, StateT.run_bind, h]
    rfl

@[simp] theorem result_record (e : Event) :
    (record e).result s = (.ok (), { s with events := s.events ++ [e] }) := rfl

@[simp] theorem result_log (level : Level) (text : String) :
    (log level text).result s = (.ok (), { s with events := s.events ++ [.logged ⟨level, text⟩] }) := rfl

@[simp] theorem result_write (text : String) :
    (write text).result s = (.ok (), { s with written := s.written ++ text }) := rfl

@[simp] theorem result_lift (r : Except Fault α) : (lift r).result s = (r, s) := by
  cases r <;> rfl

@[simp] theorem result_attempt (r : Run α) :
    (attempt r).result s = (.ok (r.result s).1, (r.result s).2) := rfl

theorem result_recover (p : Fault → Bool) (handle : Fault → Run α) (r : Run α) :
    (recover p handle r).result s = match r.result s with
      | (.ok a, t) => (.ok a, t)
      | (.error f, t) => if p f then (handle f).result t else (.error f, t) := by
  rw [recover, result_bind, result_attempt]
  rcases r.result s with ⟨f | a, t⟩
  · by_cases h : p f <;> simp [h]
  · simp

end

end Run
end TableDump
