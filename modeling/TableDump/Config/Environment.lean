import TableDump.Fault
import TableDump.Number.Numeral
import TableDump.Text.LetterCase

/-! # Environments

* `Environment`: the variables that are set. Those of this program begin with `environmentPrefix`.
* `Environment.whole`: a variable as a whole number, refused when it is none.
* `Environment.flag`: a variable is true when it is `true` in any letter case.
-/

namespace TableDump
set_option autoImplicit false

def environmentPrefix : String := "CONTENT_EXPORTER_"

abbrev Environment := List (String × String)

namespace Environment

def get? (e : Environment) (name : String) : Option String := e.lookup (environmentPrefix ++ name)

def get (e : Environment) (name default : String) : String := (e.get? name).getD default

/-- The variable when it is set and not empty. -/
def nonEmpty? (e : Environment) (name : String) : Option String :=
  (e.get? name).bind fun s => if s.isEmpty then none else some s

def whole (e : Environment) (name : String) (default : Int) : Except Fault Int :=
  match e.get? name with
  | none => .ok default
  | some s => match Number.whole? s with
    | some n => .ok n
    | none => .error (.invalidWhole s)

def flag (e : Environment) (name : String) (default : Bool) : Bool :=
  match e.get? name with
  | none => default
  | some s => Text.lower s == "true"

/-- Sets a variable, or removes it. -/
def set (e : Environment) (name : String) (value : Option String) : Environment :=
  let others := e.filter fun entry => entry.1 != environmentPrefix ++ name
  match value with
  | some v => (environmentPrefix ++ name, v) :: others
  | none => others

theorem get?_set (e : Environment) (name : String) (value : Option String) :
    (e.set name value).get? name = value := by
  cases value with
  | some v => simp [set, get?]
  | none =>
    simp only [set, get?, List.lookup_eq_none_iff, List.mem_filter]
    intro entry h
    exact bne_iff_ne.2 (Ne.symm (bne_iff_ne.1 h.2))

end Environment
end TableDump
