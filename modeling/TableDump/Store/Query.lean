import TableDump.Store.Column

/-! # Queries

`Query` reads columns of one table, in the order of some of them, up to a number of rows.

* `Query.build` names each column once; a key column that the table does not have is refused.
-/

namespace TableDump
set_option autoImplicit false

structure Query where
  table : String
  schema : Option String := none
  columns : List String
  orderBy : List String := []
  limit : Option Int := none
deriving DecidableEq, Repr

namespace Query

/-- Refuses the first key column that is not among the columns. -/
def checkKey (columns : List String) : List String → Except Fault (List String)
  | [] => .ok []
  | name :: rest =>
    if name ∈ columns then (checkKey columns rest).map (name :: ·) else .error (.missingKey name)

def build (schema : Option String) (table : String) (columns key : List String) (limit : Option Int) :
    Except Fault Query :=
  (checkKey columns key).map fun orderBy =>
    { table, schema, columns := columns.eraseDups, orderBy, limit }

theorem checkKey_eq_ok_iff {columns key result : List String} :
    checkKey columns key = .ok result ↔ result = key ∧ ∀ name ∈ key, name ∈ columns := by
  induction key generalizing result with
  | nil => simp [checkKey, eq_comm]
  | cons name rest ih =>
    by_cases h : name ∈ columns
    · have hrest := @ih rest
      cases hr : checkKey columns rest with
      | error f => simp_all [checkKey, Except.map]
      | ok r => grind [checkKey, Except.map]
    · simp [checkKey, h]

end Query
end TableDump
