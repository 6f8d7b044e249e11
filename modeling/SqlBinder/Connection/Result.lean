import SqlBinder.Binding.Name
import SqlBinder.ResultSet

/-!
What executions hand to the caller: rows, result sets, and output binds, among which are handles
that the caller then owns.

Output binds stand in the order of the placeholders and are looked up by name, in any spelling that
a caller may use for the placeholder. A name may fit two of them, the one as recorded and the one as
spelled; then the first in order is taken.
-/
namespace SqlBinder

/-- A decoded output bind: a plain value, or a handle on what is still at the server, which belongs
to the caller from then on. -/
inductive OutValue where
  | value (v : Value)
  | lob (lob : Lob)
  | resultSet (rs : ResultSet)

/-- The value, if it is a plain one and no handle. -/
def OutValue.value? : OutValue → Option Value
  | .value v => some v
  | _ => none

/-- An output bind with its slot. -/
structure OutBind where
  slot : Slot
  /-- Recorded name of the placeholder. -/
  placeholder : String
  value : OutValue

/-- What one execution came to. -/
structure ExecuteResult where
  rowsAffected : Nat
  /-- In placeholder order. -/
  outBinds : List OutBind
  /-- The columns of a query. -/
  columns : Option Columns
  /-- The rows of a query, unless a result set was asked for. -/
  rows : Option (List Row)
  /-- The result set of a query, if it was asked for. -/
  resultSet : Option ResultSet

/-- What a batch came to. Its executions are told apart by their place. -/
structure BatchResult where
  /-- One count for each execution. -/
  rowsAffected : List Nat
  /-- Output binds of each execution; empty if the statement has none. -/
  outBinds : List (List OutBind)

namespace ExecuteResult

/-- Place of the output bind that a name stands for, in recorded form or as spelled. -/
def placeOf? (r : ExecuteResult) (name : String) : Option Nat :=
  r.outBinds.findIdx? fun b => b.placeholder == Binding.normalizeName name || b.placeholder == name

/-- The output bind of a name. -/
def outBind? (r : ExecuteResult) (name : String) : Option OutValue :=
  ((r.placeOf? name).bind (r.outBinds[·]?)).map (·.value)

/-- The plain output value of a name. -/
def outValue? (r : ExecuteResult) (name : String) : Option Value :=
  (r.outBind? name).bind OutValue.value?

/-- Hand over the output bind of a name. -/
def takeOutBind (r : ExecuteResult) (name : String) : Option OutValue × ExecuteResult :=
  match r.placeOf? name with
  | some i =>
    ((r.outBinds[i]?).map (·.value), { r with outBinds := r.outBinds.eraseIdx i })
  | none => (none, r)

end ExecuteResult

/-! ## Text for developers -/

open Text

/-- The slot of a bind as text for developers. -/
def Slot.inspected : Slot → String
  | .position n => applied "Position" (toString n)
  | .name s => applied "Name" (quoted s)

/-- An output value as text for developers; a handle shows whether it is closed. -/
def OutValue.inspected (s : Signals) : OutValue → String
  | .value v => applied "Value" v.inspected
  | .lob l => applied "Lob" (l.inspected s)
  | .resultSet rs => applied "ResultSet" (rs.inspected s)

/-- An output bind as text for developers. -/
def OutBind.inspected (s : Signals) (b : OutBind) : String :=
  record "OutBind"
    [("slot", b.slot.inspected), ("placeholder", quoted b.placeholder),
      ("value", b.value.inspected s)]

/-- The result of an execution as text for developers. Of rows only their number is shown. -/
def ExecuteResult.inspected (s : Signals) (r : ExecuteResult) : String :=
  record "ExecuteResult"
    [("rows_affected", toString r.rowsAffected),
      ("out_binds", inspectedList (r.outBinds.map (OutBind.inspected s))),
      ("rows", inspectedOption (r.rows.map fun rows => toString rows.length)),
      ("result_set", inspectedOption (r.resultSet.map (·.inspected s)))]

/-- The result of a batch as text for developers. -/
def BatchResult.inspected (s : Signals) (r : BatchResult) : String :=
  record "ExecuteManyResult"
    [("rows_affected", inspectedList (r.rowsAffected.map toString)),
      ("out_binds", inspectedList (r.outBinds.map fun row =>
        inspectedList (row.map (OutBind.inspected s))))]

end SqlBinder
