import SqlBinder.Value

/-!
Rows of a query. All rows of one query share its columns, by which the values can be looked up.
-/
namespace SqlBinder

/-- One row, with the columns of its query. Decoding makes sure that it has a value for each of
them. -/
structure Row where
  values : List Value
  columns : Columns

namespace Row

/-- The value of the column at a place, counted from 0. -/
def get? (r : Row) (i : Nat) : Option Value := r.values[i]?

/-- The value of the column with the name. A name that is the same in all its letters goes before
one that differs from it in their case. -/
def getByName? (r : Row) (name : String) : Option Value :=
  (r.columns.find? name).bind r.get?

/-- The value of the named column; a missing column is an error. -/
def getByName (r : Row) (name : String) : Except Error Value :=
  match r.getByName? name with
  | some v => pure v
  | none => throw (.columnNotFound name)

/-- How many values there are. -/
def size (r : Row) : Nat := r.values.length

/-- There are no values. -/
def isEmpty (r : Row) : Bool := r.values.isEmpty

end Row

end SqlBinder
