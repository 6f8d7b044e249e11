import SqlBinder.DbType

/-!
Columns as the server describes them, and with their types resolved.

A description is a record of bytes and small numbers, each as wide as on the wire, and names its
type by a number. Not every number stands for a type; then the columns cannot be described to a
caller, and the first such column is the one that is reported.
-/
namespace SqlBinder

/-- One column exactly as the server describes it, with the numbers it gives for type and form. Not
every number is a type. -/
structure ColumnMetadata where
  name : String
  typeNumber : UInt8
  /-- Character set form. -/
  form : UInt8
  precision : Int8
  scale : Int8
  maxSize : UInt32
  nullable : Bool
  deriving DecidableEq, Repr

/-- A cursor on the server. Zero is no cursor. -/
structure CursorLocator where
  id : Nat
  columns : List ColumnMetadata
  deriving DecidableEq, Repr

/-- A column with its type resolved, as a caller sees it. A description whose type is none that can
be fetched has no column. -/
structure Column where
  name : String
  dbType : DbType
  nullable : Bool
  precision : Int8
  scale : Int8
  /-- Limit in bytes for character and raw columns, else 0. -/
  maxSize : UInt32
  deriving DecidableEq, Repr

/-- The column that a description stands for. -/
def Column.ofMetadata (m : ColumnMetadata) : Except Error Column := do
  let dbType ← DbType.ofNumber m.typeNumber m.form
  return ⟨m.name, dbType, m.nullable, m.precision, m.scale,
    if dbType.isVariableLength then m.maxSize else 0⟩

/-- The columns of a query, shared by all of its rows. Two of them may have one name; then the first
is found by it. -/
structure Columns where
  all : List Column
  deriving DecidableEq, Repr

namespace Columns

/-- The described columns, or the error of the first that cannot be fetched. -/
def ofMetadata (ms : List ColumnMetadata) : Except Error Columns :=
  (ms.mapM Column.ofMetadata).map Columns.mk

/-- How many values a row has. -/
def size (cs : Columns) : Nat := cs.all.length

/-- There are no columns. -/
def isEmpty (cs : Columns) : Bool := cs.all.isEmpty

/-- The column at a place, counted from 0. -/
def get? (cs : Columns) (i : Nat) : Option Column := cs.all[i]?

/-- The names of the columns as the server spells them, in their order. Two may be the same. -/
def names (cs : Columns) : List String := cs.all.map (·.name)

/-- The same letters in any mix of ASCII cases. -/
def sameName (a b : String) : Bool := a.toList.map Char.toLower == b.toList.map Char.toLower

/-- Place of the column with this name. An exact match wins over one that differs
in case. -/
def find? (cs : Columns) (name : String) : Option Nat :=
  (cs.all.findIdx? (·.name == name)).or (cs.all.findIdx? (sameName ·.name name))

end Columns

end SqlBinder
