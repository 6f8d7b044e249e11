import SqlBinder.Text.Inspected
import SqlBinder.Value

/-!
Values and locators as text for developers. This is the text that stands in messages about a value
that was not expected, so it tells apart what callers see as the same text.
-/
namespace SqlBinder

open Text

/-- The kind of an object as text for developers. -/
def LobKind.inspected : LobKind → String
  | .clob => "Clob"
  | .blob => "Blob"

/-- A locator as text for developers. -/
def LobLocator.inspected (l : LobLocator) : String :=
  record "LobLocator"
    [("locator", quotedBytes l.bytes), ("kind", l.kind.inspected), ("size", toString l.size),
      ("chunk_size", toString l.chunkSize), ("is_temp", inspectedBool l.isTemporary)]

/-- The description of a column as text for developers. -/
def ColumnMetadata.inspected (m : ColumnMetadata) : String :=
  record "ColumnMetadata"
    [("name", quoted m.name), ("oracle_type", toString m.typeNumber.toNat),
      ("csfrm", toString m.form.toNat), ("precision", toString m.precision.toInt),
      ("scale", toString m.scale.toInt), ("max_size", toString m.maxSize.toNat),
      ("nullable", inspectedBool m.nullable)]

/-- A cursor with its columns as text for developers. -/
def CursorLocator.inspected (c : CursorLocator) : String :=
  record "CursorLocator"
    [("cursor_id", toString c.id),
      ("columns", inspectedList (c.columns.map ColumnMetadata.inspected))]

mutual

/-- A value as text for developers: its constructor with what it holds. -/
def Value.inspected : Value → String
  | .null => "Null"
  | .integer n => applied "Integer" (toString n.toInt)
  | .float x => applied "Float" x.inspected
  | .number s => applied "Number" (quoted s)
  | .string s => applied "String" (quoted s)
  | .bytes b => applied "Bytes" (inspectedList (b.map fun x => toString x.toNat))
  | .boolean b => applied "Boolean" (inspectedBool b)
  | .date dt => applied "Date" dt.inspected
  | .dateParts p => applied "DateParts" p.describe
  | .lob l => applied "Lob" l.inspected
  | .cursor c => applied "Cursor" c.inspected
  | .array items => applied "Array" (inspectedList (inspectedItems items))
  | .object fields => applied "Object" (inspectedList (inspectedFields fields))

/-- The texts of the elements of an array. -/
def inspectedItems : List Value → List String
  | [] => []
  | v :: rest => v.inspected :: inspectedItems rest

/-- The texts of the fields of an object, as pairs of a name and a value. -/
def inspectedFields : List (String × Value) → List String
  | [] => []
  | (key, v) :: rest =>
    ("(" ++ quoted key ++ ", " ++ v.inspected ++ ")") :: inspectedFields rest

end

end SqlBinder
