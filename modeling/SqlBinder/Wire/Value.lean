import SqlBinder.Inspect

/-!
Values in the form that is exchanged with a session. Encoding makes them from the values of callers
and decoding reads them again; between the two, they are only handed on and compared with the sizes
of buffers.
-/
namespace SqlBinder

open Text

/-- A value as it is sent or received, by its form on the wire. Numbers and dates are bytes here,
and nothing promises that they stand for one. -/
inductive WireValue where
  | null
  | number (bytes : List UInt8)
  | double (x : Double)
  | single (x : Single)
  | text (text : String)
  | raw (bytes : List UInt8)
  | date (bytes : List UInt8)
  | boolean (b : Bool)
  | lob (locator : LobLocator)
  | cursor (locator : CursorLocator)
  | array (items : List WireValue)

namespace WireValue

/-- It is null. -/
def isNull : WireValue → Bool
  | null => true
  | _ => false

/-- Length against an output buffer: characters of text or raw bytes. -/
def bufferLength : WireValue → Nat
  | text s => s.length
  | raw b => b.length
  | _ => 0

mutual

/-- The value as text for developers. -/
def inspected : WireValue → String
  | null => "Null"
  | number b => applied "Number" (quotedBytes b)
  | double x => applied "BinaryDouble" x.inspected
  | single x => applied "BinaryFloat" x.inspected
  | text s => applied "Text" (quoted s)
  | raw b => applied "Raw" (quotedBytes b)
  | date b => applied "Date" (quotedBytes b)
  | boolean b => applied "Boolean" (inspectedBool b)
  | lob l => applied "Lob" l.inspected
  | cursor c => applied "Cursor" c.inspected
  | array items => applied "Array" (inspectedList (inspectedWires items))

/-- Values as texts for developers, one for each. -/
def inspectedWires : List WireValue → List String
  | [] => []
  | w :: rest => w.inspected :: inspectedWires rest

end

end WireValue

end SqlBinder
