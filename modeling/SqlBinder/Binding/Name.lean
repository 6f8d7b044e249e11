import SqlBinder.Text.Blank
import SqlBinder.Text.Numeral
import SqlBinder.Text.Capital

/-!
How a caller names a placeholder: with or without the colon, unquoted names in any case, quoted
names exactly.

The scan of a statement records names in one form and a caller may spell them in several. Both are
brought to the recorded form here, so that they can be compared as they are.
-/
namespace SqlBinder.Binding

open Text

/-- The text without one leading `c`, if it has one. -/
def dropOne (c : Char) : List Char → List Char
  | d :: rest => if d = c then rest else d :: rest
  | [] => []

/-- The text between double quotes, if it begins and ends with one. -/
def unquote? : List Char → Option (List Char)
  | '"' :: rest => if rest.getLast? = some '"' then some rest.dropLast else none
  | _ => none

/-- The recorded form of a name as a caller spells it, on characters. -/
def normalizeChars (cs : List Char) : List Char :=
  let name := trimStart (dropOne ':' (trim cs))
  match unquote? name with
  | some inner => inner
  | none => if name.all isNumeral then name else upper name

/-- The recorded form of a name as a caller spells it. -/
def normalizeName (name : String) : String := String.ofList (normalizeChars name.toList)

/-- The name without any leading colons. -/
def withoutColons (name : String) : String :=
  String.ofList (name.toList.dropWhile (· == ':'))

end SqlBinder.Binding
