import SqlBinder.Text.Quoted

/-!
Structured values as text for developers: constructors with their arguments, records with their
fields, lists in brackets. All of it stands on one line.
-/
namespace SqlBinder.Text

/-- Texts with commas between them. -/
def commas (texts : List String) : String := ", ".intercalate texts

/-- A list in brackets. -/
def inspectedList (texts : List String) : String := "[" ++ commas texts ++ "]"

/-- A constructor with one argument. -/
def applied (name argument : String) : String := name ++ "(" ++ argument ++ ")"

/-- A record with its fields. -/
def record (name : String) (fields : List (String × String)) : String :=
  name ++ " \x7b " ++ commas (fields.map fun f => f.1 ++ ": " ++ f.2) ++ " \x7d"

/-- A value that may be missing. -/
def inspectedOption : Option String → String
  | some text => applied "Some" text
  | none => "None"

/-- A truth value. -/
def inspectedBool (b : Bool) : String := if b then "true" else "false"

end SqlBinder.Text
