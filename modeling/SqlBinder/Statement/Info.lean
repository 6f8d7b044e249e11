import SqlBinder.Statement.Kind
import SqlBinder.Statement.Lexeme

/-!
What is known of a statement from its text alone: kind, category, and the placeholders in order,
with a mark on those that follow `RETURNING … INTO`. The text is never checked; one that is not
valid SQL still has an `Info`.

The reader hands over words and placeholders one after another, and each is added to what is known
so far. The first word decides on the kind, and with it on whether later words and placeholders
count at all.
-/
namespace SqlBinder.Statement

open Text

/-- One placeholder as it occurs in the text, by its recorded name. The same name may occur more
than once, with the mark or without. -/
structure Occurrence where
  name : String
  /-- It stands behind `RETURNING … INTO` of a data change. -/
  isReturn : Bool
  deriving DecidableEq, Repr

/-- What the text of a statement says. -/
structure Info where
  kind : Kind
  category : Category
  /-- Distinct placeholder names in the order of their first occurrence. -/
  bindNames : List String
  /-- Every occurrence in text order; blocks keep only the first of each name. -/
  occurrences : List Occurrence
  /-- The statement has a `RETURNING … INTO` clause. -/
  isReturning : Bool
  deriving DecidableEq, Repr

namespace Info

/-- Place of a recorded name among the distinct names. -/
def positionOf (info : Info) (name : String) : Option Nat :=
  info.bindNames.findIdx? (· == name)

/-- The name occurs, and only behind `RETURNING … INTO`. -/
def isReturnBind (info : Info) (name : String) : Bool :=
  let found := info.occurrences.filter (·.name == name)
  !found.isEmpty && found.all (·.isReturn)

/-- It returns rows. -/
def isQuery (info : Info) : Bool := info.category == .query

/-- It changes rows. -/
def isDml (info : Info) : Bool := info.category == .dml

/-- It defines objects. -/
def isDdl (info : Info) : Bool := info.category == .ddl

/-- It is a block or a call. -/
def isPlsql (info : Info) : Bool := info.category == .plsql

end Info

/-- What is known after part of a text: what it has said so far, and what later words and
placeholders depend on. -/
structure Reading where
  info : Info
  /-- The first word has been seen. -/
  hasKeyword : Bool
  /-- `RETURNING` or `RETURN` has been seen. -/
  hasReturning : Bool
  deriving DecidableEq, Repr

namespace Reading

/-- Nothing read yet. -/
def empty : Reading :=
  ⟨⟨.unknown, .other, [], [], false⟩, false, false⟩

/-- The first word decides kind and category. -/
def setKeyword (r : Reading) (letters : List Char) : Reading :=
  let (kind, category) := classify (String.ofList (upper letters))
  { r with info := { r.info with kind := kind, category := category }, hasKeyword := true }

/-- The word spelled in any mix of ASCII cases. -/
def spells (letters : List Char) (word : String) : Bool :=
  letters.map Char.toUpper == word.toList

/-- A word behind the first one. -/
def addWord (r : Reading) (letters : List Char) : Reading :=
  if r.info.isDml && !r.hasReturning then
    if spells letters "RETURNING" || spells letters "RETURN" then
      { r with hasReturning := true }
    else r
  else if r.hasReturning && spells letters "INTO" then
    { r with info := { r.info with isReturning := true } }
  else r

/-- A placeholder. A block records each name once. -/
def addPlaceholder (r : Reading) (name : String) : Reading :=
  let known := r.info.bindNames.contains name
  if r.info.isPlsql && known then r
  else
    { r with info := { r.info with
        bindNames := if known then r.info.bindNames else r.info.bindNames ++ [name]
        occurrences := r.info.occurrences ++ [⟨name, r.info.isReturning⟩] } }

/-- One more lexeme. Behind the first word of a definition nothing counts. -/
def add (r : Reading) (lexeme : Lexeme) : Reading :=
  if r.info.isDdl then r
  else
    match lexeme with
    | .word letters => if r.hasKeyword then r.addWord letters else r.setKeyword letters
    | .lastWord letters => if r.hasKeyword then r else r.setKeyword letters
    | .placeholder name => r.addPlaceholder name

end Reading

/-- What a sequence of lexemes says. -/
def Info.ofLexemes (lexemes : List Lexeme) : Info :=
  (lexemes.foldl Reading.add Reading.empty).info

/-- What a text says. -/
def scan (sql : String) : Info := Info.ofLexemes (lexemes sql.toList)

end SqlBinder.Statement
