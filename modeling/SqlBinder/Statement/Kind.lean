/-!
The kinds of statement and the categories that decide how binds and results are handled. Both follow
from the first word of the text, whatever stands behind it.
-/
namespace SqlBinder.Statement

/-- Kind of statement, by its first word. A word that names none is no error; the server decides. -/
inductive Kind where
  | select | insert | update | delete | merge
  | create | drop | alter
  | begin | declare | call
  | commit | rollback
  | unknown
  deriving DecidableEq, Repr

/-- How binds and results are handled. Several kinds share a category, and so do some words without
a kind of their own. -/
inductive Category where
  /-- Returns rows. -/
  | query
  /-- Changes rows, and may return values of the changed ones. -/
  | dml
  /-- Defines objects. Never has binds behind its first word. -/
  | ddl
  /-- A block or a call. -/
  | plsql
  /-- Transaction control and anything not recognised. -/
  | other
  deriving DecidableEq, Repr

/-- The word a kind is shown by. -/
def Kind.name : Kind → String
  | .select => "SELECT"
  | .insert => "INSERT"
  | .update => "UPDATE"
  | .delete => "DELETE"
  | .merge => "MERGE"
  | .create => "CREATE"
  | .drop => "DROP"
  | .alter => "ALTER"
  | .begin => "BEGIN"
  | .declare => "DECLARE"
  | .call => "CALL"
  | .commit => "COMMIT"
  | .rollback => "ROLLBACK"
  | .unknown => "UNKNOWN"

/-- Kind and category by the first word in upper case. -/
def classify (keyword : String) : Kind × Category :=
  match keyword with
  | "SELECT" => (.select, .query)
  | "WITH" => (.unknown, .query)
  | "INSERT" => (.insert, .dml)
  | "UPDATE" => (.update, .dml)
  | "DELETE" => (.delete, .dml)
  | "MERGE" => (.merge, .dml)
  | "CREATE" => (.create, .ddl)
  | "DROP" => (.drop, .ddl)
  | "ALTER" => (.alter, .ddl)
  | "ANALYZE" | "AUDIT" | "COMMENT" | "GRANT" | "REVOKE" | "TRUNCATE" => (.unknown, .ddl)
  | "BEGIN" => (.begin, .plsql)
  | "DECLARE" => (.declare, .plsql)
  | "CALL" => (.call, .plsql)
  | "COMMIT" => (.commit, .other)
  | "ROLLBACK" => (.rollback, .other)
  | _ => (.unknown, .other)

end SqlBinder.Statement
