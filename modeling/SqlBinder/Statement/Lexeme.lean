import SqlBinder.Text.Blank
import SqlBinder.Text.Letter
import SqlBinder.Text.Numeral
import SqlBinder.Text.Capital

/-!
What a reader of SQL text picks out of it: the words and the placeholders. Comments, literals and
quoted identifiers are passed over. The reader takes one character at a time and never looks ahead;
where it stands is its `Mode`.

What a character means depends on the mode alone, so that texts which leave the reader in the same
mode are read alike from there on. A text may end in any mode: an open comment or literal runs to
its end and is no error.
-/
namespace SqlBinder.Statement

open Text

/-- A part of a text that says something about the statement. The reader gives them out in the order
of the text. -/
inductive Lexeme where
  /-- A maximal run of letters that more text follows. -/
  | word (letters : List Char)
  /-- A run of letters that ends the text. -/
  | lastWord (letters : List Char)
  /-- A placeholder, by its recorded name. -/
  | placeholder (name : String)
  deriving DecidableEq, Repr

/-- Where the reader stands. Characters of an unfinished word or name are kept
newest first. -/
inductive Mode where
  /-- Between tokens. The flag tells that a literal came last, blanks aside. -/
  | plain (afterLiteral : Bool)
  | word (letters : List Char)
  /-- After a dash that may open a line comment. -/
  | dash
  /-- After a slash that may open a block comment. -/
  | slash
  | lineComment
  /-- In a block comment. The flag tells that a star came last. -/
  | blockComment (star : Bool)
  /-- In a literal between single quotes. -/
  | literal
  /-- After `q'`: the next character is the delimiter. -/
  | delimiter
  /-- In a literal with a delimiter. The flag tells that the closing one came last. -/
  | delimited (close : Char) (closing : Bool)
  | quotedName
  /-- After a colon that may open a placeholder, blanks skipped. -/
  | colon
  | quotedPlaceholder (chars : List Char)
  | numberPlaceholder (chars : List Char)
  | namePlaceholder (chars : List Char)
  deriving DecidableEq, Repr

/-- The delimiter that closes a literal opened with this one. -/
def closingDelimiter (c : Char) : Char :=
  if c = '[' then ']'
  else if c = '\x7b' then '\x7d'
  else if c = '(' then ')'
  else if c = '<' then '>'
  else c

/-- A character that may continue an unquoted placeholder name. -/
def isNameChar (c : Char) : Bool :=
  isLetter c || isNumeral c || c = '$' || c = '_' || c = '#'

/-- A word that marks a quote behind it as the start of a delimited literal. -/
def endsInQ (letters : List Char) : Bool :=
  match letters with
  | c :: _ => c = 'q' || c = 'Q'
  | [] => false

/-- The mode after a character that stands between tokens. -/
def Mode.start (afterLiteral afterQ : Bool) (c : Char) : Mode :=
  if isLetter c then .word [c]
  else if c = '\'' then if afterQ then .delimiter else .literal
  else if isBlank c then .plain afterLiteral
  else if c = '-' then .dash
  else if c = '/' then .slash
  else if c = '"' then .quotedName
  else if c = ':' then if afterLiteral then .plain false else .colon
  else .plain false

/-- The text of characters kept newest first. -/
def ofReversed (chars : List Char) : String := String.ofList chars.reverse

/-- The recorded form of an unquoted name kept newest first. -/
def capitalName (chars : List Char) : String := String.ofList (upper chars.reverse)

/-- One character: the next mode and what it completes. -/
def Mode.next : Mode → Char → Mode × List Lexeme
  | .plain afterLiteral, c => (.start afterLiteral false c, [])
  | .word letters, c =>
    if isLetter c then (.word (c :: letters), [])
    else (.start false (endsInQ letters) c, [.word letters.reverse])
  | .dash, c => (if c = '-' then .lineComment else .start false false c, [])
  | .slash, c => (if c = '*' then .blockComment false else .start false false c, [])
  | .lineComment, c => (if c = '\n' then .plain false else .lineComment, [])
  | .blockComment star, c =>
    (if star && c = '/' then .plain false else .blockComment (c = '*'), [])
  | .literal, c => (if c = '\'' then .plain true else .literal, [])
  | .delimiter, c => (.delimited (closingDelimiter c) false, [])
  | .delimited close closing, c =>
    (if closing && c = '\'' then .plain true else .delimited close (c = close), [])
  | .quotedName, c => (if c = '"' then .plain false else .quotedName, [])
  | .colon, c =>
    if isBlank c then (.colon, [])
    else if c = '"' then (.quotedPlaceholder [], [])
    else if isNumeral c then (.numberPlaceholder [c], [])
    else if isLetter c then (.namePlaceholder [c], [])
    else (.start false false c, [])
  | .quotedPlaceholder chars, c =>
    if c = '"' then (.plain false, [.placeholder (ofReversed chars)])
    else (.quotedPlaceholder (c :: chars), [])
  | .numberPlaceholder chars, c =>
    if isNumeral c then (.numberPlaceholder (c :: chars), [])
    else (.start false false c, [.placeholder (ofReversed chars)])
  | .namePlaceholder chars, c =>
    if isNameChar c then (.namePlaceholder (c :: chars), [])
    else (.start false false c, [.placeholder (capitalName chars)])

/-- What the end of the text completes. -/
def Mode.finish : Mode → List Lexeme
  | .word letters => [.lastWord letters.reverse]
  | .quotedPlaceholder chars => [.placeholder (ofReversed chars)]
  | .numberPlaceholder chars => [.placeholder (ofReversed chars)]
  | .namePlaceholder chars => [.placeholder (capitalName chars)]
  | _ => []

/-- The mode after a text. -/
def Mode.after : Mode → List Char → Mode
  | mode, [] => mode
  | mode, c :: rest => (mode.next c).1.after rest

/-- What a text completes on the way, without its end. -/
def Mode.passed : Mode → List Char → List Lexeme
  | _, [] => []
  | mode, c :: rest => (mode.next c).2 ++ (mode.next c).1.passed rest

/-- The lexemes of a text read from a mode to its end. -/
def Mode.lexemes (mode : Mode) (cs : List Char) : List Lexeme :=
  mode.passed cs ++ (mode.after cs).finish

/-- The lexemes of a whole text. -/
def lexemes (cs : List Char) : List Lexeme := (Mode.plain false).lexemes cs

theorem Mode.after_append (mode : Mode) (cs ds : List Char) :
    mode.after (cs ++ ds) = (mode.after cs).after ds := by
  induction cs generalizing mode with
  | nil => rfl
  | cons c rest ih => simp [Mode.after, ih]

theorem Mode.passed_append (mode : Mode) (cs ds : List Char) :
    mode.passed (cs ++ ds) = mode.passed cs ++ (mode.after cs).passed ds := by
  induction cs generalizing mode with
  | nil => rfl
  | cons c rest ih => simp [Mode.after, Mode.passed, ih]

theorem Mode.lexemes_append (mode : Mode) (cs ds : List Char) :
    mode.lexemes (cs ++ ds) = mode.passed cs ++ (mode.after cs).lexemes ds := by
  simp [Mode.lexemes, Mode.after_append, Mode.passed_append]

end SqlBinder.Statement
