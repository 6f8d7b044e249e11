import SqlBinder.DbType

/-!
Large objects as data: what a locator says and the pieces of content that are read and written.
Content is counted in units, characters of text or bytes.

Offsets and sizes that are exchanged with a session are in these units as well, so the functions on
content that cut, join and measure it are the same for both kinds, and so are the laws about them.
-/
namespace SqlBinder

/-- What an object holds: text, counted in characters, or bytes. -/
inductive LobKind where
  | clob
  | blob
  deriving DecidableEq, Repr

/-- The kind stored under a type, if it is a large object type. -/
def LobKind.ofDbType? : DbType → Option LobKind
  | .clob | .nclob => some .clob
  | .blob => some .blob
  | _ => none

/-- The type a large object of this kind is bound as. -/
def LobKind.dbType : LobKind → DbType
  | .clob => .clob
  | .blob => .blob

/-- What the server hands out for a large object: its name there, and what was known of it at that
time. Two locators with the same bytes name the same object. -/
structure LobLocator where
  bytes : List UInt8
  kind : LobKind
  /-- Units of content when the locator was issued. -/
  size : Nat
  /-- The unit of transfer agreed with the server. -/
  chunkSize : Nat
  /-- The server allocated it for this session only. -/
  isTemporary : Bool
  deriving DecidableEq, Repr

/-- The locator of a temporary object. -/
def LobLocator.temporary (l : LobLocator) : LobLocator := { l with isTemporary := true }

/-- A piece of content, of either kind. Offsets and sizes are in its units, characters or bytes. -/
inductive LobData where
  | text (text : String)
  | bytes (bytes : List UInt8)
  deriving DecidableEq, Repr

namespace LobData

/-- Length in units. -/
def size : LobData → Nat
  | text s => s.length
  | bytes b => b.length

/-- There is no content. An empty piece is what marks the end when an object is read. -/
def isEmpty : LobData → Bool
  | text s => s.isEmpty
  | bytes b => b.isEmpty

/-- The kind of object that such content belongs to. -/
def kind : LobData → LobKind
  | text _ => .clob
  | bytes _ => .blob

/-- No content, of a kind. -/
def empty : LobKind → LobData
  | .clob => text ""
  | .blob => bytes []

/-- Content followed by more of the same kind; content of the other kind is left out. -/
def append : LobData → LobData → LobData
  | text s, text t => text (s ++ t)
  | bytes b, bytes c => bytes (b ++ c)
  | d, _ => d

/-- The first units of the content, all of it if there are no more. -/
def take (n : Nat) : LobData → LobData
  | text s => text (String.ofList (s.toList.take n))
  | bytes b => bytes (b.take n)

/-- The content behind its first units. -/
def drop (n : Nat) : LobData → LobData
  | text s => text (String.ofList (s.toList.drop n))
  | bytes b => bytes (b.drop n)

@[simp] theorem kind_empty (kind : LobKind) : (empty kind).kind = kind := by
  cases kind <;> rfl

@[simp] theorem size_empty (kind : LobKind) : (empty kind).size = 0 := by
  cases kind <;> rfl

@[simp] theorem kind_append (d e : LobData) : (d.append e).kind = d.kind := by
  cases d <;> cases e <;> rfl

@[simp] theorem kind_take (n : Nat) (d : LobData) : (d.take n).kind = d.kind := by
  cases d <;> rfl

@[simp] theorem kind_drop (n : Nat) (d : LobData) : (d.drop n).kind = d.kind := by
  cases d <;> rfl

theorem size_append {d e : LobData} (h : d.kind = e.kind) :
    (d.append e).size = d.size + e.size := by
  cases d <;> cases e <;> simp_all [append, size, kind]

@[simp] theorem size_take (n : Nat) (d : LobData) : (d.take n).size = min n d.size := by
  cases d with
  | text s => simp [take, size, ← String.length_toList]
  | bytes b => simp [take, size]

@[simp] theorem size_drop (n : Nat) (d : LobData) : (d.drop n).size = d.size - n := by
  cases d with
  | text s => simp [drop, size, ← String.length_toList]
  | bytes b => simp [drop, size]

/-- Nothing is lost where content is cut. -/
@[simp] theorem take_append_drop (n : Nat) (d : LobData) : (d.take n).append (d.drop n) = d := by
  cases d with
  | text s =>
    have joined : String.ofList (s.toList.take n) ++ String.ofList (s.toList.drop n) = s := by
      rw [← String.ofList_append, List.take_append_drop, String.ofList_toList]
    simp [take, drop, append, joined]
  | bytes b => simp [take, drop, append]

end LobData

end SqlBinder
