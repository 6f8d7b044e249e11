import SqlBinder.Statement.Info

/-!
Scans kept by text. When the cache is full the text that was asked for least recently makes room. A
scan carries the number it was made as, so that two scans of one text can be told apart.

The entries stand in the order of their last use, and a text that is asked for moves to the end.
That each entry is a scan of its text is part of the cache: two scans of one text say the same and
differ in their numbers only.
-/
namespace SqlBinder.Statement

/-- What a text says, and the number of the scan that found it, by which it is told from other scans
of the same text. -/
structure Scan where
  info : Info
  serial : Nat
  deriving DecidableEq, Repr

/-- Each entry is a scan of its text. -/
def Faithful (entries : List (String × Scan)) : Prop := ∀ e ∈ entries, e.2.info = scan e.1

/-- Kept scans, least recently asked for first. A cache that may keep none still scans. -/
structure Cache where
  entries : List (String × Scan)
  /-- The most scans that are kept. -/
  maxSize : Nat
  /-- Scans made so far. -/
  made : Nat
  faithful : Faithful entries
  deriving DecidableEq, Repr

theorem Faithful.mono {entries others : List (String × Scan)} (h : Faithful entries)
    (sub : others ⊆ entries) : Faithful others :=
  fun e he => h e (sub he)

theorem Faithful.concat {entries : List (String × Scan)} (h : Faithful entries) {sql : String}
    {found : Scan} (hf : found.info = scan sql) : Faithful (entries ++ [(sql, found)]) := by
  intro e he
  rcases List.mem_append.1 he with he | he
  · exact h e he
  · obtain rfl := List.mem_singleton.1 he
    exact hf

namespace Cache

/-- Nothing is kept yet. -/
def empty (maxSize : Nat) : Cache := ⟨[], maxSize, 0, by simp [Faithful]⟩

/-- The kept scan of a text. -/
def find? (c : Cache) (sql : String) : Option Scan := c.entries.lookup sql

/-- A scan of the text is kept. That counts as no use of it. -/
def contains (c : Cache) (sql : String) : Bool := (c.find? sql).isSome

/-- How many scans are kept. -/
def size (c : Cache) : Nat := c.entries.length

/-- No scan is kept. -/
def isEmpty (c : Cache) : Bool := c.entries.isEmpty

/-- The entries without a text. -/
def without (sql : String) (entries : List (String × Scan)) : List (String × Scan) :=
  entries.filter (·.1 != sql)

/-- The entries with room for one more. -/
def withRoom (c : Cache) : List (String × Scan) :=
  if c.maxSize ≤ c.size then c.entries.drop 1 else c.entries

/-- A kept scan is a scan of its text. -/
theorem info_of_find? {c : Cache} {sql : String} {found : Scan} (h : c.find? sql = some found) :
    found.info = scan sql := by
  obtain ⟨before, after, he, -⟩ := List.lookup_eq_some_iff.1 h
  exact c.faithful (sql, found) (by simp [he])

theorem faithful_without (c : Cache) (sql : String) : Faithful (without sql c.entries) :=
  c.faithful.mono List.filter_sublist.subset

theorem faithful_withRoom (c : Cache) : Faithful c.withRoom := by
  unfold withRoom
  split
  · exact c.faithful.mono (List.drop_subset _ _)
  · exact c.faithful

/-- The scan of a text, kept or made, and the cache that remembers it. -/
def get (c : Cache) (sql : String) : Scan × Cache :=
  match h : c.find? sql with
  | some found =>
    (found, { c with
      entries := without sql c.entries ++ [(sql, found)]
      faithful := (c.faithful_without sql).concat (info_of_find? h) })
  | none =>
    let made : Scan := ⟨scan sql, c.made⟩
    if c.maxSize = 0 then (made, { c with made := c.made + 1 })
    else
      (made, { c with
        entries := c.withRoom ++ [(sql, made)]
        made := c.made + 1
        faithful := c.faithful_withRoom.concat rfl })

/-- What is found for a text is what the text says. -/
@[simp] theorem info_get (c : Cache) (sql : String) : (c.get sql).1.info = scan sql := by
  unfold get
  split
  · exact info_of_find? (by assumption)
  · dsimp only
    split <;> rfl

/-- Nothing is kept any more. -/
def clear (c : Cache) : Cache := { c with entries := [], faithful := by simp [Faithful] }

end Cache

end SqlBinder.Statement
