import Mathlib.Data.List.Dedup
import Mathlib.Data.List.Induction
import SqlBinder.Statement.Cache

/-!
What a cache holds. Whatever it was asked, it holds the scans of the texts that were asked for last,
as many as it may keep. Looking for a text does not count as asking for it. As long as the scan of a
text is held it is handed out itself, and behind that a new one.

What a cache should hold is the front of `recent`, the distinct texts with the one asked for last in
front. `Tracks` compares a cache with that, and with what was handed out for each text last; one
request keeps it, and requests in turn are an induction over their list.
-/
namespace SqlBinder.Statement

/-! ## Recency -/

/-- The distinct texts, the one that was asked for last in front. -/
def recent (texts : List String) : List String := texts.dedup.reverse

/-- How many others were asked for since a text was asked for last, repeats counted. -/
def sinceLast (texts : List String) (sql : String) : Nat := texts.reverse.idxOf sql

/-- Of the texts these were asked for last, each of them once: `n` of them, or all if there are
not as many. -/
structure Latest (n : Nat) (texts held : List String) : Prop where
  once : held.Nodup
  asked : held ⊆ texts
  many : held.length = min n texts.dedup.length
  latest : ∀ a ∈ held, ∀ b ∈ texts, b ∉ held → sinceLast texts a < sinceLast texts b

section Recent

variable {texts : List String} {sql : String}

theorem nodup_recent (texts : List String) : (recent texts).Nodup :=
  List.nodup_reverse.2 texts.nodup_dedup

theorem mem_recent : sql ∈ recent texts ↔ sql ∈ texts := by
  rw [recent, List.mem_reverse, List.mem_dedup]

theorem length_recent (texts : List String) : (recent texts).length = texts.dedup.length :=
  List.length_reverse

/-- The text that is asked for comes to the front. -/
theorem recent_concat (texts : List String) (sql : String) :
    recent (texts ++ [sql]) = sql :: (recent texts).filter (· != sql) := by
  have distinct : (texts ++ [sql]).dedup = texts.dedup.filter (· != sql) ++ [sql] := by
    induction texts with
    | nil => rfl
    | cons a rest ih =>
      rw [List.cons_append, List.dedup_cons, List.dedup_cons, ih]
      by_cases same : a = sql
      · subst same
        by_cases again : a ∈ rest
        · simp [again]
        · simp [again]
      · by_cases again : a ∈ rest
        · simp [again]
        · simp [again, same]
  rw [recent, distinct, List.reverse_append, ← List.filter_reverse]
  rfl

/-- What stands in front was asked for later. -/
theorem recent_pairwise (texts : List String) :
    (recent texts).Pairwise fun a b => sinceLast texts a < sinceLast texts b := by
  induction texts using List.reverseRecOn with
  | nil => exact .nil
  | append_singleton texts sql ih =>
    have since : ∀ a, a ≠ sql → sinceLast (texts ++ [sql]) a = sinceLast texts a + 1 := by
      intro a other
      rw [sinceLast, List.reverse_append, List.reverse_singleton, List.singleton_append,
        List.idxOf_cons_ne _ other.symm]
      rfl
    have others : ∀ a ∈ (recent texts).filter (· != sql), a ≠ sql :=
      fun a mem => by simpa using (List.mem_filter.1 mem).2
    rw [recent_concat, List.pairwise_cons]
    constructor
    · intro a mem
      have first : sinceLast (texts ++ [sql]) sql = 0 := by simp [sinceLast]
      rw [first, since a (others a mem)]
      exact Nat.succ_pos _
    · refine (ih.filter _).imp_of_mem fun {a b} ha hb earlier => ?_
      rw [since a (others a ha), since b (others b hb)]
      exact Nat.succ_lt_succ earlier

/-- The front of the texts by recency are those that were asked for last. -/
theorem latest_take (n : Nat) (texts : List String) : Latest n texts ((recent texts).take n) where
  once := (nodup_recent texts).sublist (List.take_sublist n _)
  asked := fun _ mem => mem_recent.1 (List.mem_of_mem_take mem)
  many := by rw [List.length_take, length_recent]
  latest := by
    intro a ha b hb later
    have ordered := recent_pairwise texts
    rw [← List.take_append_drop n (recent texts), List.pairwise_append] at ordered
    have behind : b ∈ (recent texts).drop n := by
      have there := mem_recent.2 hb
      rw [← List.take_append_drop n (recent texts), List.mem_append] at there
      exact there.resolve_left later
    exact ordered.2.2 a ha b behind

/-- A text that goes to the front of `n + 1` makes room for itself, or the last of them does. -/
theorem take_filter_take (n : Nat) {l : List String} (once : l.Nodup) (sql : String) :
    ((l.take (n + 1)).filter (· != sql)).take n = (l.filter (· != sql)).take n := by
  induction l generalizing n with
  | nil => rfl
  | cons a rest ih =>
    obtain ⟨new, once⟩ := List.nodup_cons.1 once
    rw [List.take_succ_cons]
    by_cases same : a = sql
    · subst same
      have whole : ∀ l : List String, l ⊆ rest → l.filter (· != a) = l := by
        intro l sub
        rw [List.filter_eq_self]
        intro b mem
        simpa using ne_of_mem_of_not_mem (sub mem) new
      simp [whole _ (List.take_subset n rest), whole rest (List.Subset.refl rest), List.take_take]
    · cases n with
      | zero => rfl
      | succ n => simp [same, ih n once]

end Recent

namespace Cache

/-! ## Requests -/

/-- What can be asked of a cache. -/
inductive Request where
  | get (sql : String)
  | contains (sql : String)
  | clear

/-- What comes back for a request, by the sort of it. -/
inductive Reply where
  | scan (found : Scan)
  | held (isHeld : Bool)
  | cleared

/-- The reply to a request, and the cache behind it. -/
def serve (c : Cache) : Request → Reply × Cache
  | .get sql => (.scan (c.get sql).1, (c.get sql).2)
  | .contains sql => (.held (c.contains sql), c)
  | .clear => (.cleared, c.clear)

/-- Requests with their replies, and the cache behind them. -/
def serveAll (c : Cache) (requests : List Request) : List (Request × Reply) × Cache :=
  requests.foldl (fun (log, c) r => (log ++ [(r, (c.serve r).1)], (c.serve r).2)) ([], c)

/-- The texts asked for since everything was dropped, in order. -/
def asked (requests : List Request) : List String :=
  requests.foldl (fun texts r =>
    match r with
    | .get sql => texts ++ [sql]
    | .contains _ => texts
    | .clear => []) []

/-- The scan that was handed out for a text last. -/
def lastFound (sql : String) (log : List (Request × Reply)) : Option Scan :=
  log.reverse.findSome? fun
    | (.get text, .scan found) => if text = sql then some found else none
    | _ => none

/-- The texts of the scans that are held, the one that was asked for last in front. -/
def texts (c : Cache) : List String := (c.entries.map (·.1)).reverse

/-! ## One request -/

section Get

variable {c : Cache} {sql text : String}

theorem length_texts (c : Cache) : c.texts.length = c.size := by
  rw [texts, List.length_reverse, List.length_map, size]

theorem contains_iff : c.contains sql ↔ sql ∈ c.texts := by
  rw [contains, find?, List.lookup_isSome_iff, texts, List.mem_reverse, List.mem_map]
  simp only [beq_iff_eq, @eq_comm _ sql]

theorem find?_eq_none : c.find? sql = none ↔ sql ∉ c.texts := by
  rw [← contains_iff, contains, Bool.not_eq_true, Option.isSome_eq_false_iff,
    Option.isNone_iff_eq_none]

theorem mem_entries {found : Scan} (h : c.find? sql = some found) : (sql, found) ∈ c.entries := by
  obtain ⟨before, behind, split, -⟩ := List.lookup_eq_some_iff.1 h
  rw [split]
  exact List.mem_append_right _ List.mem_cons_self

theorem get_kept {found : Scan} (h : c.find? sql = some found) :
    (c.get sql).1 = found ∧ (c.get sql).2.entries = without sql c.entries ++ [(sql, found)] ∧
      (c.get sql).2.maxSize = c.maxSize ∧ (c.get sql).2.made = c.made := by
  unfold get
  split
  · rename_i kept found'
    rw [h] at found'
    cases found'
    exact ⟨rfl, rfl, rfl, rfl⟩
  · rename_i missing
    rw [h] at missing
    cases missing

theorem get_made (h : c.find? sql = none) :
    (c.get sql).1 = ⟨scan sql, c.made⟩ ∧
      (c.get sql).2.entries =
        (if c.maxSize = 0 then c.entries else c.withRoom ++ [(sql, ⟨scan sql, c.made⟩)]) ∧
      (c.get sql).2.maxSize = c.maxSize ∧ (c.get sql).2.made = c.made + 1 := by
  unfold get
  split
  · rename_i kept
    rw [h] at kept
    cases kept
  · by_cases none : c.maxSize = 0
    · simp [none]
    · simp [none]

/-- When the cache is full the text that was asked for least recently goes. -/
theorem texts_withRoom (fits : c.size ≤ c.maxSize) :
    (c.withRoom.map (·.1)).reverse = c.texts.take (c.maxSize - 1) := by
  rw [withRoom]
  split
  · have full : c.entries.length = c.maxSize := by unfold size at *; omega
    rw [List.map_drop, List.reverse_drop, List.length_map, full]
    rfl
  · rw [List.take_of_length_le]
    · rfl
    · rw [length_texts]
      omega

theorem texts_get (fits : c.size ≤ c.maxSize) (sql : String) :
    (c.get sql).2.texts = (sql :: c.texts.filter (· != sql)).take c.maxSize := by
  cases found : c.find? sql with
  | some kept =>
    obtain ⟨-, entries, -⟩ := get_kept found
    have others : (without sql c.entries).map (·.1) = (c.entries.map (·.1)).filter (· != sql) := by
      rw [without, List.filter_map]
      rfl
    have moved : (c.get sql).2.texts = sql :: c.texts.filter (· != sql) := by
      rw [texts, entries, List.map_append, others, List.reverse_append, ← List.filter_reverse]
      rfl
    -- The text comes from among those that are held, so nothing has to go.
    have held : sql ∈ c.texts := contains_iff.1 (by rw [contains, found]; rfl)
    have fewer : (c.texts.filter (· != sql)).length < c.texts.length :=
      List.length_filter_lt_length_iff_exists.2 ⟨sql, held, by simp⟩
    rw [length_texts] at fewer
    rw [moved, List.take_of_length_le]
    rw [List.length_cons]
    omega
  | none =>
    obtain ⟨-, entries, -⟩ := get_made found
    have missing : sql ∉ c.texts := find?_eq_none.1 found
    have others : c.texts.filter (· != sql) = c.texts :=
      List.filter_eq_self.2 fun a mem => by simpa using ne_of_mem_of_not_mem mem missing
    rw [others]
    by_cases nothing : c.maxSize = 0
    · have empty : c.texts = [] := by
        rw [← List.length_eq_zero_iff, length_texts]
        omega
      rw [nothing, texts, entries, if_pos nothing]
      exact empty
    · rw [List.take_cons (Nat.pos_of_ne_zero nothing), ← texts_withRoom fits, texts, entries,
        if_neg nothing, List.map_append, List.reverse_append]
      rfl

theorem maxSize_get (c : Cache) (sql : String) : (c.get sql).2.maxSize = c.maxSize := by
  cases found : c.find? sql with
  | some kept => exact (get_kept found).2.2.1
  | none => exact (get_made found).2.2.1

theorem made_get (c : Cache) (sql : String) : c.made ≤ (c.get sql).2.made := by
  cases found : c.find? sql with
  | some kept => exact Nat.le_of_eq (get_kept found).2.2.2.symm
  | none =>
    rw [(get_made found).2.2.2]
    exact Nat.le_succ _

/-- What is held behind a request is what it handed out, or it was held before under another
text. -/
theorem entries_get {e : String × Scan} (h : e ∈ (c.get sql).2.entries) :
    e = (sql, (c.get sql).1) ∨ e ∈ c.entries ∧ e.1 ≠ sql := by
  cases found : c.find? sql with
  | some kept =>
    obtain ⟨out, entries, -⟩ := get_kept found
    rw [entries, List.mem_append, List.mem_singleton] at h
    rcases h with h | h
    · exact .inr ⟨(List.mem_filter.1 h).1, by simpa using (List.mem_filter.1 h).2⟩
    · exact .inl (by rw [h, out])
  | none =>
    obtain ⟨out, entries, -⟩ := get_made found
    have other : ∀ e ∈ c.entries, e.1 ≠ sql := fun e mem =>
      ne_of_mem_of_not_mem (List.mem_reverse.2 (List.mem_map_of_mem mem)) (find?_eq_none.1 found)
    have kept : e ∈ c.entries → e ∈ c.entries ∧ e.1 ≠ sql := fun mem => ⟨mem, other e mem⟩
    rw [entries] at h
    split at h
    · exact .inr (kept h)
    · rw [List.mem_append, List.mem_singleton, ← out] at h
      refine h.symm.imp_right fun h => kept ?_
      unfold withRoom at h
      split at h
      · exact List.mem_of_mem_drop h
      · exact h

end Get

/-! ## Any number of requests -/

section Run

variable {maxSize : Nat} {requests : List Request} {log : List (Request × Reply)} {c : Cache}

theorem serveAll_concat (c : Cache) (requests : List Request) (r : Request) :
    c.serveAll (requests ++ [r]) =
      ((c.serveAll requests).1 ++ [(r, ((c.serveAll requests).2.serve r).1)],
        ((c.serveAll requests).2.serve r).2) := by
  rw [serveAll, List.foldl_append]
  rfl

theorem asked_concat (requests : List Request) (r : Request) :
    asked (requests ++ [r]) =
      match r with
      | .get sql => asked requests ++ [sql]
      | .contains _ => asked requests
      | .clear => [] := by
  rw [asked, List.foldl_append]
  rfl

theorem lastFound_get (log : List (Request × Reply)) (sql text : String) (found : Scan) :
    lastFound text (log ++ [(.get sql, .scan found)]) =
      if sql = text then some found else lastFound text log := by
  rw [lastFound, List.reverse_append, List.reverse_singleton, List.singleton_append,
    List.findSome?_cons]
  by_cases same : sql = text
  · simp only [same, if_true]
  · simp only [same, if_false]
    rfl

theorem lastFound_contains (log : List (Request × Reply)) (sql text : String) (isHeld : Bool) :
    lastFound text (log ++ [(.contains sql, .held isHeld)]) = lastFound text log := by
  rw [lastFound, List.reverse_append]
  rfl

theorem lastFound_clear (log : List (Request × Reply)) (text : String) :
    lastFound text (log ++ [(.clear, .cleared)]) = lastFound text log := by
  rw [lastFound, List.reverse_append]
  rfl

/-- How a cache stands behind requests. It holds the texts that were asked for last, and under
each of them what was handed out for it last. -/
structure Tracks (maxSize : Nat) (requests : List Request) (log : List (Request × Reply))
    (c : Cache) : Prop where
  size : c.maxSize = maxSize
  texts : c.texts = (recent (asked requests)).take maxSize
  entries : ∀ e ∈ c.entries, lastFound e.1 log = some e.2
  made : ∀ sql found, lastFound sql log = some found → found.serial < c.made

namespace Tracks

theorem fits (h : Tracks maxSize requests log c) : c.size ≤ c.maxSize := by
  rw [← length_texts, h.texts, h.size]
  exact List.length_take_le _ _

/-- A scan that is held was made before. -/
theorem serial_lt (h : Tracks maxSize requests log c) {sql : String} {found : Scan}
    (held : c.find? sql = some found) : found.serial < c.made :=
  h.made sql found (h.entries _ (mem_entries held))

theorem get (h : Tracks maxSize requests log c) (sql : String) :
    Tracks maxSize (requests ++ [.get sql]) (log ++ [(.get sql, .scan (c.get sql).1)])
      (c.get sql).2 where
  size := (maxSize_get c sql).trans h.size
  texts := by
    rw [texts_get h.fits, asked_concat]
    dsimp only
    rw [recent_concat, h.texts, h.size]
    cases maxSize with
    | zero => rfl
    | succ n =>
      rw [List.take_succ_cons, List.take_succ_cons, take_filter_take n (nodup_recent _)]
  entries := by
    intro e mem
    rw [lastFound_get]
    rcases entries_get mem with rfl | ⟨mem, other⟩
    · exact if_pos rfl
    · rw [if_neg (Ne.symm other)]
      exact h.entries e mem
  made := by
    intro text found last
    rw [lastFound_get] at last
    split at last
    · cases last
      cases held : c.find? sql with
      | some kept =>
        obtain ⟨out, -, -, made⟩ := get_kept held
        rw [out, made]
        exact h.serial_lt held
      | none =>
        obtain ⟨out, -, -, made⟩ := get_made held
        rw [out, made]
        exact Nat.lt_succ_self _
    · exact Nat.lt_of_lt_of_le (h.made text found last) (made_get c sql)

theorem serve (h : Tracks maxSize requests log c) (r : Request) :
    Tracks maxSize (requests ++ [r]) (log ++ [(r, (c.serve r).1)]) (c.serve r).2 := by
  cases r with
  | get sql => exact h.get sql
  | contains sql =>
    constructor
    case size => exact h.size
    case texts => rw [asked_concat]; exact h.texts
    case entries => intro e mem; rw [Cache.serve, lastFound_contains]; exact h.entries e mem
    case made =>
      intro text found last
      rw [Cache.serve, lastFound_contains] at last
      exact h.made text found last
  | clear =>
    constructor
    case size => exact h.size
    case texts => rw [asked_concat]; exact List.take_nil.symm
    case entries => intro e mem; cases mem
    case made =>
      intro text found last
      rw [Cache.serve, lastFound_clear] at last
      exact h.made text found last

end Tracks

theorem tracks_serveAll (maxSize : Nat) (requests : List Request) :
    Tracks maxSize requests ((empty maxSize).serveAll requests).1
      ((empty maxSize).serveAll requests).2 := by
  induction requests using List.reverseRecOn with
  | nil => exact ⟨rfl, List.take_nil.symm, nofun, nofun⟩
  | append_singleton requests r ih =>
    rw [serveAll_concat]
    exact ih.serve r

end Run

/-- Behind any requests a cache holds the texts that were asked for last since everything was
dropped, as many as it may keep. A look tells whether a text is among them and changes nothing.
What is handed out for a text is its scan, and it is the one handed out last exactly if the text
is still held. -/
theorem holds_latest (maxSize : Nat) (requests : List Request) :
    let log := ((empty maxSize).serveAll requests).1
    let c := ((empty maxSize).serveAll requests).2
    Latest maxSize (asked requests) c.texts ∧
      (∀ sql, c.serve (.contains sql) = (.held (decide (sql ∈ c.texts)), c)) ∧
      ∀ sql, (c.get sql).1.info = scan sql ∧
        ∀ found, lastFound sql log = some found → ((c.get sql).1 = found ↔ sql ∈ c.texts) := by
  intro log c
  have tracks : Tracks maxSize requests log c := tracks_serveAll maxSize requests
  refine ⟨?_, fun sql => ?_, fun sql => ⟨info_get c sql, fun found last => ?_⟩⟩
  · rw [tracks.texts]
    exact latest_take maxSize (asked requests)
  · have answer : c.contains sql = decide (sql ∈ c.texts) := by
      rw [Bool.eq_iff_iff, contains_iff, decide_eq_true_iff]
    rw [serve, answer]
  · cases held : c.find? sql with
    | some kept =>
      have same : some kept = some found :=
        (tracks.entries _ (mem_entries held)).symm.trans last
      refine iff_of_true ?_ (contains_iff.1 (by rw [contains, held]; rfl))
      rw [(get_kept held).1]
      exact Option.some.inj same
    | none =>
      refine iff_of_false ?_ (find?_eq_none.1 held)
      rw [(get_made held).1]
      rintro rfl
      exact Nat.lt_irrefl _ (tracks.made sql _ last)

example : ((empty 2).serveAll [.get "a", .get "b", .get "a", .contains "b", .get "c"]).2.texts =
    ["c", "a"] := by
  decide

end Cache

end SqlBinder.Statement
