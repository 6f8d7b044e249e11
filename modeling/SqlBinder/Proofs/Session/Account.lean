import Mathlib.Data.List.Perm.Subperm
import SqlBinder.Session.Operation

/-!
What calls leave open. The session hands out cursors and large objects; calls account for
them if each cursor is closed and each object is settled: given back, unless a call that
moved its content has failed.

Objects are told apart by the bytes of their locators. An object that was handed out twice
cannot be told apart from another, so nothing is said of it.
-/
namespace SqlBinder

/-- What tells large objects apart. -/
abbrev LobKey := List UInt8

/-- The objects among wire values. -/
def lobKeys (wires : List WireValue) : List LobKey :=
  wires.filterMap fun wire =>
    match wire with
    | .lob l => some l.bytes
    | _ => none

/-- The cursors among wire values. -/
def cursorIds (wires : List WireValue) : List Nat :=
  wires.filterMap fun wire =>
    match wire with
    | .cursor l => if l.id = 0 then none else some l.id
    | _ => none

theorem lobKeys_append (xs ys : List WireValue) : lobKeys (xs ++ ys) = lobKeys xs ++ lobKeys ys :=
  List.filterMap_append

theorem cursorIds_append (xs ys : List WireValue) :
    cursorIds (xs ++ ys) = cursorIds xs ++ cursorIds ys :=
  List.filterMap_append

namespace Exchange

/-- The cursor that was closed. -/
def closedCursor? : Exchange → Option Nat
  | ⟨.closeCursor id, _⟩ => some id
  | _ => none

/-- The object that was given back. -/
def closedLob? : Exchange → Option LobKey
  | ⟨.closeLob l, _⟩ => some l.bytes
  | _ => none

/-- The object whose content was to be moved when the call failed. -/
def brokenLob? : Exchange → Option LobKey
  | ⟨.readLob l _ _, .failed _⟩ | ⟨.writeLob l _ _, .failed _⟩ | ⟨.commitLob l, .failed _⟩ =>
    some l.bytes
  | _ => none

/-- The object that was taken on: made, or temporary and read. -/
def takenLob? : Exchange → Option LobKey
  | ⟨.createLob _, .done raw⟩ => some raw.bytes
  | ⟨.readLob l _ _, _⟩ => if l.isTemporary then some l.bytes else none
  | _ => none

/-- The objects that the session handed out. -/
def handed : Exchange → List LobKey
  | ⟨.createLob _, .done raw⟩ => [raw.bytes]
  | ⟨.execute _, .done r⟩ => lobKeys r.outBinds ++ r.rows.flatMap lobKeys
  | ⟨.executeMany _, .done r⟩ => r.outBinds.flatMap lobKeys
  | ⟨.fetch _ _, .done r⟩ => r.rows.flatMap lobKeys
  | _ => []

end Exchange

section Totals

variable (xs ys : List Exchange)

/-- The cursors that calls have closed, in order, each as often as it was closed. -/
def closedCursors : List Nat := xs.filterMap Exchange.closedCursor?

/-- The objects that were given back, each as often as that was done. -/
def closedLobs : List LobKey := xs.filterMap Exchange.closedLob?

/-- The objects whose content could not be moved. -/
def brokenLobs : List LobKey := xs.filterMap Exchange.brokenLob?

/-- The objects that were made, and the temporary ones that were read. -/
def takenLobs : List LobKey := xs.filterMap Exchange.takenLob?

/-- The objects that came with any answer of the session. -/
def handedLobs : List LobKey := xs.flatMap Exchange.handed

@[simp] theorem closedCursors_nil : closedCursors [] = [] := rfl

@[simp] theorem closedCursors_append :
    closedCursors (xs ++ ys) = closedCursors xs ++ closedCursors ys :=
  List.filterMap_append

@[simp] theorem closedLobs_append : closedLobs (xs ++ ys) = closedLobs xs ++ closedLobs ys :=
  List.filterMap_append

@[simp] theorem brokenLobs_append : brokenLobs (xs ++ ys) = brokenLobs xs ++ brokenLobs ys :=
  List.filterMap_append

@[simp] theorem takenLobs_append : takenLobs (xs ++ ys) = takenLobs xs ++ takenLobs ys :=
  List.filterMap_append

@[simp] theorem handedLobs_append : handedLobs (xs ++ ys) = handedLobs xs ++ handedLobs ys :=
  List.flatMap_append

end Totals

variable {b : LobKey} {xs ys : List Exchange} {P Q : LobKey → List Exchange → Prop}
  {given given' : List LobKey}

/-! ## One object -/

/-- Nothing was done with the object. -/
structure Idle (b : LobKey) (xs : List Exchange) : Prop where
  taken : b ∉ takenLobs xs
  broken : b ∉ brokenLobs xs
  closed : b ∉ closedLobs xs

/-- The object is still to be given back. -/
structure Owed (b : LobKey) (xs : List Exchange) : Prop where
  broken : b ∉ brokenLobs xs
  closed : b ∉ closedLobs xs

/-- The object was given back once, or a call that moved its content has failed. -/
def Settled (b : LobKey) (xs : List Exchange) : Prop :=
  (closedLobs xs).count b = if b ∈ brokenLobs xs then 0 else 1

/-- The object was settled if anything was done with it. -/
def Cleared (b : LobKey) (xs : List Exchange) : Prop := Idle b xs ∨ Settled b xs

theorem Idle.nil : Idle b [] := ⟨by simp [takenLobs], by simp [brokenLobs], by simp [closedLobs]⟩

theorem Idle.append (hx : Idle b xs) (hy : Idle b ys) : Idle b (xs ++ ys) :=
  ⟨by simp [hx.taken, hy.taken], by simp [hx.broken, hy.broken], by simp [hx.closed, hy.closed]⟩

theorem Idle.owed (h : Idle b xs) : Owed b xs := ⟨h.broken, h.closed⟩

theorem Owed.append (hx : Owed b xs) (hy : Owed b ys) : Owed b (xs ++ ys) :=
  ⟨by simp [hx.broken, hy.broken], by simp [hx.closed, hy.closed]⟩

/-- What was owed and then settled is settled. -/
theorem Owed.append_settled (hx : Owed b xs) (hy : Settled b ys) : Settled b (xs ++ ys) := by
  simpa [Settled, hx.broken, List.count_eq_zero.2 hx.closed] using hy

theorem Settled.append_idle (hx : Settled b xs) (hy : Idle b ys) : Settled b (xs ++ ys) := by
  simpa [Settled, hy.broken, List.count_eq_zero.2 hy.closed] using hx

/-! ## All objects -/

/-- The same was done with all objects. -/
structure SameLobs (xs ys : List Exchange) : Prop where
  taken : takenLobs xs = takenLobs ys
  broken : brokenLobs xs = brokenLobs ys
  closed : closedLobs xs = closedLobs ys

/-- A property of what was done with an object, kept by calls that do nothing with it. -/
structure Stable (P : LobKey → List Exchange → Prop) : Prop where
  congr : ∀ {b xs ys}, SameLobs xs ys → P b xs → P b ys
  before : ∀ {b xs ys}, Idle b xs → P b ys → P b (xs ++ ys)
  behind : ∀ {b xs ys}, P b xs → Idle b ys → P b (xs ++ ys)

theorem Idle.congr (same : SameLobs xs ys) (h : Idle b xs) : Idle b ys :=
  ⟨same.taken ▸ h.taken, same.broken ▸ h.broken, same.closed ▸ h.closed⟩

theorem Settled.congr (same : SameLobs xs ys) (h : Settled b xs) : Settled b ys := by
  simpa [Settled, same.broken, same.closed] using h

theorem Stable.owed : Stable Owed where
  congr := fun same h => ⟨same.broken ▸ h.broken, same.closed ▸ h.closed⟩
  before := fun hx hy => hx.owed.append hy
  behind := fun hx hy => hx.append hy.owed

theorem Stable.settled : Stable Settled where
  congr := Settled.congr
  before := fun hx hy => hx.owed.append_settled hy
  behind := fun hx hy => hx.append_idle hy

theorem Stable.cleared : Stable Cleared where
  congr := fun same h => h.imp (·.congr same) (·.congr same)
  before := fun hx hy => hy.imp hx.append hx.owed.append_settled
  behind := fun hx hy => hx.imp (·.append hy) (·.append_idle hy)

/-- A call that does nothing with any object. -/
def Exchange.Quiet (x : Exchange) : Prop :=
  x.takenLob? = none ∧ x.brokenLob? = none ∧ x.closedLob? = none

theorem Exchange.Quiet.insert {x : Exchange} (h : x.Quiet) (xs ys : List Exchange) :
    SameLobs (xs ++ ys) (xs ++ x :: ys) := by
  obtain ⟨taken, broken, closed⟩ := h
  constructor <;> simp [takenLobs, brokenLobs, closedLobs, taken, broken, closed]

/-- Nothing was done with objects that were neither given nor handed out, and one that was so
once has the property. -/
def EachLob (P : LobKey → List Exchange → Prop) (given : List LobKey) (xs : List Exchange) : Prop :=
  ∀ b, (b ∉ given ++ handedLobs xs → Idle b xs) ∧
    ((given ++ handedLobs xs).count b = 1 → P b xs)

namespace EachLob

theorem imp (h : EachLob P given xs) (hPQ : ∀ b, P b xs → Q b xs) : EachLob Q given xs :=
  fun b => ⟨(h b).1, fun once => hPQ b ((h b).2 once)⟩

theorem nil (hP : ∀ b, P b []) : EachLob P given [] := fun b => ⟨fun _ => .nil, fun _ => hP b⟩

/-- Calls on a single object. -/
theorem single {b₀ : LobKey} (handed : handedLobs xs = []) (others : ∀ b, b ≠ b₀ → Idle b xs)
    (hP : P b₀ xs) : EachLob P [b₀] xs := by
  intro b
  rw [handed, List.append_nil]
  refine ⟨fun hb => others b (by simpa using hb), fun once => ?_⟩
  by_cases same : b = b₀
  · exact same ▸ hP
  · simp [Ne.symm same] at once

/-- More objects may be given of which nothing is asked. -/
theorem more (h : EachLob P given xs) (sub : given.Subperm given')
    (idle : ∀ b, Idle b xs → P b xs) : EachLob P given' xs := by
  intro b
  have fewer : (given ++ handedLobs xs).count b ≤ (given' ++ handedLobs xs).count b :=
    (sub.append (List.Subperm.refl _)).count_le b
  refine ⟨fun hb => (h b).1 fun hb' => ?_, fun once => ?_⟩
  · exact hb ((sub.append (List.Subperm.refl _)).subset hb')
  -- An object given more often than before was not given at all before, or once.
  · rcases Nat.le_one_iff_eq_zero_or_eq_one.1 (once ▸ fewer) with none | one
    · exact idle b ((h b).1 (List.count_eq_zero.1 none))
    · exact (h b).2 one

theorem perm (h : EachLob P given xs) (perm : given.Perm given') : EachLob P given' xs := by
  intro b
  have same := perm.append_right (handedLobs xs)
  exact ⟨fun hb => (h b).1 fun hb' => hb (same.subset hb'), fun once =>
    (h b).2 (by rw [same.count_eq, once])⟩

/-- Calls on different objects, one group behind the other. -/
theorem append (stable : Stable P) (hx : EachLob P given xs) (hy : EachLob P given' ys) :
    EachLob P (given ++ given') (xs ++ ys) := by
  intro b
  have total : (given ++ given' ++ handedLobs (xs ++ ys)).count b =
      (given ++ handedLobs xs).count b + (given' ++ handedLobs ys).count b := by
    simp only [handedLobs_append, List.count_append]
    omega
  refine ⟨fun hb => ?_, fun once => ?_⟩
  · rw [← List.count_eq_zero, total] at hb
    have none : (given ++ handedLobs xs).count b = 0 := by omega
    have none' : (given' ++ handedLobs ys).count b = 0 := by omega
    exact ((hx b).1 (List.count_eq_zero.1 none)).append ((hy b).1 (List.count_eq_zero.1 none'))
  · rw [total] at once
    -- The object was given to one of the groups only; the other one left it alone.
    rcases Nat.eq_zero_or_pos ((given ++ handedLobs xs).count b) with none | some
    · have one : (given' ++ handedLobs ys).count b = 1 := by omega
      exact stable.before ((hx b).1 (List.count_eq_zero.1 none)) ((hy b).2 one)
    · have one : (given ++ handedLobs xs).count b = 1 := by omega
      have none : (given' ++ handedLobs ys).count b = 0 := by omega
      exact stable.behind ((hx b).2 one) ((hy b).1 (List.count_eq_zero.1 none))

/-- Calls on objects that were owed until then. -/
theorem append_owed (stable : Stable P) (hold : ∀ {b xs ys}, Owed b xs → P b ys → P b (xs ++ ys))
    (hx : EachLob Owed given xs) (hy : EachLob P (given ++ handedLobs xs) ys) :
    EachLob P given (xs ++ ys) := by
  intro b
  have same : given ++ handedLobs (xs ++ ys) = given ++ handedLobs xs ++ handedLobs ys := by
    rw [handedLobs_append, List.append_assoc]
  rw [same]
  refine ⟨fun hb => ?_, fun once => ?_⟩
  · exact ((hx b).1 fun hb' => hb (List.mem_append_left _ hb')).append ((hy b).1 hb)
  -- The first calls had the object, or those behind them made it.
  · rcases Nat.eq_zero_or_pos ((given ++ handedLobs xs).count b) with none | some
    · exact stable.before ((hx b).1 (List.count_eq_zero.1 none)) ((hy b).2 once)
    · have one : (given ++ handedLobs xs).count b = 1 := by
        rw [List.count_append] at once
        omega
      exact hold ((hx b).2 one) ((hy b).2 once)

/-- A call that hands objects out and does nothing with any. -/
theorem insert {x : Exchange} (stable : Stable P) (quiet : x.Quiet) {ys : List Exchange}
    (h : EachLob P (given ++ x.handed) (xs ++ ys)) : EachLob P given (xs ++ x :: ys) := by
  intro b
  have same := quiet.insert xs ys
  have total : (given ++ handedLobs (xs ++ x :: ys)).count b =
      (given ++ x.handed ++ handedLobs (xs ++ ys)).count b := by
    simp only [handedLobs, List.flatMap_append, List.flatMap_cons, List.count_append]
    omega
  refine ⟨fun hb => ?_, fun once => ?_⟩
  · rw [← List.count_eq_zero, total, List.count_eq_zero] at hb
    exact ((h b).1 hb).congr same
  · rw [total] at once
    exact stable.congr same ((h b).2 once)

end EachLob

/-- Calls that hand out no object and close no cursor. -/
structure Plain (xs : List Exchange) : Prop where
  handed : handedLobs xs = []
  cursors : closedCursors xs = []

theorem Plain.nil : Plain [] := ⟨rfl, rfl⟩

theorem Plain.append (hx : Plain xs) (hy : Plain ys) : Plain (xs ++ ys) :=
  ⟨by simp [hx.handed, hy.handed], by simp [hx.cursors, hy.cursors]⟩

/-- Calls on an object that was owed until then. -/
theorem EachLob.append_plain (stable : Stable P)
    (hold : ∀ {b xs ys}, Owed b xs → P b ys → P b (xs ++ ys)) (plain : Plain xs)
    (hx : EachLob Owed given xs) (hy : EachLob P given ys) : EachLob P given (xs ++ ys) :=
  hx.append_owed stable hold (by rwa [plain.handed, List.append_nil])

/-! ## Cursors and objects -/

/-- Calls that close cursors, each as often as it is listed, and clear objects. -/
structure Accounts (ids : List Nat) (keys : List LobKey) (xs : List Exchange) : Prop where
  cursors : (closedCursors xs).Perm ids
  lobs : EachLob Cleared keys xs

namespace Accounts

variable {ids ids' : List Nat} {keys keys' : List LobKey}

theorem nil : Accounts [] keys [] := ⟨.nil, .nil fun _ => .inl .nil⟩

theorem append (hx : Accounts ids keys xs) (hy : Accounts ids' keys' ys) :
    Accounts (ids ++ ids') (keys ++ keys') (xs ++ ys) := by
  refine ⟨?_, hx.lobs.append .cleared hy.lobs⟩
  rw [closedCursors_append]
  exact hx.cursors.append hy.cursors

/-- The order of cursors does not matter, and more objects may be left alone. -/
theorem widen (h : Accounts ids keys xs) (perm : ids.Perm ids') (sub : keys.Subperm keys') :
    Accounts ids' keys' xs :=
  ⟨h.cursors.trans perm, h.lobs.more sub fun _ => .inl⟩

end Accounts

/-! ## One cursor -/

/-- The exchange is a call for rows of the cursor. -/
def Exchange.Fetches (id : Nat) (x : Exchange) : Prop := ∃ n, x.call = .fetch id n

/-- The cursor is closed by one call, and no rows are fetched from it behind that. -/
def ClosedOnce (id : Nat) (xs : List Exchange) : Prop :=
  ∃ before out after, xs = before ++ ⟨.closeCursor id, out⟩ :: after ∧
    id ∉ closedCursors before ∧ id ∉ closedCursors after ∧ ∀ x ∈ after, ¬ x.Fetches id

theorem Exchange.closedCursor?_eq_some {x : Exchange} {id : Nat} (h : x.closedCursor? = some id) :
    ∃ out, x = ⟨.closeCursor id, out⟩ := by
  obtain ⟨call, out⟩ := x
  cases call with
  | closeCursor i =>
    obtain rfl : i = id := by simpa [closedCursor?] using h
    exact ⟨out, rfl⟩
  | _ => cases h

namespace ClosedOnce

variable {id : Nat}

/-- A cursor that is closed once among calls that fetch nothing. -/
theorem of_count (once : (closedCursors xs).count id = 1) (unfetched : ∀ x ∈ xs, ¬ x.Fetches id) :
    ClosedOnce id xs := by
  have closed : id ∈ closedCursors xs := List.count_pos_iff.1 (by omega)
  obtain ⟨x, mem, hx⟩ := List.mem_filterMap.1 closed
  obtain ⟨out, rfl⟩ := Exchange.closedCursor?_eq_some hx
  obtain ⟨before, after, rfl⟩ := List.append_of_mem mem
  -- The one call that closes the cursor is the one found, so it is in neither part.
  have here : closedCursors (⟨.closeCursor id, out⟩ :: after) = id :: closedCursors after := rfl
  rw [closedCursors_append, here, List.count_append, List.count_cons_self] at once
  refine ⟨before, out, after, rfl, ?_, ?_, fun x hx => unfetched x (by simp [hx])⟩
  · exact List.count_eq_zero.1 (by omega)
  · exact List.count_eq_zero.1 (by omega)

/-- Calls before that do not close the cursor. -/
theorem behind (h : ClosedOnce id ys) (unclosed : id ∉ closedCursors xs) :
    ClosedOnce id (xs ++ ys) := by
  obtain ⟨before, out, after, rfl, unclosed', rest⟩ := h
  refine ⟨xs ++ before, out, after, by rw [List.append_assoc], ?_, rest⟩
  simp [unclosed, unclosed']

/-- Calls behind that neither close the cursor nor fetch from it. -/
theorem append (h : ClosedOnce id xs) (unclosed : id ∉ closedCursors ys)
    (unfetched : ∀ y ∈ ys, ¬ y.Fetches id) : ClosedOnce id (xs ++ ys) := by
  obtain ⟨before, out, after, rfl, unclosed', unclosedAfter, unfetchedAfter⟩ := h
  refine ⟨before, out, after ++ ys, by simp, unclosed', by simp [unclosedAfter, unclosed], ?_⟩
  intro x hx
  exact (List.mem_append.1 hx).elim (unfetchedAfter x) (unfetched x)

end ClosedOnce

/-- Calls on one object that close no cursor. -/
theorem EachLob.accounts (h : EachLob Cleared given xs) (plain : Plain xs) :
    Accounts [] given xs :=
  ⟨by rw [plain.cursors], h⟩

end SqlBinder
