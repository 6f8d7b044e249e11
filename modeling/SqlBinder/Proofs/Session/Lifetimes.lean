import SqlBinder.Proofs.Session.Account

/-!
Lifetimes of large objects. What is done with an object ends with the call that gives it back:
behind that call its content is not moved any more, and no handle on it is kept.

Calls on different objects do not disturb each other. So the lifetimes of objects that were
handed out once each are read off the calls on each of them.
-/
namespace SqlBinder

namespace Exchange

/-- The object whose content was moved or made visible, or was to be. -/
def usedLob? : Exchange → Option LobKey
  | ⟨.readLob l _ _, _⟩ | ⟨.writeLob l _ _, _⟩ | ⟨.commitLob l, _⟩ => some l.bytes
  | _ => none

end Exchange

/-- The objects that calls have used: read, written to or committed. -/
def usedLobs (xs : List Exchange) : List LobKey := xs.filterMap Exchange.usedLob?

variable {b : LobKey} {xs ys : List Exchange} {given given' held held' : List LobKey}

@[simp] theorem usedLobs_append (xs ys : List Exchange) :
    usedLobs (xs ++ ys) = usedLobs xs ++ usedLobs ys :=
  List.filterMap_append

/-- Calls that use one object and give nothing back. -/
theorem lobs_of_using (uses : ∀ x ∈ xs, x.usedLob? = some b ∧ x.closedLob? = none) :
    usedLobs xs ⊆ [b] ∧ closedLobs xs = [] := by
  refine ⟨fun key mem => ?_, List.filterMap_eq_nil_iff.2 fun x mem => (uses x mem).2⟩
  obtain ⟨x, hx, same⟩ := List.mem_filterMap.1 mem
  rw [(uses x hx).1] at same
  exact List.mem_singleton.2 (Option.some.inj same).symm

/-! ## One object -/

/-- Behind a call that gives the object back its content is left alone. -/
def ClosedLast (b : LobKey) (xs : List Exchange) : Prop :=
  xs.Pairwise fun x y => x.closedLob? = some b → y.usedLob? ≠ some b

namespace ClosedLast

theorem of_unclosed (h : b ∉ closedLobs xs) : ClosedLast b xs :=
  List.pairwise_of_forall_mem_list fun x hx _ _ closed =>
    (h (List.mem_filterMap.2 ⟨x, hx, closed⟩)).elim

theorem of_unused (h : b ∉ usedLobs xs) : ClosedLast b xs :=
  List.pairwise_of_forall_mem_list fun _ _ y hy _ used =>
    h (List.mem_filterMap.2 ⟨y, hy, used⟩)

theorem append (hx : ClosedLast b xs) (hy : ClosedLast b ys)
    (apart : b ∈ closedLobs xs → b ∉ usedLobs ys) : ClosedLast b (xs ++ ys) := by
  refine List.pairwise_append.2 ⟨hx, hy, fun x mem y mem' closed used => ?_⟩
  exact apart (List.mem_filterMap.2 ⟨x, mem, closed⟩) (List.mem_filterMap.2 ⟨y, mem', used⟩)

/-- First the object is used, then it is given back. -/
theorem using_closing (unclosed : b ∉ closedLobs xs) (unused : b ∉ usedLobs ys) :
    ClosedLast b (xs ++ ys) :=
  (of_unclosed unclosed).append (of_unused unused) fun closed => (unclosed closed).elim

/-- A call that neither uses nor closes an object. -/
theorem insert {x : Exchange} (unused : x.usedLob? = none) (unclosed : x.closedLob? = none)
    (h : ClosedLast b (xs ++ ys)) : ClosedLast b (xs ++ x :: ys) := by
  obtain ⟨hx, hy, apart⟩ := List.pairwise_append.1 h
  refine List.pairwise_append.2 ⟨hx, List.pairwise_cons.2 ⟨fun y _ closed => ?_, hy⟩, ?_⟩
  · simp [unclosed] at closed
  · intro y mem z mem'
    rcases List.mem_cons.1 mem' with rfl | mem'
    · simp [unused]
    · exact apart y mem z mem'

end ClosedLast

/-! ## All objects -/

/-- Calls on objects that were given or are handed out by them, and of which some are kept: no
other objects are used, given back or kept, and for those that were given or handed out but once
giving back is the end. -/
structure Lifetimes (given held : List LobKey) (xs : List Exchange) : Prop where
  used : usedLobs xs ⊆ given ++ handedLobs xs
  closed : closedLobs xs ⊆ given ++ handedLobs xs
  kept : held ⊆ given ++ handedLobs xs
  ends : ∀ b, (given ++ handedLobs xs).count b ≤ 1 →
    ClosedLast b xs ∧ (b ∈ held → b ∉ closedLobs xs)

namespace Lifetimes

theorem nil (h : held ⊆ given) : Lifetimes given held [] where
  used := by simp [usedLobs]
  closed := by simp [closedLobs]
  kept := by simpa [handedLobs] using h
  ends := fun _ _ => ⟨.nil, fun _ => by simp [closedLobs]⟩

/-- More objects may be given. -/
theorem more (h : Lifetimes given held xs) (sub : given.Subperm given') :
    Lifetimes given' held xs := by
  have wider : (given ++ handedLobs xs).Subperm (given' ++ handedLobs xs) :=
    sub.append (List.Subperm.refl _)
  exact {
    used := List.Subset.trans h.used wider.subset
    closed := List.Subset.trans h.closed wider.subset
    kept := List.Subset.trans h.kept wider.subset
    ends := fun b once => h.ends b (Nat.le_trans (wider.count_le b) once) }

/-- Calls on different objects, one group behind the other. -/
theorem append (hx : Lifetimes given held xs) (hy : Lifetimes given' held' ys) :
    Lifetimes (given ++ given') (held ++ held') (xs ++ ys) := by
  have all : (given ++ given' ++ handedLobs (xs ++ ys)).Perm
      ((given ++ handedLobs xs) ++ (given' ++ handedLobs ys)) := by
    rw [handedLobs_append, List.append_assoc, List.append_assoc]
    refine List.Perm.append_left given ?_
    rw [← List.append_assoc, ← List.append_assoc]
    exact List.perm_append_comm.append_right _
  have first : given ++ handedLobs xs ⊆ given ++ given' ++ handedLobs (xs ++ ys) :=
    List.Subset.trans (List.subset_append_left _ _) all.symm.subset
  have second : given' ++ handedLobs ys ⊆ given ++ given' ++ handedLobs (xs ++ ys) :=
    List.Subset.trans (List.subset_append_right _ _) all.symm.subset
  refine ⟨?_, ?_, ?_, fun b once => ?_⟩
  · rw [usedLobs_append]
    exact List.append_subset.2
      ⟨List.Subset.trans hx.used first, List.Subset.trans hy.used second⟩
  · rw [closedLobs_append]
    exact List.append_subset.2
      ⟨List.Subset.trans hx.closed first, List.Subset.trans hy.closed second⟩
  · exact List.append_subset.2
      ⟨List.Subset.trans hx.kept first, List.Subset.trans hy.kept second⟩
  rw [all.count_eq, List.count_append] at once
  obtain ⟨last, keeps⟩ := hx.ends b (by omega)
  obtain ⟨last', keeps'⟩ := hy.ends b (by omega)
  -- One of the groups knows nothing of the object.
  have apart : b ∈ given ++ handedLobs xs → b ∉ given' ++ handedLobs ys := by
    intro mem mem'
    have some := List.count_pos_iff.2 mem
    have some' := List.count_pos_iff.2 mem'
    omega
  refine ⟨last.append last' fun closed used => apart (hx.closed closed) (hy.used used), ?_⟩
  intro keep closed
  rw [closedLobs_append] at closed
  rcases List.mem_append.1 keep with keep | keep <;>
    rcases List.mem_append.1 closed with closed | closed
  · exact keeps keep closed
  · exact apart (hx.kept keep) (hy.closed closed)
  · exact apart (hx.closed closed) (hy.kept keep)
  · exact keeps' keep closed

/-- A call that may hand objects out, and neither uses nor closes any. -/
theorem insert {x : Exchange} (unused : x.usedLob? = none) (unclosed : x.closedLob? = none)
    (h : Lifetimes (given ++ x.handed) held (xs ++ ys)) :
    Lifetimes given held (xs ++ x :: ys) := by
  have all : (given ++ handedLobs (xs ++ x :: ys)).Perm
      (given ++ x.handed ++ handedLobs (xs ++ ys)) := by
    rw [List.append_assoc]
    refine List.Perm.append_left given ?_
    simp only [handedLobs, List.flatMap_append, List.flatMap_cons, ← List.append_assoc]
    exact List.perm_append_comm.append_right _
  have used : usedLobs (xs ++ x :: ys) = usedLobs (xs ++ ys) := by
    simp [usedLobs, unused]
  have closed : closedLobs (xs ++ x :: ys) = closedLobs (xs ++ ys) := by
    simp [closedLobs, unclosed]
  refine ⟨?_, ?_, List.Subset.trans h.kept all.symm.subset, fun b once => ?_⟩
  · rw [used]
    exact List.Subset.trans h.used all.symm.subset
  · rw [closed]
    exact List.Subset.trans h.closed all.symm.subset
  · obtain ⟨last, keeps⟩ := h.ends b (all.count_eq b ▸ once)
    exact ⟨last.insert unused unclosed, by rwa [closed]⟩

/-- A call at the end that may hand objects out, and neither uses nor closes any. -/
theorem concat {x : Exchange} (unused : x.usedLob? = none) (unclosed : x.closedLob? = none)
    (handed : x.handed = []) (h : Lifetimes given held xs) : Lifetimes given held (xs ++ [x]) :=
  insert unused unclosed (by rwa [handed, List.append_nil, List.append_nil])

end Lifetimes

end SqlBinder
