import SqlBinder.Proofs.Binding.Shapes
import SqlBinder.Proofs.Connection.Overflow
import SqlBinder.Proofs.Statement.Coherence

/-!
Output binds by name. A name is looked for among the placeholders in its recorded form first, and
only then as it is spelled, without its colons. Among the output binds either form counts, colons
and all, and the first bind that has one of them is taken. So both come to the same bind unless an
output in front of it is recorded as the name is spelled, or the name is known by its spelling
only and has a colon in front.
-/
namespace SqlBinder

open Operation Binding

/-! ## Places of names -/

namespace Binding

variable {info : Statement.Info} {name : String} {i : Nat}

/-- The recorded form of a name stands nowhere in front of the place that the name denotes. -/
theorem recorded_not_in_front (accepted : placeOf info name = .ok i) {j : Nat} (earlier : j < i) :
    info.bindNames[j]? ≠ some (normalizeName name) := by
  unfold placeOf at accepted
  cases recorded : info.positionOf (normalizeName name) with
  | some k =>
    rw [recorded] at accepted
    obtain rfl := Except.ok.inj accepted
    exact (Statement.Info.positionOf_eq_some.1 recorded).2 j earlier
  | none => exact fun there =>
      Statement.Info.positionOf_eq_none.1 recorded (List.mem_of_getElem? there)

/-- Descriptors of binds by name are slotted by their placeholders. -/
theorem slot_of_named {params : List (String × Param)} {o : BindOptions} {ds : List Descriptor}
    (h : resolve info (.named params) o = .ok ds) {d : Descriptor} (mem : d ∈ ds) :
    d.slot = .name d.placeholder := by
  simp only [resolve, Except.bind_ok] at h
  obtain ⟨places, -, resolved⟩ := h
  obtain ⟨j, listed⟩ := List.mem_iff_getElem?.1 mem
  obtain ⟨placeholder, param, -, -, one⟩ := resolveNamed_each resolved j listed
  rw [resolveOne_slot one, resolveOne_placeholder one]

end Binding

/-! ## Output binds under a name -/

namespace ExecuteResult

/-- The output bind is recorded under the name, in either form. -/
def Matches (name : String) (b : OutBind) : Prop :=
  b.placeholder = normalizeName name ∨ b.placeholder = name

/-- Whatever is asked for under the name is the output bind of the slot, the only one there. -/
def RefersTo (r : ExecuteResult) (name : String) (slot : Slot) : Prop :=
  ∃ before b after, r.outBinds = before ++ b :: after ∧ b.slot = slot ∧
    (∀ x ∈ before ++ after, x.slot ≠ slot) ∧
    r.outBind? name = some b.value ∧ r.outValue? name = b.value.value? ∧
    r.takeOutBind name = (some b.value, { r with outBinds := before ++ after })

variable {r : ExecuteResult} {name : String} {before after : List OutBind} {b : OutBind}

theorem placeOf?_eq_some {j : Nat} : r.placeOf? name = some j ↔
    ∃ before b after, r.outBinds = before ++ b :: after ∧ before.length = j ∧ Matches name b ∧
      ∀ x ∈ before, ¬Matches name x := by
  simp only [placeOf?, List.findIdx?_eq_some_iff_getElem, Bool.or_eq_true, beq_iff_eq, Matches]
  constructor
  · rintro ⟨within, here, others⟩
    refine ⟨r.outBinds.take j, r.outBinds[j], r.outBinds.drop (j + 1), ?_, ?_, here, ?_⟩
    · rw [List.getElem_cons_drop, List.take_append_drop]
    · exact List.length_take_of_le within.le
    · intro x mem
      obtain ⟨k, bound, rfl⟩ := List.mem_iff_getElem.1 mem
      rw [List.getElem_take]
      exact others k (by simp at bound; omega)
  · rintro ⟨before, b, after, split, rfl, here, others⟩
    simp only [split]
    refine ⟨by simp, by simpa using here, fun k earlier => ?_⟩
    rw [List.getElem_append_left earlier]
    exact others _ (List.getElem_mem earlier)

/-- The first output bind that is recorded under the name is what the name stands for. -/
theorem refersTo_of_first (split : r.outBinds = before ++ b :: after)
    (alone : ∀ x ∈ before ++ after, x.slot ≠ b.slot) (here : Matches name b)
    (others : ∀ x ∈ before, ¬Matches name x) : r.RefersTo name b.slot := by
  have place : r.placeOf? name = some before.length :=
    placeOf?_eq_some.2 ⟨before, b, after, split, rfl, here, others⟩
  have found : r.outBinds[before.length]? = some b := by rw [split]; simp
  have left : r.outBinds.eraseIdx before.length = before ++ after := by
    rw [split, List.eraseIdx_append_of_length_le (Nat.le_refl _)]
    simp
  refine ⟨before, b, after, split, rfl, alone, ?_, ?_, ?_⟩
  · rw [outBind?, place, Option.bind_some, found]
    rfl
  · rw [outValue?, outBind?, place, Option.bind_some, found]
    rfl
  · rw [takeOutBind, place]
    dsimp only
    rw [found, left]
    rfl

/-- A name stands for the output bind of a slot only if that is the first one recorded under it:
handing over any other would leave the bind behind. -/
theorem first_of_refersTo (split : r.outBinds = before ++ b :: after)
    (refers : r.RefersTo name b.slot) : Matches name b ∧ ∀ x ∈ before, ¬Matches name x := by
  obtain ⟨before', b', after', -, -, gone, -, -, taken⟩ := refers
  cases place : r.placeOf? name with
  | none => simp [takeOutBind, place] at taken
  | some j =>
    simp only [takeOutBind, place, Prod.mk.injEq, ExecuteResult.mk.injEq, true_and, and_true]
      at taken
    obtain ⟨front, found, back, split', rfl, here, others⟩ := placeOf?_eq_some.1 place
    have left : r.outBinds.eraseIdx front.length = front ++ back := by
      rw [split', List.eraseIdx_append_of_length_le (Nat.le_refl _)]
      simp
    rw [left] at taken
    have absent : b ∉ front ++ back := fun mem => gone b (taken.2 ▸ mem) rfl
    rw [split] at split'
    obtain ⟨rfl, rfl, rfl⟩ : before = front ∧ b = found ∧ after = back := by
      rcases List.append_eq_append_iff.1 split' with ⟨between, rfl, rest⟩ | ⟨between, rfl, rest⟩
      · cases between with
        | nil => simpa using rest
        | cons x more =>
          obtain ⟨rfl, -⟩ := List.cons.inj rest
          exact absurd (by simp) absent
      · cases between with
        | nil => simpa [eq_comm] using rest
        | cons x more =>
          obtain ⟨-, rfl⟩ := List.cons.inj rest
          exact absurd (by simp) absent
    exact ⟨here, others⟩

end ExecuteResult

namespace Connection

variable {σ : Type} {host : Host σ} {c c' : Connection} {w w' : World σ}

/-- The output binds of an execution are those of its output descriptors, in order. -/
theorem execute_outputs {sql : String} {params : List (String × Param)} {o : ExecuteOptions}
    {r : ExecuteResult} (run : execute sql (.named params) o host c w = (.done r, c', w')) :
    ∃ ds, resolve (Statement.scan sql) (.named params) o.bind = .ok ds ∧
      r.outBinds.map (·.placeholder) = (outputs ds).map (·.placeholder) ∧
      ∀ b ∈ r.outBinds, b.slot = .name b.placeholder := by
  obtain ⟨ds, new, request, response, resolved, -, -, counted, each⟩ := execute_returned run
  have placeholders : List.Forall₂ Eq ((outputs ds).map (·.placeholder))
      (r.outBinds.map (·.placeholder)) := by
    rw [← List.map_fst_zip (Nat.le_of_eq counted.symm), List.map_map]
    exact List.forall₂_map_right_iff.2 (List.forall₂_map_left_iff.2
      (each.imp fun _ _ returns => returns.placeholder.symm))
  refine ⟨ds, resolved, (List.forall₂_eq_eq_eq ▸ placeholders : _ = _).symm, fun b mem => ?_⟩
  obtain ⟨⟨d, wire⟩, among, returns⟩ := exists_of_forall₂ each mem
  have descriptor : d ∈ ds := (List.mem_filter.1 (List.of_mem_zip among).1).1
  rw [returns.slot, returns.placeholder]
  exact slot_of_named resolved descriptor

/-- The output bind of an output descriptor stands behind those of the outputs in front. -/
theorem outBinds_split {r : ExecuteResult} {ds : List Descriptor} {i : Nat} {d : Descriptor}
    (placeholders : r.outBinds.map (·.placeholder) = (outputs ds).map (·.placeholder))
    (listed : ds[i]? = some d) (output : d.direction.isOutput = true) :
    ∃ before b after, r.outBinds = before ++ b :: after ∧ b.placeholder = d.placeholder ∧
      before.map (·.placeholder) = (outputs (ds.take i)).map (·.placeholder) := by
  obtain ⟨within, rfl⟩ := List.getElem?_eq_some_iff.1 listed
  have split : outputs ds = outputs (ds.take i) ++ ds[i] :: outputs (ds.drop (i + 1)) := by
    conv_lhs => rw [← List.take_append_drop i ds, ← List.getElem_cons_drop within]
    rw [outputs, List.filter_append, List.filter_cons, if_pos output]
    rfl
  rw [split, List.map_append, List.map_cons] at placeholders
  obtain ⟨before, rest, all, front, behind⟩ := List.map_eq_append_iff.1 placeholders
  obtain ⟨b, after, rfl, here, -⟩ := List.map_eq_cons_iff.1 behind
  exact ⟨before, b, after, all, here, front⟩

/-- Where slots are named by placeholders and each placeholder is there once, so is each slot. -/
theorem slot_alone {r : ExecuteResult} {before after : List OutBind} {b : OutBind}
    (split : r.outBinds = before ++ b :: after)
    (slots : ∀ b ∈ r.outBinds, b.slot = .name b.placeholder)
    (once : (r.outBinds.map (·.placeholder)).Nodup) : ∀ x ∈ before ++ after, x.slot ≠ b.slot := by
  rw [split, List.map_append, List.map_cons, List.nodup_middle, List.nodup_cons] at once
  intro x mem same
  have there : x ∈ r.outBinds := by
    rw [split]
    exact (List.Sublist.append_left (List.sublist_cons_self b after) before).subset mem
  rw [slots x there, slots b (by simp [split]), Slot.name.injEq] at same
  apply once.1
  rw [← same, ← List.map_append]
  exact List.mem_map_of_mem mem

/-- Behind an execution with binds by name, a name that denotes the place of an output stands for
the output bind of that very slot, and nothing else, exactly if the placeholder there is recorded
as the name in one of its forms, and no output in front of it as the name is spelled. -/
theorem names_refer_to_slots {sql : String} {params : List (String × Param)} {o : ExecuteOptions}
    {r : ExecuteResult} (run : execute sql (.named params) o host c w = (.done r, c', w')) :
    ∃ ds, resolve (Statement.scan sql) (.named params) o.bind = .ok ds ∧
      ∀ name i d, placeOf (Statement.scan sql) name = .ok i → ds[i]? = some d →
        d.direction.isOutput = true →
        (r.RefersTo name d.slot ↔
          (d.placeholder = normalizeName name ∨ d.placeholder = name) ∧
            ∀ e ∈ outputs (ds.take i), e.placeholder ≠ name) := by
  obtain ⟨ds, resolved, placeholders, slots⟩ := execute_outputs run
  refine ⟨ds, resolved, fun name i d accepted listed output => ?_⟩
  have names : ds.map (·.placeholder) = (Statement.scan sql).bindNames :=
    resolve_placeholders resolved
  have distinct : (ds.map (·.placeholder)).Nodup := by
    rw [names, Statement.bindNames_scan]
    exact nodup_eraseDups _
  obtain ⟨before, b, after, split, here, front⟩ := outBinds_split placeholders listed output
  have slot : d.slot = b.slot := by
    rw [slot_of_named resolved (List.mem_of_getElem? listed), slots b (by simp [split]), here]
  have alone : ∀ x ∈ before ++ after, x.slot ≠ b.slot := by
    apply slot_alone split slots
    rw [placeholders]
    exact distinct.sublist (List.filter_sublist.map _)
  -- The recorded form stands at no place in front, so only the spelling can be met there.
  have unrecorded : ∀ e ∈ ds.take i, e.placeholder ≠ normalizeName name := by
    intro e mem same
    obtain ⟨j, earlier, rfl⟩ := List.mem_take_iff_getElem.1 mem
    apply recorded_not_in_front accepted (j := j) (by omega)
    rw [← names, List.getElem?_map, List.getElem?_eq_getElem (by omega), ← same]
    rfl
  have met : (∀ x ∈ before, ¬ExecuteResult.Matches name x) ↔
      ∀ e ∈ outputs (ds.take i), e.placeholder ≠ name := by
    have alike : ∀ p : String, (∃ x ∈ before, x.placeholder = p) ↔
        ∃ e ∈ outputs (ds.take i), e.placeholder = p := by
      intro p
      rw [← List.mem_map, front, List.mem_map]
    constructor
    · intro none e mem same
      obtain ⟨x, mem, same⟩ := (alike name).2 ⟨e, mem, same⟩
      exact none x mem (.inr same)
    · rintro none x mem (recorded | spelled)
      · obtain ⟨e, mem, same⟩ := (alike _).1 ⟨x, mem, recorded⟩
        exact unrecorded e (List.mem_filter.1 mem).1 same
      · obtain ⟨e, mem, same⟩ := (alike _).1 ⟨x, mem, spelled⟩
        exact none e mem same
  rw [slot, ← here, ← met]
  exact ⟨ExecuteResult.first_of_refersTo split,
    fun first => ExecuteResult.refersTo_of_first split alone first.1 first.2⟩

/-- Outputs for two placeholders whose names differ in case only. -/
def bothCases : List (String × Param) :=
  [("\"a\"", .spec { direction := some .output }), ("a", .spec { direction := some .output })]

/-- Slot, placeholder and direction of each descriptor that binds resolve to. -/
def shapeOf (sql : String) (binds : Binds) : Option (List (Slot × String × Bool)) :=
  (resolve (Statement.scan sql) binds {}).toOption.map
    (List.map fun d => (d.slot, d.placeholder, d.direction.isOutput))

/-- Where the unquoted placeholder stands in front, each name refers to its own. -/
theorem both_cases_refer :
    ∃ r c' w', execute "begin p(:a, :\"a\"); end;" (.named bothCases) {}
        (reporting "" [.text "one", .text "two"]) first (opened ()) = (.done r, c', w') ∧
      r.RefersTo "a" (.name "A") ∧ r.RefersTo "\"a\"" (.name "a") := by
  have ends : donePassing (fun _ => true)
      (execute "begin p(:a, :\"a\"); end;" (.named bothCases) {}
        (reporting "" [.text "one", .text "two"]) first (opened ())) = true := by
    decide +kernel
  have shape : shapeOf "begin p(:a, :\"a\"); end;" (.named bothCases) =
      some [(.name "A", "A", true), (.name "a", "a", true)] := by
    decide +kernel
  obtain ⟨r, c', w', run, -⟩ := donePassing_iff.1 ends
  obtain ⟨ds, resolved, refers⟩ := names_refer_to_slots run
  rw [shapeOf, resolved] at shape
  obtain ⟨d₀, rest, rfl, head, tail⟩ := List.map_eq_cons_iff.1 (Option.some.inj shape)
  obtain ⟨d₁, none, rfl, second, -⟩ := List.map_eq_cons_iff.1 tail
  simp only [Prod.mk.injEq] at head second
  have unquoted := refers "a" 0 d₀ (by rfl) rfl head.2.2
  have quoted := refers "\"a\"" 1 d₁ (by rfl) rfl second.2.2
  rw [head.1, head.2.1] at unquoted
  rw [second.1, second.2.1] at quoted
  refine ⟨r, c', w', run, unquoted.2 ⟨.inl (by decide +kernel), by simp [outputs]⟩,
    quoted.2 ⟨.inl (by decide +kernel), ?_⟩⟩
  intro e mem
  have first : e ∈ [d₀] := (List.mem_filter.1 mem).1
  rw [List.mem_singleton.1 first, head.2.1]
  decide

/-- The texts among output binds, with their slots. -/
def textsBySlot (r : ExecuteResult) : List (Slot × Option String) :=
  r.outBinds.map fun b => (b.slot, b.value.value?.bind Value.text?)

/-- Where the quoted placeholder stands in front it is recorded as the other name is spelled, and
that name refers to it. And a name that is known by its spelling only is not found behind a
colon. -/
theorem name_refers_to_other_slot :
    (∃ r c' w', execute "begin p(:\"a\", :a); end;" (.named bothCases) {}
        (reporting "" [.text "one", .text "two"]) first (opened ()) = (.done r, c', w') ∧
      shapeOf "begin p(:\"a\", :a); end;" (.named bothCases) =
        some [(.name "a", "a", true), (.name "A", "A", true)] ∧
      placeOf (Statement.scan "begin p(:\"a\", :a); end;") "a" = .ok 1 ∧
      textsBySlot r = [(.name "a", some "one"), (.name "A", some "two")] ∧
      (r.outValue? "a").bind Value.text? = some "one" ∧ ¬r.RefersTo "a" (.name "A")) ∧
    ∃ r c' w', execute "begin p(:\"a\"); end;"
        (.named [(":a", .spec { direction := some .output })]) {} (reporting "" [.text "one"]) first
        (opened ()) = (.done r, c', w') ∧
      placeOf (Statement.scan "begin p(:\"a\"); end;") ":a" = .ok 0 ∧
      textsBySlot r = [(.name "a", some "one")] ∧ (r.outBind? ":a").isNone = true ∧
      ¬r.RefersTo ":a" (.name "a") := by
  have other : donePassing (fun r => textsBySlot r ==
        [(.name "a", some "one"), (.name "A", some "two")] &&
        (r.outValue? "a").bind Value.text? == some "one")
      (execute "begin p(:\"a\", :a); end;" (.named bothCases) {}
        (reporting "" [.text "one", .text "two"]) first (opened ())) = true := by
    decide +kernel
  have unfound : donePassing (fun r => textsBySlot r == [(.name "a", some "one")] &&
        (r.outBind? ":a").isNone)
      (execute "begin p(:\"a\"); end;" (.named [(":a", .spec { direction := some .output })]) {}
        (reporting "" [.text "one"]) first (opened ())) = true := by
    decide +kernel
  obtain ⟨r, c', w', run, passed⟩ := donePassing_iff.1 other
  obtain ⟨r₁, c₁, w₁, run₁, passed₁⟩ := donePassing_iff.1 unfound
  simp only [Bool.and_eq_true, beq_iff_eq] at passed passed₁
  refine ⟨⟨r, c', w', run, by decide +kernel, by rfl, passed.1, passed.2, ?_⟩,
    r₁, c₁, w₁, run₁, by rfl, passed₁.1, passed₁.2, ?_⟩
  · rintro ⟨before, b, after, split, slot, -, -, value, -⟩
    have among : (b.slot, b.value.value?.bind Value.text?) ∈ textsBySlot r :=
      List.mem_map_of_mem (by simp [split])
    rw [passed.1, ← value, passed.2, slot] at among
    simp at among
  · rintro ⟨before, b, after, -, -, -, found, -⟩
    rw [found] at passed₁
    exact absurd passed₁.2 (by simp)

end Connection

end SqlBinder
