import SqlBinder.Proofs.Binding.Descriptors
import SqlBinder.Proofs.Conversion.NotANumber

/-!
NaN in binds. Main statement: a NaN never goes to the server. A value with one in it has no wire
form, and a statement does not resolve with such a value for an input, as itself or in an array,
whatever type the bind has.

A value passes two gates on its way. Resolving a statement refuses a NaN before the type is looked
at, and encoding refuses whatever comes to it all the same; the first is followed from the value
that a bind sends to the descriptor of its placeholder.
-/
namespace SqlBinder

namespace Binding

open Statement

variable {info : Info} {o : BindOptions} {param : Param} {spec : Spec} {v : Value}

/-- The value that a bind sends: a bare one, or its attribute unless the bind is an output. -/
def Param.sent : Param → Option Value
  | .value v => some v
  | .spec s => if (s.direction.getD .input).isInput then s.value else none

theorem sentValue_of_sent (given : specOf param = .ok spec) (sent : param.sent = some v)
    (content : v.isNull = false) : sentValue (spec.direction.getD .input) spec = some v := by
  refine Option.filter_eq_some_iff.2 ⟨?_, by simp [content]⟩
  cases param with
  | value u =>
    obtain rfl := Except.ok.inj given
    exact sent
  | spec s =>
    obtain ⟨-, made⟩ := Except.ite_throw_ok.1 given
    obtain rfl := Except.ok.inj made
    exact sent

theorem placeOf_lt {name : String} {place : Nat} (h : placeOf info name = .ok place) :
    place < info.bindNames.length := by
  have within : ∀ {name' : String}, info.positionOf name' = some place →
      place < info.bindNames.length := fun found =>
    (List.findIdx?_eq_some_iff_getElem.1 found).1
  unfold placeOf at h
  split at h
  case h_1 i found =>
    obtain rfl := Except.ok.inj h
    exact (Option.or_eq_some_iff.1 found).elim within fun found => within found.2
  case h_2 => exact absurd h (Except.throw_ne_ok _ _)

/-- What is given for a placeholder of a statement that resolves has its descriptor. -/
theorem exists_descriptor {binds : Binds} {ds : List Descriptor} {i : Nat}
    (h : resolve info binds o = .ok ds) (given : binds.given info i = some param) :
    ∃ d, ds[i]? = some d := by
  have length : ds.length = info.bindNames.length := by
    rw [← resolve_placeholders h, List.length_map]
  suffices i < ds.length from ⟨ds[i], List.getElem?_eq_getElem this⟩
  rw [length]
  cases binds with
  | none => cases given
  | positional params =>
    simp only [resolve, Except.ite_throw_ok, not_not] at h
    exact h.1 ▸ (List.getElem?_eq_some_iff.1 given).1
  | named params =>
    obtain ⟨p, found, -⟩ := Option.map_eq_some_iff.1 given
    have denoted : (placeOf info p.1).toOption = some i := by simpa using List.find?_some found
    cases place : placeOf info p.1 with
    | error e => simp [place, Except.toOption] at denoted
    | ok j =>
      obtain rfl : j = i := by simpa [place, Except.toOption] using denoted
      exact placeOf_lt place

/-- A bind that resolves sends no NaN. -/
theorem not_hasNaN_of_resolveOne {placeholder : String} {position : Nat} {slot : Slot}
    {d : Descriptor} (h : resolveOne info placeholder position slot param o = .ok d)
    (sent : param.sent = some v) : ¬v.HasNaN := by
  intro nan
  obtain ⟨spec, t, given, -, direction, value, checked, -⟩ := resolveOne_promotes h
  have content : v.isNull = false := by cases nan <;> rfl
  have carried : d.value = some v := by
    rw [value, direction]
    exact sentValue_of_sent given sent content
  rcases checkValue_ok checked with ⟨limit, -, fits⟩ | ⟨-, -, -, validates⟩
  · -- Only an array can have the NaN here, and no element of it can be one.
    have elements := fits.fits
    rcases fits.flat with none | null | ⟨items, array⟩
    · cases none.symm.trans carried
    · obtain rfl := Option.some.inj (null.symm.trans carried)
      cases content
    · obtain rfl := Option.some.inj (array.symm.trans carried)
      rw [carried] at elements
      cases nan with
      | element member nan =>
        have validates := (elements _ member).validates
        rw [DbType.validates_eq_false nan] at validates
        cases validates
  · have validates := validates v carried
    rw [DbType.validates_eq_false nan] at validates
    cases validates

/-- No wire form has a NaN in it. A value with a NaN in it has none, with NaN as the error if and
only if the type is numeric and every element up to the one with the first NaN is encoded. A
statement does not resolve with such a value for an input. -/
theorem nan_is_never_sent (t : DbType) (convert : ConvertOptions) (v : Value) :
    (∀ w, t.encode convert v = .ok w → ¬w.HasNaN) ∧
    (v.HasNaN → ∃ e, t.encode convert v = .error e) ∧
    (t.encode convert v = .error .notANumber ↔ t.isNumeric = true ∧ t.ReachesNaN convert v) ∧
    (v.HasNaN → ∀ (info : Info) (binds : Binds) (o : BindOptions) (i : Nat) (param : Param),
      binds.given info i = some param → param.sent = some v →
        ∃ e, resolve info binds o = .error e) := by
  refine ⟨?_, DbType.encode_error_of_hasNaN, ⟨DbType.reachesNaN_of_encode v, ?_⟩, ?_⟩
  · intro w encoded nan
    exact DbType.encode_ne_of_hasNaN nan v encoded
  · rintro ⟨numeric, reaches⟩
    exact DbType.encode_of_reachesNaN numeric reaches
  · intro nan info binds o i param given sent
    cases resolved : resolve info binds o with
    | error e => exact ⟨e, rfl⟩
    | ok ds =>
      obtain ⟨d, place⟩ := exists_descriptor resolved given
      obtain ⟨name, slot, param', given', one⟩ := resolve_each resolved i place
      obtain rfl := Option.some.inj (given.symm.trans given')
      exact absurd nan (not_hasNaN_of_resolveOne one sent)

/-- A NaN behind an integer and null. -/
def lateNaN : Value := .array [.integer 1, .array [.null, .float ⟨0x7ff8000000000000⟩]]

/-- For an array of floats in both directions. -/
def lateNaNBinds : Binds :=
  .named [("a", .spec {
    direction := some .both
    dbType := some .binaryDouble
    value := some lateNaN
    maxArraySize := some 4 })]

theorem late_nan_is_never_sent :
    DbType.binaryDouble.encode {} lateNaN = .error .notANumber ∧
      (∃ e, DbType.clob.encode {} lateNaN = .error e) ∧
      (∃ e, resolve (scan "begin f(:a); end;") lateNaNBinds {} = .error e) ∧
      ¬(WireValue.array [.double ⟨0x3ff0000000000000⟩, .null]).HasNaN := by
  have nan : (⟨0x7ff8000000000000⟩ : Double).isNaN = true := by decide
  have inner : (Value.array [.null, .float ⟨0x7ff8000000000000⟩]).HasNaN :=
    .element (List.mem_cons_of_mem _ List.mem_cons_self) (.float nan)
  have inside : lateNaN.HasNaN := .element (List.mem_cons_of_mem _ List.mem_cons_self) inner
  have one : DbType.binaryDouble.encode {} (.integer 1) = .ok (.double ⟨0x3ff0000000000000⟩) := rfl
  have reaches : DbType.binaryDouble.ReachesNaN {}
      (.array ([.integer 1] ++ .array ([.null] ++ .float ⟨0x7ff8000000000000⟩ :: []) :: [])) :=
    .element (List.forall_mem_singleton.2 ⟨_, one⟩)
      (.element (List.forall_mem_singleton.2 ⟨_, rfl⟩) (.float nan))
  obtain ⟨-, -, refused, unresolved⟩ := nan_is_never_sent .binaryDouble {} lateNaN
  obtain ⟨-, anywhere, -⟩ := nan_is_never_sent .clob {} lateNaN
  refine ⟨refused.2 ⟨rfl, reaches⟩, anywhere inside, ?_, ?_⟩
  · exact unresolved inside (scan "begin f(:a); end;") lateNaNBinds {} 0 _ (by rfl) rfl
  · exact (nan_is_never_sent .binaryDouble {} (.array [.integer 1, .null])).1 _ rfl

end Binding

end SqlBinder
