import SqlBinder.Connection.Output
import SqlBinder.Proofs.Fallible

/-!
Lengths against the buffers of output binds. Text and bytes keep their length when they are decoded,
so measuring a wire value measures what would be handed out for it.

Only types of variable length have buffers, and each of them takes null, text, bytes and arrays
alone, so these are all that has to be looked at. Arrays are done element by element.
-/
namespace SqlBinder

open Binding

/-! ## Lengths -/

namespace DbType

variable {t : DbType} {o : ConvertOptions}

theorem bindLength_ofText (s : String) : (ofText s).bindLength = s.length := by
  unfold ofText
  split <;> simp_all [Value.bindLength]

theorem bindLength_ofBytes (b : List UInt8) : (ofBytes b).bindLength = b.length := by
  unfold ofBytes
  split <;> simp_all [Value.bindLength]

theorem ofText_ne_array (s : String) (vs : List Value) : ofText s ≠ .array vs := by
  unfold ofText
  split <;> simp

theorem ofBytes_ne_array (b : List UInt8) (vs : List Value) : ofBytes b ≠ .array vs := by
  unfold ofBytes
  split <;> simp

theorem decodeAll_eq_mapM (wires : List WireValue) :
    t.decodeAll o wires = wires.mapM (t.decode o) := by
  induction wires with
  | nil => rfl
  | cons w rest ih => rw [decodeAll, List.mapM_cons, ih]

theorem decodeAll_mem {wires : List WireValue} {vs : List Value}
    (h : t.decodeAll o wires = .ok vs) : ∀ v ∈ vs, ∃ w ∈ wires, t.decode o w = .ok v := by
  rw [decodeAll_eq_mapM] at h
  exact fun v member => Except.mem_of_mapM h member

/-- A type of variable length takes null, text, bytes and arrays, and loses nothing of them. -/
theorem decode_varies (varies : t.isVariableLength = true) {wire : WireValue} {v : Value}
    (h : t.decode o wire = .ok v) :
    (wire = .null ∧ v = .null) ∨ (∃ s, wire = .text s ∧ v = ofText s) ∨
      (∃ b, wire = .raw b ∧ v = ofBytes b) ∨
      ∃ wires vs, wire = .array wires ∧ v = .array vs ∧
        ∀ u ∈ vs, ∃ w ∈ wires, t.decode o w = .ok u := by
  have scalar : ∀ {w : WireValue}, t.decodeScalar o w = .ok v →
      (∃ s, w = .text s ∧ v = ofText s) ∨ ∃ b, w = .raw b ∧ v = ofBytes b := fun {w} decoded => by
    cases t <;> cases varies <;> cases w <;>
      simp only [decodeScalar, Except.throw_ne_ok] at decoded <;>
      simp [← Except.ok.inj decoded]
  cases wire with
  | null => exact .inl ⟨rfl, (Except.ok.inj h).symm⟩
  | array items =>
    obtain ⟨vs, each, rfl⟩ := Except.map_ok.1 h
    exact .inr (.inr (.inr ⟨items, vs, rfl, rfl, decodeAll_mem each⟩))
  | _ =>
    simp only [decode] at h
    exact .inr ((scalar h).imp_right .inl)

/-- Text and bytes keep their length when they are decoded. -/
theorem bindLength_decode (varies : t.isVariableLength = true) {wire : WireValue} {v : Value}
    (h : t.decode o wire = .ok v) : v.bindLength = wire.bufferLength := by
  rcases decode_varies varies h with ⟨rfl, rfl⟩ | ⟨s, rfl, rfl⟩ | ⟨b, rfl, rfl⟩ |
    ⟨wires, vs, rfl, rfl, -⟩
  · rfl
  · exact bindLength_ofText s
  · exact bindLength_ofBytes b
  · rfl

/-- An array comes from an array, element by element. -/
theorem decode_array (varies : t.isVariableLength = true) {wire : WireValue} {vs : List Value}
    (h : t.decode o wire = .ok (.array vs)) :
    ∃ wires, wire = .array wires ∧ ∀ v ∈ vs, ∃ w ∈ wires, t.decode o w = .ok v := by
  rcases decode_varies varies h with
    ⟨_, made⟩ | ⟨s, _, made⟩ | ⟨b, _, made⟩ | ⟨wires, _, rfl, made, each⟩
  · cases made
  · exact absurd made.symm (ofText_ne_array s vs)
  · exact absurd made.symm (ofBytes_ne_array b vs)
  · obtain rfl := Value.array.inj made
    exact ⟨wires, rfl, each⟩

end DbType

/-! ## Values within a buffer -/

/-- A wire value overflows if it is longer than a buffer of variable length, or one of its
elements is. -/
theorem Binding.Descriptor.overflows_iff {d : Descriptor} {wire : WireValue} :
    d.overflows wire = true ↔ d.promotedFrom = none ∧ d.dbType.isVariableLength = true ∧
      (d.maxSize < wire.bufferLength ∨
        ∃ items, wire = .array items ∧ ∃ x ∈ items, d.maxSize < x.bufferLength) := by
  unfold overflows
  split
  · rename_i exempt
    simp only [Bool.or_eq_true, Bool.not_eq_true', Option.isSome_iff_ne_none] at exempt
    constructor
    · simp
    · rintro ⟨whole, varies, -⟩
      rcases exempt with promoted | fixed
      · exact absurd whole promoted
      · simp [varies] at fixed
  · rename_i counts
    simp only [Bool.or_eq_true, Bool.not_eq_true', not_or, Bool.not_eq_true, Bool.not_eq_false,
      Option.isSome_eq_false_iff, Option.isNone_iff_eq_none] at counts
    cases wire with
    | array items =>
      have none : (WireValue.array items).bufferLength = 0 := rfl
      simp [counts, none]
    | _ => simp [counts]

/-- No text and no bytes are longer than the buffer, whether alone or in an array. What was sent
as a large object is measured alone. -/
structure OutValue.Fits (d : Descriptor) (v : OutValue) : Prop where
  varies : d.promotedFrom = none → d.dbType.isVariableLength = true → ∀ u, v = .value u →
    u.bindLength ≤ d.maxSize ∧ ∀ items, u = .array items → ∀ x ∈ items, x.bindLength ≤ d.maxSize
  promoted : d.promotedFrom.isSome = true → ∀ u, v = .value u → u.bindLength ≤ d.maxSize

theorem OutValue.fits_of_promoted {d : Descriptor} {u : Value}
    (promoted : d.promotedFrom.isSome = true) (short : u.bindLength ≤ d.maxSize) :
    (OutValue.value u).Fits d where
  varies whole := by simp [whole] at promoted
  promoted _ v same := OutValue.value.inj same ▸ short

/-- Handles pass every buffer. -/
theorem OutValue.fits_of_handle {d : Descriptor} {v : OutValue} (handle : ∀ u, v ≠ .value u) :
    v.Fits d where
  varies _ _ u plain := absurd plain (handle u)
  promoted _ u plain := absurd plain (handle u)

/-- A plain value that is not promoted fits as its wire value did. -/
theorem OutValue.fits_of_wire {d : Descriptor} {wire : WireValue} {u : Value} {o : ConvertOptions}
    (whole : d.promotedFrom.isSome = false) (small : d.overflows wire = false)
    (decoded : d.dbType.decode o wire = .ok u) : (OutValue.value u).Fits d where
  varies unpromoted varies v same := by
    obtain rfl := OutValue.value.inj same
    have within : ¬ (d.maxSize < wire.bufferLength ∨
        ∃ items, wire = .array items ∧ ∃ x ∈ items, d.maxSize < x.bufferLength) := fun long =>
      absurd (Descriptor.overflows_iff.2 ⟨unpromoted, varies, long⟩) (by simp [small])
    refine ⟨?_, ?_⟩
    · rw [DbType.bindLength_decode varies decoded]
      exact Nat.le_of_not_lt fun long => within (.inl long)
    · rintro items rfl x mem
      obtain ⟨wires, rfl, each⟩ := DbType.decode_array varies decoded
      obtain ⟨y, among, one⟩ := each x mem
      rw [DbType.bindLength_decode varies one]
      exact Nat.le_of_not_lt fun long => within (.inr ⟨wires, rfl, y, among, long⟩)
  promoted long := by simp [whole] at long

end SqlBinder
