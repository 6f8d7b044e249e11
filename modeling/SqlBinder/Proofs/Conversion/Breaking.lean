import SqlBinder.Proofs.Wire.Decoding
import SqlBinder.Conversion

/-!
Decoding that breaks off. A value can do that in two ways only: it is a date that is to become text
in a pattern that cannot be followed, or it is a number with more digits than 32 bits count. The
type it is decoded as makes no difference, and an array breaks off at one of its elements.

So the wire value and the settings decide, and what an operation was told by the session shows
whether it can have broken off. The converse is not claimed: a value of either sort may be refused
for another reason before it is come to.
-/
namespace SqlBinder

open Wire

/-- Decoding the wire value may break off. -/
inductive WireValue.Breaks (o : ConvertOptions) : WireValue → Prop where
  | date {b : List UInt8} (asText : o.asText .date = true ∨ o.asText .timestamp = true)
    (unfollowed : Calendar.items? o.datePattern.toList = none) : Breaks o (.date b)
  | number {b : List UInt8} (many : ¬Numeric.Countable b) : Breaks o (.number b)
  | element {items : List WireValue} {w : WireValue} (member : w ∈ items) (breaks : Breaks o w) :
    Breaks o (.array items)

/-- Decoding the wire value does not break off. -/
def WireValue.Sound (o : ConvertOptions) (wire : WireValue) : Prop := ¬wire.Breaks o

namespace DbType

variable {t : DbType} {o : ConvertOptions} {wire : WireValue}

theorem decodeNumber_brokenOff (broken : decodeNumber o wire = .error .brokenOff) :
    wire.Breaks o := by
  cases wire with
  | number b =>
    rw [decodeNumber, Except.bind_error] at broken
    rcases broken with broken | ⟨text, -, shown⟩
    · refine .number fun few => ?_
      by_cases malformed : Numeric.Malformed b
      · obtain ⟨m, refused⟩ := Numeric.decode_malformed malformed
        cases refused.symm.trans broken
      · obtain ⟨text, decoded, -⟩ := Numeric.decode_countable malformed few
        cases decoded.symm.trans broken
    · cases shown
  | _ => cases broken

/-- The date itself is refused or taken; what may break off is its text. -/
theorem decodeTemporal_brokenOff (broken : decodeTemporal o wire = .error .brokenOff) :
    wire.Breaks o := by
  cases wire with
  | date b =>
    cases decoded : Temporal.decodeTimestamp b with
    | error e => simp [decodeTemporal, decoded, bind, Except.bind] at broken
    | ok dt =>
      simp only [decodeTemporal, decoded, Fault.ofExcept_ok, Except.bind_error, reduceCtorEq,
        Except.ok.injEq, false_or, exists_eq_left'] at broken
      split at broken
      · next asText =>
        refine .date (by simpa using asText) ?_
        cases items : Calendar.items? o.datePattern.toList with
        | none => rfl
        | some items =>
          rw [Calendar.DateTime.render?, items] at broken
          cases broken
      · cases broken
  | _ => cases broken

theorem decodeFloat_ne_brokenOff : decodeFloat o wire ≠ .error .brokenOff := by
  cases wire <;> simp [decodeFloat, bind, Except.bind, throw, throwThe, MonadExceptOf.throw, pure,
    Except.pure]

theorem decodeScalar_brokenOff (broken : t.decodeScalar o wire = .error .brokenOff) :
    wire.Breaks o := by
  cases t with
  | number => exact decodeNumber_brokenOff broken
  | binaryInteger =>
    rw [decodeScalar, Except.bind_error] at broken
    rcases broken with broken | ⟨v, -, whole⟩
    · exact decodeNumber_brokenOff broken
    · cases v <;> cases whole
  | binaryFloat | binaryDouble => exact absurd broken decodeFloat_ne_brokenOff
  | date | timestamp => exact decodeTemporal_brokenOff broken
  | cursor =>
    cases wire with
    | cursor l =>
      rw [decodeScalar] at broken
      split at broken <;> cases broken
    | _ => cases broken
  | _ => cases wire <;> cases broken

mutual

/-- Only a value that may break off does. -/
theorem decode_brokenOff : ∀ {wire : WireValue}, t.decode o wire = .error .brokenOff →
    wire.Breaks o
  | .array items, broken => by
    rw [decode, Except.map_error] at broken
    obtain ⟨w, member, breaks⟩ := decodeAll_brokenOff broken
    exact .element member breaks
  | .null, broken => by
    rw [decode] at broken
    cases broken
  | .number _, broken | .double _, broken | .single _, broken | .text _, broken | .raw _, broken
  | .date _, broken | .boolean _, broken | .lob _, broken | .cursor _, broken => by
    rw [decode] at broken
    · exact decodeScalar_brokenOff broken
    · simp
    · simp

theorem decodeAll_brokenOff : ∀ {wires : List WireValue},
    decodeAll t o wires = .error .brokenOff → ∃ w ∈ wires, w.Breaks o
  | [], broken => by cases broken
  | w :: rest, broken => by
    simp only [decodeAll, Except.bind_error] at broken
    rcases broken with broken | ⟨v, -, broken | ⟨vs, -, made⟩⟩
    · exact ⟨w, List.mem_cons_self, decode_brokenOff broken⟩
    · obtain ⟨u, member, breaks⟩ := decodeAll_brokenOff broken
      exact ⟨u, List.mem_cons_of_mem w member, breaks⟩
    · cases made

end

theorem decode_ne_brokenOff (sound : wire.Sound o) : t.decode o wire ≠ .error .brokenOff :=
  fun broken => sound (decode_brokenOff broken)

end DbType

end SqlBinder
