import SqlBinder.Proofs.Binding.Placeholders

/-!
What every descriptor of a resolved statement satisfies. A value is of the type its bind
had before a long one became a large object, an array keeps its limit, and the buffer has
room for the value and for what the caller declared. Encoding, the buffers of outputs and
the sending of large objects rely on all of it at once.
-/
namespace SqlBinder

namespace Binding

open Statement

variable {info : Info} {o : BindOptions} {direction : Direction} {t : DbType} {spec : Spec}
  {value : Option Value} {slot : Slot} {declared : Option Nat} {limit size : Nat}

/-! ## Values and elements -/

theorem checkScalar_ok {v : Value} (h : checkScalar t v slot = .ok ()) : t.validates v = true := by
  simp only [checkScalar, Except.ite_throw_bind_ok, Except.ite_throw_ok] at h
  simpa using h.2.1

/-- An element that an array bind of the type takes: no array or object in turn. -/
structure ElementFits (t : DbType) (v : Value) : Prop where
  not_array : ∀ items, v ≠ .array items
  not_object : ∀ fields, v ≠ .object fields
  validates : t.validates v = true

theorem checkElement_ok {index : Nat} {v : Value}
    (h : checkElement t declared slot index v = .ok ()) : ElementFits t v := by
  cases v <;>
    simp only [checkElement, Except.bind_ok, Except.throw_ne_ok, Except.ite_throw_bind_ok,
      false_and, exists_false] at h <;>
    exact ⟨by simp, by simp, by simpa using h.2.1⟩

theorem checkElements_ok {index : Nat} {items : List Value}
    (h : checkElements t declared slot index items = .ok ()) : ∀ v ∈ items, ElementFits t v := by
  induction items generalizing index with
  | nil => simp
  | cons v rest ih =>
    simp only [checkElements, Except.bind_ok] at h
    obtain ⟨u, first, others⟩ := h
    exact List.forall_mem_cons.2 ⟨checkElement_ok first, ih others⟩

/-! ## Arrays -/

/-- The elements of a value; only an array has any. -/
def elements : Option Value → List Value
  | some (.array items) => items
  | _ => []

/-- An array bind of the type, with at most so many elements. -/
structure ArrayFits (direction : Direction) (t : DbType) (value : Option Value) (limit : Nat) :
    Prop where
  not_lob : t.isLob = false
  not_cursor : t ≠ .cursor
  flat : value = none ∨ value = some .null ∨ ∃ items, value = some (.array items)
  within : direction.isInput = true → (elements value).length ≤ limit
  fits : ∀ v ∈ elements value, ElementFits t v
  room : direction.isOutput = true → 0 < limit

theorem arrayItems_ok {items : List Value} (h : arrayItems value slot = .ok items) :
    elements value = items ∧
      (value = none ∨ value = some .null ∨ ∃ items, value = some (.array items)) := by
  unfold arrayItems at h
  split at h
  · exact ⟨Except.ok.inj h, .inr (.inr ⟨_, rfl⟩)⟩
  · exact ⟨Except.ok.inj h, .inr (.inl rfl)⟩
  · exact ⟨Except.ok.inj h, .inl rfl⟩
  · exact absurd h (Except.throw_ne_ok _ _)

theorem arrayLimit_room {length : Nat} (h : arrayLimit direction declared length = .ok limit)
    (output : direction.isOutput = true) : 0 < limit := by
  unfold arrayLimit at h
  split at h
  · simp [output] at h
  · rename_i n some_zero
    obtain rfl := Except.ok.inj h
    exact Nat.pos_of_ne_zero fun zero => some_zero (by rw [zero])
  · simp [output] at h

theorem checkArray_ok (h : checkArray direction t spec value slot = .ok limit) :
    ArrayFits direction t value limit := by
  simp only [checkArray, Except.ite_throw_bind_ok, Except.bind_ok] at h
  obtain ⟨kind, items, taken, n, limited, short, u, each, made⟩ := h
  obtain rfl := Except.ok.inj made
  obtain ⟨rfl, flat⟩ := arrayItems_ok taken
  simp only [Bool.or_eq_true, beq_iff_eq, not_or, Bool.not_eq_true] at kind
  exact {
    not_lob := kind.1
    not_cursor := kind.2
    flat := flat
    within := fun input => by simpa [input] using short
    fits := checkElements_ok each
    room := arrayLimit_room limited }

/-- The value of a bind is checked as an array or by itself. -/
theorem checkValue_ok {limit : Option Nat}
    (h : checkValue direction t spec value slot = .ok limit) :
    (∃ n, limit = some n ∧ ArrayFits direction t value n) ∨
    (limit = none ∧ spec.maxArraySize = none ∧ isArrayValue value = false ∧
      ∀ v, value = some v → t.validates v = true) := by
  unfold checkValue at h
  split at h
  · obtain ⟨n, checked, made⟩ := Except.map_ok.1 h
    exact .inl ⟨n, made.symm, checkArray_ok checked⟩
  · rename_i single
    simp only [Bool.or_eq_true, not_or, Bool.not_eq_true, Option.isSome_eq_false_iff,
      Option.isNone_iff_eq_none] at single
    refine .inr ?_
    cases value with
    | none => exact ⟨(Except.ok.inj h).symm, single.1, single.2, by simp⟩
    | some v =>
      obtain ⟨u, checked, made⟩ := Except.map_ok.1 h
      exact ⟨made.symm, single.1, single.2, by simpa using checkScalar_ok checked⟩

/-! ## Buffers -/

theorem foldl_max_le {l : List Nat} {start a : Nat} (h : l.foldl max start ≤ a) :
    start ≤ a ∧ ∀ b ∈ l, b ≤ a := by
  induction l generalizing start with
  | nil => exact ⟨h, by simp⟩
  | cons b rest ih =>
    obtain ⟨front, others⟩ := ih h
    exact ⟨(Nat.max_le.1 front).1, List.forall_mem_cons.2 ⟨(Nat.max_le.1 front).2, others⟩⟩

/-- A size that the longest length does not pass is enough for the value and each element. -/
theorem longest_le (h : longest value ≤ size) :
    (∀ v, value = some v → v.bindLength ≤ size) ∧ ∀ v ∈ elements value, v.bindLength ≤ size := by
  rcases value with _ | v
  · exact ⟨by simp, by simp [elements]⟩
  · cases v with
    | array items =>
      refine ⟨fun v given => ?_, fun v hv => (foldl_max_le h).2 _ (List.mem_map_of_mem hv)⟩
      obtain rfl := Option.some.inj given
      exact Nat.zero_le _
    | _ => exact ⟨fun v given => Option.some.inj given ▸ h, by simp [elements]⟩

/-- A buffer of variable length holds one unit, the value, and what the caller declared. -/
theorem bufferSize_ok (h : bufferSize direction t declared value slot o = .ok size)
    (varies : t.isVariableLength = true) :
    1 ≤ size ∧ longest value ≤ size ∧ ∀ n, declared = some n → n ≤ size := by
  simp only [bufferSize, varies, Bool.not_true, Bool.false_eq_true, if_false] at h
  split at h
  · obtain rfl := Except.ok.inj h
    refine ⟨by omega, by omega, ?_⟩
    rintro n rfl
    simp only [Option.getD_some]
    omega
  · exact absurd h (Except.throw_ne_ok _ _)
  · obtain rfl := Except.ok.inj h
    refine ⟨by omega, by omega, ?_⟩
    rintro n ⟨⟩
    omega
  · obtain rfl := Except.ok.inj h
    exact ⟨by omega, by omega, by simp⟩

theorem bufferSize_fixed (h : bufferSize direction t declared value slot o = .ok size)
    (fixed : t.isVariableLength = false) : size = 0 := by
  simp only [bufferSize, fixed, Bool.not_false, if_true] at h
  exact (Except.ok.inj h).symm

/-! ## Promotion -/

/-- Exactly the types of variable length have a large object type to go to. -/
theorem promoted?_isSome : (promoted? t).isSome = t.isVariableLength := by
  cases t <;> rfl

theorem promotion?_isSome {isArray : Bool} :
    (promotion? info o t isArray size).isSome = true ↔
      info.isPlsql = true ∧ isArray = false ∧ t.isVariableLength = true ∧
        o.blockStringLimit < size := by
  unfold promotion?
  split
  · rename_i long
    simp only [Bool.and_eq_true, Bool.not_eq_true', decide_eq_true_eq] at long
    simp [promoted?_isSome, long]
  · rename_i short
    simp only [Bool.and_eq_true, Bool.not_eq_true', decide_eq_true_eq] at short
    simp only [Option.isSome_none, Bool.false_eq_true, false_iff]
    exact fun ⟨block, single, _, long⟩ => short ⟨⟨block, single⟩, long⟩

theorem promotion?_eq {isArray : Bool} {large : DbType}
    (h : promotion? info o t isArray size = some large) : promoted? t = some large := by
  unfold promotion? at h
  split at h
  · exact h
  · cases h

/-! ## One bind -/

theorem sentValue_output : sentValue .output spec = none := rfl

theorem sentValue_some {v : Value} (h : sentValue direction spec = some v) :
    spec.value = some v ∧ (v.isNull = false ∨ spec.maxArraySize.isSome = true) := by
  obtain ⟨sent, kept⟩ := Option.filter_eq_some_iff.1 h
  refine ⟨?_, by simpa using kept⟩
  split at sent
  · exact sent
  · cases sent

theorem checkBindable_ok {position : Nat} (h : checkBindable spec position = .ok ())
    (fields : List (String × Value)) : spec.value ≠ some (.object fields) := by
  rintro object
  simp [checkBindable, object, isObject] at h

/-- The size that a caller declares for a buffer. -/
def Param.declaredSize : Param → Option Nat
  | .value _ => none
  | .spec s => s.maxSize

theorem specOf_maxSize {param : Param} (h : specOf param = .ok spec) :
    spec.maxSize = param.declaredSize := by
  cases param with
  | value v =>
    obtain rfl := Except.ok.inj h
    rfl
  | spec s =>
    obtain ⟨-, made⟩ := Except.ite_throw_ok.1 h
    obtain rfl := Except.ok.inj made
    rfl

/-- The type of the values of a bind: the one it had before it became a large object. -/
def Descriptor.valueType (d : Descriptor) : DbType := d.promotedFrom.getD d.dbType

/-- The bind has a buffer whose size counts: of variable length, or sent as a large object
in place of one. -/
def Descriptor.isSized (d : Descriptor) : Bool :=
  d.dbType.isVariableLength || d.promotedFrom.isSome

/-- What a descriptor satisfies by the time a bind is resolved. -/
structure Descriptor.Settled (info : Info) (o : BindOptions) (param : Param) (d : Descriptor) :
    Prop where
  /-- Outputs send nothing. -/
  output : d.direction = .output → d.value = none
  not_object : ∀ fields, d.value ≠ some (.object fields)
  single : d.maxArraySize = none → ∀ v, d.value = some v →
    v ≠ .null ∧ (∀ items, v ≠ .array items) ∧ d.valueType.validates v = true
  not_lob : d.maxArraySize.isSome = true → d.dbType.isLob = false ∧ d.dbType ≠ .cursor
  /-- An array bind sends an array or nothing, within its limit and flat. -/
  array : ∀ limit, d.maxArraySize = some limit →
    (d.value = none ∨ d.value = some .null ∨ ∃ items, d.value = some (.array items)) ∧
      (elements d.value).length ≤ limit ∧ ∀ v ∈ elements d.value, ElementFits d.valueType v
  array_room : ∀ limit, d.maxArraySize = some limit → d.direction.isOutput = true → 0 < limit
  /-- The buffer has room for one unit, the value, each element and what was declared. -/
  sized : d.isSized = true → 1 ≤ d.maxSize ∧ (∀ v, d.value = some v → v.bindLength ≤ d.maxSize) ∧
    (∀ v ∈ elements d.value, v.bindLength ≤ d.maxSize) ∧
    ∀ n, param.declaredSize = some n → n ≤ d.maxSize
  unsized : d.isSized = false → d.maxSize = 0
  /-- Just the long strings and raws of a block become large objects. -/
  promoted : d.promotedFrom.isSome = true ↔ info.isPlsql = true ∧ d.maxArraySize = none ∧
    d.valueType.isVariableLength = true ∧ o.blockStringLimit < d.maxSize
  /-- The large object type that follows from the type before. -/
  large : ∀ t, d.promotedFrom = some t → promoted? t = some d.dbType

/-- A long value goes as a large object of its type, with the buffer it would have had. -/
structure Descriptor.Promotes (info : Info) (o : BindOptions) (t : DbType) (d : Descriptor) :
    Prop where
  valueType : d.valueType = t
  isSized : d.isSized = t.isVariableLength
  unpromoted : d.promotedFrom = none → d.dbType = t
  promoted : d.promotedFrom.isSome = true ↔ info.isPlsql = true ∧ d.maxArraySize = none ∧
    t.isVariableLength = true ∧ o.blockStringLimit < d.maxSize
  large : ∀ s, d.promotedFrom = some s → promoted? s = some d.dbType

theorem resolveOne_promotes {placeholder : String} {position : Nat} {param : Param}
    {d : Descriptor} (h : resolveOne info placeholder position slot param o = .ok d) :
    ∃ spec t, specOf param = .ok spec ∧ checkBindable spec position = .ok () ∧
      d.direction = spec.direction.getD .input ∧ d.value = sentValue d.direction spec ∧
      checkValue d.direction t spec d.value slot = .ok d.maxArraySize ∧
      bufferSize d.direction t spec.maxSize d.value slot o = .ok d.maxSize ∧
      d.Promotes info o t := by
  simp only [resolveOne, Except.bind_ok] at h
  obtain ⟨spec, given, u, bindable, t, typed, limit, checked, size, room, made⟩ := h
  obtain rfl := Except.ok.inj made
  refine ⟨spec, t, given, bindable, rfl, rfl, checked, room, ?_⟩
  have fires := @promotion?_isSome info o t size limit.isSome
  cases promotes : promotion? info o t limit.isSome size with
  | none =>
    simp only [promotes, Option.isSome_none, Bool.false_eq_true, false_iff] at fires
    exact {
      valueType := rfl
      isSized := by simp [Descriptor.isSized]
      unpromoted := fun _ => rfl
      promoted := by simpa using fires
      large := by simp }
  | some large =>
    have kind := promotion?_eq promotes
    simp only [promotes, Option.isSome_some, true_iff] at fires
    exact {
      valueType := rfl
      isSized := by simp [Descriptor.isSized, fires.2.2.1]
      unpromoted := by simp
      promoted := by simpa using fires
      large := by
        rintro s ⟨⟩
        exact kind }

/-- One bind that resolves is settled. -/
theorem resolveOne_settled {placeholder : String} {position : Nat} {param : Param}
    {d : Descriptor} (h : resolveOne info placeholder position slot param o = .ok d) :
    d.Settled info o param := by
  obtain ⟨spec, t, given, bindable, direction, value, checked, room, promotes⟩ :=
    resolveOne_promotes h
  have sent : ∀ v, d.value = some v → spec.value = some v ∧
      (v.isNull = false ∨ spec.maxArraySize.isSome = true) := fun v hv =>
    sentValue_some (value.symm.trans hv)
  have arrays : ∀ limit, d.maxArraySize = some limit →
      ArrayFits d.direction t d.value limit := by
    intro limit some_limit
    rcases checkValue_ok checked with ⟨n, some_n, fits⟩ | ⟨none, -⟩
    · obtain rfl := Option.some.inj (some_n.symm.trans some_limit)
      exact fits
    · cases none.symm.trans some_limit
  have outputs : d.direction = .output → d.value = none := fun output => by
    rw [value, output, sentValue_output]
  exact {
    output := outputs
    not_object := fun fields hv => checkBindable_ok bindable fields (sent _ hv).1
    single := by
      intro single v hv
      rcases checkValue_ok checked with ⟨n, some_n, -⟩ | ⟨-, plain, notArray, validates⟩
      · cases some_n.symm.trans single
      · refine ⟨?_, ?_, promotes.valueType ▸ validates v hv⟩
        -- Null is kept for array binds alone.
        · rintro rfl
          simpa [plain, Value.isNull] using (sent _ hv).2
        · rintro items rfl
          simp [hv, isArrayValue] at notArray
    not_lob := by
      intro array
      obtain ⟨limit, some_limit⟩ := Option.isSome_iff_exists.1 array
      -- Arrays are never promoted, so the type is still the one that was checked.
      have whole : d.promotedFrom = none := by
        refine Option.not_isSome_iff_eq_none.1 fun large => ?_
        cases (promotes.promoted.1 large).2.1.symm.trans some_limit
      rw [promotes.unpromoted whole]
      exact ⟨(arrays limit some_limit).not_lob, (arrays limit some_limit).not_cursor⟩
    array := by
      intro limit some_limit
      have fits := arrays limit some_limit
      -- The limit is checked for inputs; an output has no elements.
      refine ⟨fits.flat, ?_, promotes.valueType ▸ fits.fits⟩
      cases way : d.direction with
      | output => simp [outputs way, elements]
      | input => exact fits.within (by rw [way]; rfl)
      | both => exact fits.within (by rw [way]; rfl)
    array_room := fun limit some_limit => (arrays limit some_limit).room
    sized := by
      intro sized
      obtain ⟨one, longest, declared⟩ := bufferSize_ok room (promotes.isSized ▸ sized)
      exact ⟨one, (longest_le longest).1, (longest_le longest).2, specOf_maxSize given ▸ declared⟩
    unsized := fun unsized => bufferSize_fixed room (promotes.isSized ▸ unsized)
    promoted := promotes.valueType.symm ▸ promotes.promoted
    large := promotes.large }

/-! ## All binds -/

theorem resolvePositional_each {position : Nat} {params : List (String × Param)}
    {ds : List Descriptor} (h : resolvePositional info o position params = .ok ds) (i : Nat)
    {d : Descriptor} (hd : ds[i]? = some d) :
    ∃ p, params[i]? = some p ∧
      resolveOne info p.1 (position + i) (.position (position + i)) p.2 o = .ok d := by
  induction params generalizing position ds i with
  | nil =>
    obtain rfl := Except.ok.inj h
    cases hd
  | cons p rest ih =>
    simp only [resolvePositional, Except.bind_ok] at h
    obtain ⟨u, -, first, one, others, behind, made⟩ := h
    obtain rfl := Except.ok.inj made
    cases i with
    | zero =>
      obtain rfl := Option.some.inj hd
      exact ⟨p, rfl, one⟩
    | succ i =>
      obtain ⟨p, at_i, resolved⟩ := ih behind i hd
      rw [show position + 1 + i = position + (i + 1) by omega] at resolved
      exact ⟨p, at_i, resolved⟩

theorem resolveNamed_each {params : List (Nat × Param)} {place : Nat} {names : List String}
    {ds : List Descriptor} (h : resolveNamed info o params place names = .ok ds) (i : Nat)
    {d : Descriptor} (hd : ds[i]? = some d) :
    ∃ name param, names[i]? = some name ∧ lastAt (place + i) params = some param ∧
      resolveOne info name (place + i + 1) (.name name) param o = .ok d := by
  induction names generalizing place ds i with
  | nil =>
    obtain rfl := Except.ok.inj h
    cases hd
  | cons name rest ih =>
    rw [resolveNamed] at h
    cases last : lastAt place params with
    | none => simp [last] at h
    | some param =>
      simp only [last, Except.bind_ok] at h
      obtain ⟨first, one, others, behind, made⟩ := h
      obtain rfl := Except.ok.inj made
      cases i with
      | zero =>
        obtain rfl := Option.some.inj hd
        exact ⟨name, param, rfl, last, one⟩
      | succ i =>
        obtain ⟨name, param, at_i, last, resolved⟩ := ih behind i hd
        rw [show place + 1 + i = place + (i + 1) by omega] at last resolved
        exact ⟨name, param, at_i, last, resolved⟩

/-- What a caller gives for the placeholder at a place: the bind at that position, or the
last one whose name denotes it. -/
def Binds.given (info : Info) : Binds → Nat → Option Param
  | .none, _ => Option.none
  | .positional params, place => params[place]?
  | .named params, place =>
    (params.reverse.find? fun p => (placeOf info p.1).toOption == some place).map (·.2)

theorem lastAt_placed {params : List (String × Param)} {places : List (Nat × Param)}
    (h : placed info params = .ok places) (place : Nat) :
    lastAt place places = (Binds.named params).given info place := by
  induction params generalizing places with
  | nil =>
    obtain rfl := Except.ok.inj h
    rfl
  | cons p rest ih =>
    simp only [placed, Except.bind_ok] at h
    obtain ⟨i, denoted, others, behind, made⟩ := h
    obtain rfl := Except.ok.inj made
    have tail := ih behind
    simp only [lastAt, Binds.given] at tail ⊢
    rw [List.reverse_cons, List.reverse_cons, List.find?_append, List.find?_append,
      Option.map_or, Option.map_or, tail]
    congr 1
    simp only [List.find?_singleton, denoted, Except.toOption]
    by_cases here : i = place <;> simp [here]

/-- Each descriptor is that of the bind given for its placeholder. -/
theorem resolve_each {binds : Binds} {ds : List Descriptor} (h : resolve info binds o = .ok ds)
    (i : Nat) {d : Descriptor} (hd : ds[i]? = some d) :
    ∃ name slot param, binds.given info i = some param ∧
      resolveOne info name (i + 1) slot param o = .ok d := by
  cases binds with
  | none =>
    cases names : info.bindNames with
    | nil =>
      simp only [resolve, names] at h
      obtain rfl := Except.ok.inj h
      cases hd
    | cons first rest => simp [resolve, names] at h
  | positional params =>
    simp only [resolve, Except.ite_throw_ok] at h
    obtain ⟨p, at_i, resolved⟩ := resolvePositional_each h.2 i hd
    obtain ⟨-, given⟩ := List.getElem?_zip_eq_some.1 at_i
    exact ⟨_, _, p.2, given, by rwa [Nat.add_comm] at resolved⟩
  | named params =>
    simp only [resolve, Except.bind_ok] at h
    obtain ⟨places, denoted, resolved⟩ := h
    obtain ⟨name, param, -, last, one⟩ := resolveNamed_each resolved i hd
    rw [Nat.zero_add, lastAt_placed denoted] at last
    exact ⟨name, _, param, last, by rwa [Nat.zero_add] at one⟩

/-- Binds that resolve against a statement have one descriptor for each distinct
placeholder, in the order of first occurrence, each settled for the bind given for it. -/
theorem resolve_settles (sql : String) (binds : Binds) (o : BindOptions) (ds : List Descriptor)
    (h : resolve (scan sql) binds o = .ok ds) :
    ds.map (·.placeholder) = ((scan sql).occurrences.map (·.name)).eraseDups ∧
    ∀ i d, ds[i]? = some d →
      ∃ param, binds.given (scan sql) i = some param ∧ d.Settled (scan sql) o param := by
  refine ⟨(resolve_placeholders h).trans (bindNames_scan sql), fun i d hd => ?_⟩
  obtain ⟨name, slot, param, given, one⟩ := resolve_each h i hd
  exact ⟨param, given, resolveOne_settled one⟩

/-- A string too long for the block that takes it, and an array with room for one more. -/
def blockBinds : Binds :=
  .positional [
    .spec { direction := some .both, value := some (.string "hello"), maxSize := some 2 },
    .spec { direction := some .both, value := some (.array [.integer 1, .null])
            maxArraySize := some 3 }]

theorem blockBinds_settle :
    ∃ ds, resolve (scan "begin f(:b, :a); end;") blockBinds { blockStringLimit := 4 } = .ok ds ∧
      ds.map (fun d => (d.dbType, d.maxSize, d.maxArraySize, d.promotedFrom)) =
        [(.clob, 5, none, some .varchar), (.number, 0, some 3, none)] ∧
      ds.map (·.placeholder) = ["B", "A"] ∧
      ∀ i d, ds[i]? = some d →
        ∃ param, blockBinds.given (scan "begin f(:b, :a); end;") i = some param ∧
          d.Settled (scan "begin f(:b, :a); end;") { blockStringLimit := 4 } param := by
  have settled := resolve_settles "begin f(:b, :a); end;" blockBinds { blockStringLimit := 4 } _ rfl
  exact ⟨_, rfl, rfl, settled.1.trans (by decide +kernel), settled.2⟩

end Binding

end SqlBinder
