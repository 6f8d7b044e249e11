import SqlBinder.Proofs.Binding.Spelling

/-!
Binds by position and by name. Main statement: given under their recorded names between double
quotes, in any order, binds resolve as they do by position, but for the slots that descriptors and
errors name; and the order of binds by name makes no difference where no two of them name the same
placeholder.
-/
namespace SqlBinder

/-- The error with another name for its slot. -/
def Error.renamed (f : Slot → Slot) : Error → Error
  | .typeMismatch slot => .typeMismatch (f slot)
  | .missingMaxSize slot => .missingMaxSize (f slot)
  | .missingType slot => .missingType (f slot)
  | .maxSizeTooSmall slot maxSize length => .maxSizeTooSmall (f slot) maxSize length
  | .elementMismatch index slot => .elementMismatch index (f slot)
  | e => e

namespace Binding

open Statement Text

/-- The descriptor with another name for its slot. -/
def Descriptor.renamed (f : Slot → Slot) (d : Descriptor) : Descriptor :=
  { d with slot := f d.slot }

/-- What comes of resolving, with other names for the slots. -/
def renamedOutcome (f : Slot → Slot) (outcome : Except Error (List Descriptor)) :
    Except Error (List Descriptor) :=
  List.map (Descriptor.renamed f) <$> outcome.mapError (Error.renamed f)

/-! ## One bind

What is checked of a bind does not depend on its slot, which errors only repeat. -/

section OneBind

variable (f : Slot → Slot) {direction : Direction} {t : DbType} {spec : Spec} {param : Param}
  {value : Option Value} {declared : Option Nat} {slot : Slot} {o : BindOptions} {info : Info}

theorem checkScalar_renamed (v : Value) :
    checkScalar t v (f slot) = (checkScalar t v slot).mapError (Error.renamed f) := by
  simp [checkScalar, Error.renamed]

theorem arrayItems_renamed :
    arrayItems value (f slot) = (arrayItems value slot).mapError (Error.renamed f) := by
  unfold arrayItems
  split <;> rfl

theorem checkElement_renamed (index : Nat) (v : Value) :
    checkElement t declared (f slot) index v =
      (checkElement t declared slot index v).mapError (Error.renamed f) := by
  cases v <;> cases declared <;> simp [checkElement, Error.renamed]

theorem checkElements_renamed (index : Nat) (items : List Value) :
    checkElements t declared (f slot) index items =
      (checkElements t declared slot index items).mapError (Error.renamed f) := by
  induction items generalizing index with
  | nil => rfl
  | cons v rest ih => simp only [checkElements, checkElement_renamed, ih, Except.mapError_bind]

theorem arrayLimit_renamed (length : Nat) :
    (arrayLimit direction declared length).mapError (Error.renamed f) =
      arrayLimit direction declared length := by
  unfold arrayLimit
  split <;> simp [Error.renamed]

theorem checkArray_renamed :
    checkArray direction t spec value (f slot) =
      (checkArray direction t spec value slot).mapError (Error.renamed f) := by
  simp [checkArray, arrayItems_renamed, checkElements_renamed, arrayLimit_renamed, Error.renamed]

theorem checkValue_renamed :
    checkValue direction t spec value (f slot) =
      (checkValue direction t spec value slot).mapError (Error.renamed f) := by
  unfold checkValue
  cases value <;> simp [checkArray_renamed, checkScalar_renamed]

theorem bufferSize_renamed :
    bufferSize direction t declared value (f slot) o =
      (bufferSize direction t declared value slot o).mapError (Error.renamed f) := by
  unfold bufferSize
  split
  · rfl
  · split <;> rfl

theorem typeOf_renamed :
    typeOf direction spec.dbType value (f slot) o =
      (typeOf direction spec.dbType value slot o).mapError (Error.renamed f) := by
  unfold typeOf
  split <;> simp [Error.renamed]

theorem specOf_renamed : (specOf param).mapError (Error.renamed f) = specOf param := by
  cases param <;> simp [specOf, Error.renamed]

theorem checkBindable_renamed (position : Nat) :
    (checkBindable spec position).mapError (Error.renamed f) = checkBindable spec position := by
  simp [checkBindable, Error.renamed]

theorem resolveOne_renamed (placeholder : String) (position : Nat) :
    resolveOne info placeholder position (f slot) param o =
      Descriptor.renamed f <$>
        (resolveOne info placeholder position slot param o).mapError (Error.renamed f) := by
  simp [resolveOne, specOf_renamed, checkBindable_renamed, typeOf_renamed, checkValue_renamed,
    bufferSize_renamed, Descriptor.renamed]

end OneBind

/-! ## All binds -/

section AllBinds

variable {info : Info} {o : BindOptions}

/-- Resolving by name asks for the last bind at each place only. -/
theorem resolveNamed_congr {places places' : List (Nat × Param)}
    (same : ∀ place, lastAt place places = lastAt place places') (place : Nat)
    (names : List String) :
    resolveNamed info o places place names = resolveNamed info o places' place names := by
  induction names generalizing place with
  | nil => rfl
  | cons name rest ih => simp only [resolveNamed, same, ih]

/-- By name as by position, where the binds stand at the places of the names. -/
theorem resolveNamed_eq {f : Slot → Slot} {places : List (Nat × Param)} {names : List String}
    {params : List Param} (place : Nat) (count : params.length = names.length)
    (listed : ∀ j, lastAt (place + j) places = params[j]?)
    (slots : ∀ j name, names[j]? = some name → f (.position (place + 1 + j)) = .name name)
    (plain : ∀ p ∈ params, checkPositional p = .ok ()) :
    resolveNamed info o places place names =
      renamedOutcome f (resolvePositional info o (place + 1) (names.zip params)) := by
  induction names generalizing params place with
  | nil => rfl
  | cons name names ih =>
    cases params with
    | nil => cases count
    | cons param params =>
      obtain ⟨unmixed, others⟩ := List.forall_mem_cons.mp plain
      have here : lastAt place places = some param := listed 0
      have slot : f (.position (place + 1)) = .name name := slots 0 name rfl
      have behind := ih (place + 1) (Nat.succ.inj count)
        (fun j => by rw [Nat.add_assoc, Nat.add_comm 1 j]; exact listed (j + 1))
        (fun j name there => by
          rw [show place + 1 + 1 + j = place + 1 + (j + 1) by omega]
          exact slots (j + 1) name there) others
      have unchecked : checkPositional param = pure () := unmixed
      simp [resolveNamed, resolvePositional, here, unchecked, ← slot, resolveOne_renamed, behind,
        renamedOutcome]

theorem resolveOne_slot {placeholder : String} {position : Nat} {slot : Slot} {param : Param}
    {d : Descriptor} (h : resolveOne info placeholder position slot param o = .ok d) :
    d.slot = slot := by
  simp only [resolveOne, Except.bind_ok] at h
  obtain ⟨spec, -, u, -, t, -, limit, -, size, -, made⟩ := h
  obtain rfl := Except.ok.inj made
  rfl

/-- Descriptors of binds by position are slotted by position, from 1. -/
theorem slot_of_positional {params : List Param} {ds : List Descriptor}
    (h : resolve info (.positional params) o = .ok ds) {i : Nat} {d : Descriptor}
    (listed : ds[i]? = some d) : d.slot = .position (i + 1) := by
  simp only [resolve, Except.ite_throw_ok] at h
  obtain ⟨p, -, one⟩ := resolvePositional_each h.2 i listed
  rw [resolveOne_slot one, Nat.add_comm]

/-! ### Places -/

/-- The place that a name denotes, where it does. -/
def denoted (info : Info) (name : String) : Nat := (placeOf info name).toOption.getD 0

theorem placeOf_denoted {name : String} (place : ∃ i, placeOf info name = .ok i) :
    placeOf info name = .ok (denoted info name) := by
  obtain ⟨i, place⟩ := place
  simp [denoted, place, Except.toOption]

theorem placed_eq_ok {params : List (String × Param)}
    (places : ∀ p ∈ params, ∃ i, placeOf info p.1 = .ok i) :
    placed info params = .ok (params.map fun p => (denoted info p.1, p.2)) := by
  induction params with
  | nil => rfl
  | cons p rest ih =>
    obtain ⟨here, others⟩ := List.forall_mem_cons.mp places
    simp only [placed, placeOf_denoted here, ih others]
    rfl

/-- Where each place has one bind, the last one there is it. -/
theorem lastAt_eq_some {places : List (Nat × Param)} (distinct : (places.map (·.1)).Nodup)
    {place : Nat} {param : Param} :
    lastAt place places = some param ↔ (place, param) ∈ places := by
  rw [lastAt, Option.map_eq_some_iff]
  constructor
  · rintro ⟨p, found, rfl⟩
    have here : p.1 = place := by simpa using List.find?_some found
    rw [← here]
    exact List.mem_reverse.mp (List.mem_of_find?_eq_some found)
  · intro member
    have some : (places.reverse.find? (·.1 == place)).isSome = true :=
      List.find?_isSome.mpr ⟨_, List.mem_reverse.mpr member, beq_self_eq_true place⟩
    obtain ⟨p, found⟩ := Option.isSome_iff_exists.mp some
    have here : p.1 = place := by simpa using List.find?_some found
    have among : p ∈ places := List.mem_reverse.mp (List.mem_of_find?_eq_some found)
    exact ⟨p, found, congrArg Prod.snd (List.inj_on_of_nodup_map distinct among member here)⟩

theorem lastAt_perm {places places' : List (Nat × Param)} (perm : places.Perm places')
    (distinct : (places.map (·.1)).Nodup) (place : Nat) :
    lastAt place places = lastAt place places' := by
  have distinct' : (places'.map (·.1)).Nodup := (perm.map _).nodup_iff.mp distinct
  refine Option.ext fun param => ?_
  rw [lastAt_eq_some distinct, lastAt_eq_some distinct', perm.mem_iff]

/-- The order of binds at different places makes no difference. -/
theorem resolve_perm {params params' : List (String × Param)} (perm : params.Perm params')
    (places : ∀ p ∈ params, ∃ i, placeOf info p.1 = .ok i)
    (distinct : params.Pairwise fun p q => placeOf info p.1 ≠ placeOf info q.1) :
    resolve info (.named params') o = resolve info (.named params) o := by
  have places' : ∀ p ∈ params', ∃ i, placeOf info p.1 = .ok i :=
    fun p member => places p (perm.mem_iff.mpr member)
  have nodup : ((params.map fun p => (denoted info p.1, p.2)).map (·.1)).Nodup := by
    rw [List.map_map, List.nodup_iff_pairwise_ne, List.pairwise_map]
    refine distinct.imp_of_mem fun one other apart same => apart ?_
    rw [placeOf_denoted (places _ one), placeOf_denoted (places _ other)]
    exact congrArg Except.ok same
  have last := lastAt_perm (perm.map _) nodup
  simp only [resolve, placed_eq_ok places, placed_eq_ok places']
  exact (resolveNamed_congr last 0 info.bindNames).symm

end AllBinds

/-! ## Names between quotes -/

/-- The name as it stands between double quotes. -/
def quoted (name : String) : String := String.ofList ('"' :: (name.toList ++ ['"']))

theorem normalizeName_quoted (name : String) : normalizeName (quoted name) = name := by
  have visible : trim ('"' :: (name.toList ++ ['"'])) = '"' :: (name.toList ++ ['"']) := by
    refine trim_visible (by simp; decide) ?_
    rw [← List.cons_append, List.getLast?_concat]
    simp
    decide
  have front : trimStart ('"' :: (name.toList ++ ['"'])) = '"' :: (name.toList ++ ['"']) :=
    trimStart_append (List.forall_mem_nil _) (by simp; decide)
  simp [normalizeName, normalizeChars, quoted, visible, dropOne, front, unquote?]

/-- The slot by name in place of the slot by position. -/
def byName (info : Info) : Slot → Slot
  | .position n => (info.bindNames[n - 1]?).elim (.position n) .name
  | .name recorded => .name recorded

/-- Binds by position under the names at their positions. -/
def keyed (info : Info) (params : List Param) : List (String × Param) :=
  (info.bindNames.map quoted).zip params

section Quoted

variable {info : Info} {o : BindOptions} {params : List Param}

/-- A recorded name between quotes denotes its own place. -/
theorem placeOf_quoted (distinct : info.bindNames.Nodup) {i : Nat} {name : String}
    (there : info.bindNames[i]? = some name) : placeOf info (quoted name) = .ok i := by
  refine placeOf_eq_ok (Info.positionOf_eq_some.mpr ⟨there, fun j earlier again => ?_⟩)
    (normalizeName_quoted name)
  obtain ⟨within, there⟩ := List.getElem?_eq_some_iff.mp there
  obtain ⟨within', again⟩ := List.getElem?_eq_some_iff.mp again
  have same := distinct.getElem_inj_iff.mp (again.trans there.symm)
  omega

theorem placeOf_keyed (distinct : info.bindNames.Nodup) {i : Nat} {p : String × Param}
    (listed : (keyed info params)[i]? = some p) : placeOf info p.1 = .ok i := by
  have spelled := (List.getElem?_zip_eq_some.mp listed).1
  rw [List.getElem?_map, Option.map_eq_some_iff] at spelled
  obtain ⟨name, there, same⟩ := spelled
  exact same ▸ placeOf_quoted distinct there

theorem exists_place_keyed (distinct : info.bindNames.Nodup) :
    ∀ p ∈ keyed info params, ∃ i, placeOf info p.1 = .ok i := by
  intro p member
  obtain ⟨i, listed⟩ := List.mem_iff_getElem?.mp member
  exact ⟨i, placeOf_keyed distinct listed⟩

theorem pairwise_keyed (distinct : info.bindNames.Nodup) :
    (keyed info params).Pairwise fun p q => placeOf info p.1 ≠ placeOf info q.1 := by
  refine List.pairwise_iff_getElem.mpr fun i j within within' earlier same => ?_
  rw [placeOf_keyed distinct (List.getElem?_eq_getElem within),
    placeOf_keyed distinct (List.getElem?_eq_getElem within')] at same
  exact Nat.ne_of_lt earlier (Except.ok.inj same)

/-- The binds stand at the places of their positions. -/
theorem places_keyed (distinct : info.bindNames.Nodup)
    (count : params.length = info.bindNames.length) :
    (keyed info params).map (fun p => (denoted info p.1, p.2)) =
      (List.range params.length).zip params := by
  refine List.ext_getElem (by simp [keyed, count]) fun i within within' => ?_
  rw [List.length_map] at within
  have place := placeOf_keyed distinct (List.getElem?_eq_getElem within)
  have denotes : denoted info (keyed info params)[i].1 = i := by
    rw [denoted, place]
    rfl
  have inside : i < params.length := by simpa using within'
  have given : (keyed info params)[i].2 = params[i] := by simp [keyed]
  simp [denotes, given]

theorem placed_keyed (distinct : info.bindNames.Nodup)
    (count : params.length = info.bindNames.length) :
    placed info (keyed info params) = .ok ((List.range params.length).zip params) := by
  rw [placed_eq_ok (exists_place_keyed distinct), places_keyed distinct count]

theorem lastAt_range (params : List Param) (place : Nat) :
    lastAt place ((List.range params.length).zip params) = params[place]? := by
  have distinct : (((List.range params.length).zip params).map (·.1)).Nodup := by
    rw [List.map_fst_zip (by simp)]
    exact List.nodup_range
  refine Option.ext fun param => (lastAt_eq_some distinct).trans ?_
  simp only [List.mem_iff_getElem?, List.getElem?_zip_eq_some]
  constructor
  · rintro ⟨i, index, there⟩
    obtain ⟨within, rfl⟩ := List.getElem?_eq_some_iff.mp index
    simpa using there
  · intro there
    obtain ⟨within, -⟩ := List.getElem?_eq_some_iff.mp there
    exact ⟨place, by simp [within], there⟩

/-- Under the recorded names binds resolve as they do by position. -/
theorem resolve_keyed (distinct : info.bindNames.Nodup)
    (count : params.length = info.bindNames.length)
    (plain : ∀ p ∈ params, ∀ fields, p ≠ .value (.object fields)) :
    resolve info (.named (keyed info params)) o =
      renamedOutcome (byName info) (resolve info (.positional params) o) := by
  have unmixed : ∀ p ∈ params, checkPositional p = .ok () := by
    intro p member
    unfold checkPositional
    split
    · exact absurd rfl (plain _ member _)
    · rfl
  simp only [resolve, placed_keyed distinct count, count, ne_eq, not_true, if_false]
  refine resolveNamed_eq 0 count (fun j => ?_) (fun j name there => ?_) unmixed
  · rw [Nat.zero_add, ← count, lastAt_range]
  · have index : 0 + 1 + j - 1 = j := by omega
    simp [byName, index, there]

end Quoted

/-- By name as by position. Under the recorded names of a statement between double quotes, in any
order, binds resolve as they do by position, each slot by position renamed to the slot by name of
its placeholder. And binds by name may stand in any order where each names a place of its own. -/
theorem names_agree_with_positions :
    (∀ (sql : String) (params : List Param) (named : List (String × Param)) (o : BindOptions),
      params.length = (scan sql).bindNames.length →
      (∀ p ∈ params, ∀ fields, p ≠ .value (.object fields)) →
      named.Perm (keyed (scan sql) params) →
      resolve (scan sql) (.named named) o =
        renamedOutcome (byName (scan sql)) (resolve (scan sql) (.positional params) o) ∧
      ∀ ds, resolve (scan sql) (.positional params) o = .ok ds →
        ∀ (i : Nat) (d : Descriptor), ds[i]? = some d → d.slot = .position (i + 1)) ∧
    ∀ (info : Info) (params params' : List (String × Param)) (o : BindOptions),
      params.Perm params' → (∀ p ∈ params, ∃ i, placeOf info p.1 = .ok i) →
      (params.Pairwise fun p q => placeOf info p.1 ≠ placeOf info q.1) →
      resolve info (.named params') o = resolve info (.named params) o := by
  refine ⟨fun sql params named o count plain perm => ⟨?_, fun ds resolved i d listed =>
    slot_of_positional resolved listed⟩, fun info params params' o => resolve_perm⟩
  have distinct : (scan sql).bindNames.Nodup := bindNames_scan sql ▸ nodup_eraseDups _
  rw [← resolve_keyed distinct count plain]
  exact resolve_perm perm.symm (exists_place_keyed distinct) (pairwise_keyed distinct)

/-- Three binds, of which the second and the third are of other types than declared. -/
def mistypedParams : List Param :=
  [.value (.integer 1), .spec { dbType := some .number, value := some (.string "x") },
    .spec { dbType := some .date, value := some (.integer 2) }]

/-- The same under the recorded names, the last one first. -/
def mistypedBinds : List (String × Param) :=
  (keyed (scan "begin f(:a, :\"a\", :b); end;") mistypedParams).reverse

/-- Of two wrong binds the one that stands first in the statement is told, by name or by position;
and names that differ in case only are apart. -/
theorem mistyped_binds_agree :
    mistypedBinds.map (·.1) = ["\"B\"", "\"a\"", "\"A\""] ∧
      resolve (scan "begin f(:a, :\"a\", :b); end;") (.positional mistypedParams) {} =
        .error (.typeMismatch (.position 2)) ∧
      resolve (scan "begin f(:a, :\"a\", :b); end;") (.named mistypedBinds) {} =
        .error (.typeMismatch (.name "a")) ∧
      resolve (scan "begin f(:a, :\"a\", :b); end;") (.named mistypedBinds.reverse) {} =
        resolve (scan "begin f(:a, :\"a\", :b); end;") (.named mistypedBinds) {} := by
  have wrong : resolve (scan "begin f(:a, :\"a\", :b); end;") (.positional mistypedParams) {} =
      .error (.typeMismatch (.position 2)) := by rfl
  have plain : ∀ p ∈ mistypedParams, ∀ fields, p ≠ .value (.object fields) := by
    simp [mistypedParams]
  obtain ⟨byName, -⟩ := names_agree_with_positions.1 "begin f(:a, :\"a\", :b); end;" mistypedParams
    mistypedBinds {} (by decide +kernel) plain (List.reverse_perm _)
  refine ⟨by decide +kernel, wrong, byName.trans (by rw [wrong]; rfl), ?_⟩
  have distinct : (scan "begin f(:a, :\"a\", :b); end;").bindNames.Nodup := by decide +kernel
  refine names_agree_with_positions.2 _ _ _ {} (List.reverse_perm _).symm ?_ ?_
  · exact fun p member => exists_place_keyed distinct p (List.mem_reverse.mp member)
  · exact List.pairwise_reverse.mpr ((pairwise_keyed distinct).imp Ne.symm)

end Binding

end SqlBinder
