import SqlBinder.Text.Capital
import SqlBinder.Text.Letter
import SqlBinder.Text.Numeral
import Mathlib.Data.List.Infix

/-!
Letters in either case. `SameLetters` relates texts that differ in the case of ASCII letters only;
what is blind to case does not tell them apart, and a text without such letters is related to no
other.

What matters of a character is checked once for each of the 26 small letters against its capital.
All other characters have no other case, so they are related to themselves alone.
-/
namespace SqlBinder.Text

/-! ## Characters -/

/-- The letters that have an ASCII capital. -/
def smallLetters : List Char := "abcdefghijklmnopqrstuvwxyz".toList

theorem mem_smallLetters {c : Char} (h : c.toUpper ≠ c) : c ∈ smallLetters := by
  unfold Char.toUpper at h
  split at h
  · next small =>
    have low : 97 ≤ c.toNat := UInt32.le_iff_toNat_le.mp small.1
    have high : c.toNat ≤ 122 := UInt32.le_iff_toNat_le.mp small.2
    have all : (List.range' 97 26).all fun code => smallLetters.contains (Char.ofNat code) := by
      decide +kernel
    have found := List.all_eq_true.mp all c.toNat (List.mem_range'_1.mpr ⟨low, by omega⟩)
    rw [Char.ofNat_toNat] at found
    exact List.contains_iff_mem.mp found
  · exact absurd rfl h

/-- What a small letter shares with its capital does not depend on case. -/
theorem apply_toUpper {α : Type} {f : Char → α}
    (small : smallLetters.map (fun c => f c.toUpper) = smallLetters.map f) (c : Char) :
    f c.toUpper = f c := by
  by_cases same : c.toUpper = c
  · rw [same]
  · exact List.map_inj_left.mp small c (mem_smallLetters same)

theorem apply_eq_of_toUpper {α : Type} {f : Char → α} (blind : ∀ c, f c.toUpper = f c) {c d : Char}
    (same : c.toUpper = d.toUpper) : f c = f d := by
  rw [← blind c, same, blind d]

theorem toUpper_toUpper (c : Char) : c.toUpper.toUpper = c.toUpper :=
  apply_toUpper (f := Char.toUpper) (by decide +kernel) c

theorem isLetter_toUpper (c : Char) : isLetter c.toUpper = isLetter c :=
  apply_toUpper (f := isLetter) (by decide +kernel) c

theorem isNumeral_toUpper (c : Char) : isNumeral c.toUpper = isNumeral c :=
  apply_toUpper (f := isNumeral) (by decide +kernel) c

theorem capitals_toUpper (c : Char) : capitals c.toUpper = capitals c :=
  apply_toUpper (f := capitals) (by decide +kernel) c

/-- No other character is this one in another case. -/
def IsCaseless (c : Char) : Prop := ∀ d : Char, d.toUpper = c.toUpper → d = c

/-- A character is told from all the small letters by what does not depend on case. -/
theorem isCaseless_of {f : Char → Bool} (blind : ∀ c, f c.toUpper = f c)
    (small : smallLetters.all f = true) {c : Char} (other : f c = false) : IsCaseless c := by
  intro d same
  have fixed : ∀ e, f e = false → e.toUpper = e := fun e none =>
    not_not.mp fun moves =>
      Bool.false_ne_true (none.symm.trans (List.all_eq_true.mp small e (mem_smallLetters moves)))
  have unlike : f d = false := (apply_eq_of_toUpper blind same).trans other
  rw [← fixed d unlike, same, fixed c other]

theorem isCaseless_of_isLetter {c : Char} (h : isLetter c = false) : IsCaseless c :=
  isCaseless_of isLetter_toUpper (by decide +kernel) h

theorem isCaseless_of_isNumeral {c : Char} (h : isNumeral c = true) : IsCaseless c :=
  isCaseless_of (f := fun c => !isNumeral c) (fun c => by rw [isNumeral_toUpper])
    (by decide +kernel) (by rw [h]; rfl)

/-! ## Texts -/

/-- The texts are the same but for the case of their ASCII letters. -/
def SameLetters (text other : List Char) : Prop := text.map Char.toUpper = other.map Char.toUpper

instance (text other : List Char) : Decidable (SameLetters text other) :=
  inferInstanceAs (Decidable (_ = _))

namespace SameLetters

variable {text other front back : List Char}

theorem refl (text : List Char) : SameLetters text text := rfl

theorem symm (h : SameLetters text other) : SameLetters other text := Eq.symm h

theorem toUpper (text : List Char) : SameLetters (text.map Char.toUpper) text := by
  rw [SameLetters, List.map_map]
  exact List.map_congr_left fun c _ => toUpper_toUpper c

theorem append {text' other' : List Char} (h : SameLetters text other)
    (h' : SameLetters text' other') : SameLetters (text ++ text') (other ++ other') := by
  unfold SameLetters at *
  rw [List.map_append, List.map_append, h, h']

/-- A text is cut wherever the other one is. -/
theorem exists_append (h : SameLetters text (front ++ back)) :
    ∃ front' back', text = front' ++ back' ∧ SameLetters front' front ∧ SameLetters back' back :=
  List.map_eq_append_iff.mp (h.trans List.map_append)

theorem exists_cons {c : Char} (h : SameLetters text (c :: back)) :
    ∃ d rest, text = d :: rest ∧ d.toUpper = c.toUpper ∧ SameLetters rest back :=
  List.map_eq_cons_iff.mp h

theorem map {α : Type} {f : Char → α} (blind : ∀ c, f c.toUpper = f c)
    (h : SameLetters text other) : text.map f = other.map f := by
  have through : ∀ chars : List Char, chars.map f = (chars.map Char.toUpper).map f := by
    intro chars
    rw [List.map_map]
    exact List.map_congr_left fun c _ => (blind c).symm
  rw [through text, through other, h]

theorem all {p : Char → Bool} (blind : ∀ c, p c.toUpper = p c) (h : SameLetters text other)
    (holds : ∀ c ∈ other, p c = true) : ∀ c ∈ text, p c = true := by
  intro c found
  have image : p c ∈ other.map p := h.map blind ▸ List.mem_map_of_mem found
  obtain ⟨d, source, same⟩ := List.mem_map.mp image
  rw [← same, holds d source]

theorem eq_of_caseless (h : SameLetters text other) (fixed : ∀ c ∈ other, IsCaseless c) :
    text = other := by
  induction other generalizing text with
  | nil => exact List.map_eq_nil_iff.mp h
  | cons c other ih =>
    obtain ⟨d, rest, rfl, first, more⟩ := h.exists_cons
    obtain ⟨here, others⟩ := List.forall_mem_cons.mp fixed
    rw [here d first, ih more others]

theorem eq_nil_iff (h : SameLetters text other) : text = [] ↔ other = [] := by
  rw [← List.map_eq_nil_iff (f := Char.toUpper), h, List.map_eq_nil_iff]

theorem head?_ne {c : Char} (fixed : IsCaseless c) (h : SameLetters text other)
    (unlike : other.head? ≠ some c) : text.head? ≠ some c := by
  intro first
  obtain ⟨rest, rfl⟩ := List.head?_eq_some_iff.mp first
  obtain ⟨d, tail, rfl, same, -⟩ := h.symm.exists_cons
  exact unlike (congrArg some (fixed d same))

theorem isInfix {pattern : List Char} (fixed : ∀ c ∈ pattern, IsCaseless c)
    (h : SameLetters text other) (found : pattern <:+: other) : pattern <:+: text := by
  obtain ⟨front, back, rfl⟩ := found
  obtain ⟨before, back', rfl, frontSame, -⟩ := h.exists_append
  obtain ⟨front', middle, rfl, -, same⟩ := frontSame.exists_append
  exact ⟨front', back', by rw [same.eq_of_caseless fixed]⟩

theorem dropLast (h : SameLetters text other) : SameLetters text.dropLast other.dropLast := by
  unfold SameLetters
  rw [List.map_dropLast, h, List.map_dropLast]

theorem reverse (h : SameLetters text other) : SameLetters text.reverse other.reverse := by
  unfold SameLetters
  rw [List.map_reverse, h, List.map_reverse]

theorem dropWhile {p : Char → Bool} (blind : ∀ c, p c.toUpper = p c) (h : SameLetters text other) :
    SameLetters (text.dropWhile p) (other.dropWhile p) := by
  have through : ∀ chars : List Char,
      (chars.dropWhile p).map Char.toUpper = (chars.map Char.toUpper).dropWhile p := by
    intro chars
    rw [List.dropWhile_map, show p ∘ Char.toUpper = p from funext blind]
  unfold SameLetters
  rw [through, through, h]

theorem upper_eq (h : SameLetters text other) : upper text = upper other := by
  rw [upper, upper, List.flatMap_def, List.flatMap_def, h.map capitals_toUpper]

end SameLetters

end SqlBinder.Text
