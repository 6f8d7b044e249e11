/-!
Sets of characters given by the code points at which membership changes. The
first boundary enters the set, the next one leaves it, and so on.
-/
namespace SqlBinder.Text

/-- Whether `code` lies in the set with the ascending boundaries given. -/
def inside : List Nat → Nat → Bool
  | [], _ => false
  | start :: rest, code => decide (start ≤ code) && !inside rest code

theorem inside_of_lt {start code : Nat} (rest : List Nat) (h : code < start) :
    inside (start :: rest) code = false := by
  simp [inside, Nat.not_le.mpr h]

end SqlBinder.Text
