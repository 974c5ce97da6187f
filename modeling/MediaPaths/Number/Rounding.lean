/-!
# Rounding a quotient

`roundDiv n d` is the whole number nearest to `n / d`; of two equally near ones it is the even one.
-/

namespace MediaPaths.Number

/-- The whole number nearest to `n / d`, a tie going to the even neighbour. -/
def roundDiv (n d : Nat) : Nat :=
  let q := n / d
  let r := n % d
  if 2 * r < d then q
  else if d < 2 * r then q + 1
  else q + q % 2

/-- A quotient without remainder is not changed. -/
theorem roundDiv_mul_self {k d : Nat} (hd : 0 < d) : roundDiv (k * d) d = k := by
  simp [roundDiv, Nat.mul_div_cancel _ hd, hd]

/-- The result is within half a unit of the quotient. -/
theorem two_mul_roundDiv_le {n d : Nat} (hd : 0 < d) :
    2 * (roundDiv n d * d) ≤ 2 * n + d ∧ 2 * n ≤ 2 * (roundDiv n d * d) + d := by
  have hn : d * (n / d) + n % d = n := Nat.div_add_mod n d
  have hr : n % d < d := Nat.mod_lt n hd
  have hc : n / d * d = d * (n / d) := Nat.mul_comm _ _
  unfold roundDiv
  simp only
  split
  · omega
  · split
    · rw [Nat.add_mul]; omega
    · rcases Nat.mod_two_eq_zero_or_one (n / d) with h | h <;> rw [h] <;>
        simp only [Nat.add_mul, Nat.zero_mul, Nat.one_mul] <;> omega

end MediaPaths.Number
