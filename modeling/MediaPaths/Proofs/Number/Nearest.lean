import Mathlib.Algebra.Ring.Nat
import MediaPaths.Number.Binary64

/-!
# Exact and nearly exact binary64 numbers

A number with no more than 53 bits is one of the format, and arithmetic whose result is such a number is exact. Any
other quotient up to one is off by half the spacing at one, at most.
-/

namespace MediaPaths.Number

variable {n d k a b u : Nat}

/-- What is nearer to a quotient than half a unit is what it is rounded to. -/
theorem roundDiv_eq (h : 2 * n < 2 * (k * d) + d) (h' : 2 * (k * d) < 2 * n + d) : roundDiv n d = k := by
  have hd : 0 < d := by omega
  obtain ⟨hle, hge⟩ := two_mul_roundDiv_le (n := n) hd
  have hup : roundDiv n d * d < (k + 1) * d := by
    rw [Nat.add_mul]
    omega
  have hdown : k * d < (roundDiv n d + 1) * d := by
    rw [Nat.add_mul]
    omega
  have := Nat.lt_of_mul_lt_mul_right hup
  have := Nat.lt_of_mul_lt_mul_right hdown
  omega

namespace Binary64

theorem one_eq : one = 2 ^ 1074 := by decide +kernel

theorem one_pos : 0 < one := by decide +kernel

theorem spacing_pos (u : Nat) : 0 < spacing u := Nat.pow_pos (by decide)

/-- A significand has 53 bits. -/
theorem spacing_dvd (ha : a < 2 ^ 53) (k : Nat) : spacing (a * 2 ^ k) ∣ a * 2 ^ k := by
  by_cases hzero : a = 0
  · rw [hzero, Nat.zero_mul]
    exact Nat.dvd_zero _
  · have hpos : 0 < 2 ^ k := Nat.two_pow_pos k
    have hne : a * 2 ^ k ≠ 0 := Nat.mul_ne_zero hzero (Nat.ne_of_gt hpos)
    have hlog : (a * 2 ^ k).log2 < 53 + k := by
      rw [Nat.log2_lt hne, Nat.pow_add]
      exact Nat.mul_lt_mul_of_pos_right ha hpos
    have hdvd : spacing (a * 2 ^ k) ∣ 2 ^ k := Nat.pow_dvd_pow 2 (by omega)
    exact Nat.dvd_trans hdvd (Nat.dvd_mul_left ..)

/-- A quotient that is a number of the format is not changed. -/
theorem ofRatio_eq (hd : 0 < d) (h : n * one = u * d) (hu : spacing u ∣ u) (hlimit : u < limit) :
    ofRatio n d = .finite u := by
  obtain ⟨k, hk⟩ := hu
  have hround : roundDiv (u * d) (d * spacing u) = k := by
    have hproduct : u * d = k * (d * spacing u) := by
      rw [Nat.mul_left_comm, Nat.mul_comm k, ← hk, Nat.mul_comm]
    rw [hproduct, roundDiv_mul_self (Nat.mul_pos hd (spacing_pos u))]
  unfold ofRatio
  dsimp only
  rw [h, Nat.mul_div_cancel u hd, hround, Nat.mul_comm, ← hk, if_pos hlimit]

theorem mul_one_lt_limit (h : n < 2 ^ 53) : n * one < limit := by
  have hlarge : 2 ^ 53 * one ≤ limit := by decide +kernel
  have hpos := Nat.mul_lt_mul_of_pos_right h one_pos
  omega

theorem spacing_mul_one (h : n < 2 ^ 53) : spacing (n * one) ∣ n * one := by
  rw [one_eq]
  exact spacing_dvd h 1074

theorem mul_finite (a b : Nat) : mul (.finite a) (.finite b) = ofRatio (a * b) (one * one) := by
  rw [mul]

/-- A whole number of at most 53 bits is one of the format. -/
theorem ofNat_eq (h : n < 2 ^ 53) : ofNat n = .finite (n * one) :=
  ofRatio_eq Nat.one_pos (Nat.mul_one _).symm (spacing_mul_one h) (mul_one_lt_limit h)

/-- A product of whole numbers is exact if it has at most 53 bits. -/
theorem mul_eq (h : a * b < 2 ^ 53) : mul (.finite (a * one)) (.finite (b * one)) = .finite (a * b * one) := by
  rw [mul_finite]
  refine ofRatio_eq (Nat.mul_pos one_pos one_pos) ?_ (spacing_mul_one h) (mul_one_lt_limit h)
  rw [Nat.mul_mul_mul_comm, Nat.mul_assoc (a * b), Nat.mul_assoc (a * b), Nat.mul_assoc one]

theorem spacing_mono (h : a ≤ b) (ha : a ≠ 0) : spacing a ≤ spacing b := by
  have hlog : a.log2 ≤ b.log2 := by
    rw [Nat.le_log2 (by omega)]
    exact Nat.le_trans (Nat.log2_self_le ha) h
  exact Nat.pow_le_pow_right (by decide) (by omega)

theorem spacing_le_one (h : u ≤ one) : spacing u ≤ spacing one := by
  by_cases hu : u = 0
  · rw [hu]
    decide +kernel
  · exact spacing_mono h hu

/-- A quotient up to one is off by half the spacing at one, at most. -/
theorem ofRatio_near (hd : 0 < d) (h : n ≤ d) : ∃ u, ofRatio n d = .finite u ∧
    2 * (u * d) ≤ 2 * (n * one) + d * spacing one ∧ 2 * (n * one) ≤ 2 * (u * d) + d * spacing one := by
  have hquotient : n * one / d ≤ one := by
    refine Nat.div_le_of_le_mul ?_
    exact Nat.mul_le_mul_right _ h
  have hgap := spacing_le_one hquotient
  have hpos := spacing_pos (n * one / d)
  generalize hg : spacing (n * one / d) = gap at hgap hpos
  obtain ⟨hle, hge⟩ := two_mul_roundDiv_le (n := n * one) (d := d * gap) (Nat.mul_pos hd hpos)
  generalize hk : roundDiv (n * one) (d * gap) = k at hle hge
  have hproduct : k * (d * gap) = k * gap * d := by rw [Nat.mul_right_comm, Nat.mul_assoc]
  rw [hproduct] at hle hge
  have hoff : d * gap ≤ d * spacing one := Nat.mul_le_mul_left d hgap
  have hlimit : k * gap < limit := by
    have hone : d * one + d * spacing one < d * limit := by
      rw [← Nat.mul_add]
      refine Nat.mul_lt_mul_of_pos_left ?_ hd
      decide +kernel
    have hn : n * one ≤ d * one := Nat.mul_le_mul_right _ h
    refine Nat.lt_of_mul_lt_mul_right (a := d) ?_
    rw [Nat.mul_comm limit]
    omega
  refine ⟨k * gap, ?_, by omega, by omega⟩
  unfold ofRatio
  dsimp only
  rw [hg, hk, if_pos hlimit]

end Binary64

end MediaPaths.Number
