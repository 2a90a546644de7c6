import Mathlib.Algebra.Quaternion
import Mathlib.Analysis.SpecialFunctions.Trigonometric.Inverse

/-! The angle between two orientations given by unit quaternions. A quaternion turns a
vector `v` to `q v q*`; the angle of the turn is read off its trace, which is one plus
twice the cosine. Half the angle has the absolute value of the real part as its cosine. -/

namespace MoveitPlanning.Foundation

open Quaternion

/-- A vector as a quaternion without a real part. -/
def vector (x y z : ℝ) : ℍ[ℝ] := ⟨0, x, y, z⟩

section vector
variable (x y z : ℝ)

@[simp] theorem vector_re : (vector x y z).re = 0 := rfl

@[simp] theorem vector_imI : (vector x y z).imI = x := rfl

@[simp] theorem vector_imJ : (vector x y z).imJ = y := rfl

@[simp] theorem vector_imK : (vector x y z).imK = z := rfl

end vector

/-- The vector `v`, turned by `q`. -/
noncomputable def turn (q v : ℍ[ℝ]) : ℍ[ℝ] := q * v * star q

/-- The trace of the turn, over the three coordinate axes. -/
noncomputable def turnTrace (q : ℍ[ℝ]) : ℝ :=
  (turn q (vector 1 0 0)).imI + (turn q (vector 0 1 0)).imJ + (turn q (vector 0 0 1)).imK

/-- The angle of the turn that leads from one orientation to the other. -/
noncomputable def rotationAngle (p q : ℍ[ℝ]) : ℝ := Real.arccos ((turnTrace (star p * q) - 1) / (2 : ℕ))

theorem turnTrace_eq (q : ℍ[ℝ]) : turnTrace q = 4 * q.re ^ 2 - normSq q := by
  simp only [turnTrace, turn, normSq_def']
  simp
  ring

theorem normSq_star_mul {p q : ℍ[ℝ]} (hp : normSq p = 1) (hq : normSq q = 1) : normSq (star p * q) = 1 := by
  rw [map_mul, normSq_star, hp, hq, one_mul]

theorem abs_re_le_one {q : ℍ[ℝ]} (hq : normSq q = 1) : |q.re| ≤ 1 := by
  rw [abs_le_one_iff_mul_self_le_one]
  rw [normSq_def'] at hq
  nlinarith only [hq, sq_nonneg q.imI, sq_nonneg q.imJ, sq_nonneg q.imK]

theorem rotationAngle_eq {p q : ℍ[ℝ]} (hp : normSq p = 1) (hq : normSq q = 1) :
    rotationAngle p q = 2 * Real.arccos |(star p * q).re| := by
  have hunit := normSq_star_mul hp hq
  have hle : |(star p * q).re| ≤ 1 := abs_re_le_one hunit
  have hhalf : Real.arccos |(star p * q).re| ≤ Real.pi / 2 := Real.arccos_le_pi_div_two.mpr (abs_nonneg _)
  have hcos : (turnTrace (star p * q) - 1) / (2 : ℕ) = Real.cos (2 * Real.arccos |(star p * q).re|) := by
    rw [Nat.cast_ofNat, turnTrace_eq, hunit, Real.cos_two_mul,
      Real.cos_arccos (by linarith [abs_nonneg (star p * q).re]) hle,
      sq_abs]
    ring
  rw [rotationAngle, hcos, Real.arccos_cos (mul_nonneg zero_le_two (Real.arccos_nonneg _)) (by linarith)]

end MoveitPlanning.Foundation
