import Mathlib.Algebra.Quaternion
import Mathlib.LinearAlgebra.UnitaryGroup
import Mathlib.Tactic.LinearCombination

/-! Affine maps of three-dimensional space, as a matrix and a translation. They compose
as a monoid that acts on points. A map is rigid when its matrix is a proper rotation, and
then the transpose gives its inverse; a unit quaternion gives a proper rotation. -/

namespace MoveitPlanning.Foundation

open Matrix Quaternion

variable {R : Type*}

/-- Space has axes, so that they can be numbered from zero. -/
instance neZero_axes : NeZero (3 : ℕ) := ⟨by decide⟩

theorem mem_rotation_iff [CommRing R] {M : Matrix (Fin 3) (Fin 3) R} :
    M ∈ specialOrthogonalGroup (Fin 3) R ↔ M * Mᵀ = 1 ∧ M.det = 1 := by
  rw [mem_specialOrthogonalGroup_iff, mem_orthogonalGroup_iff]

/-- The map that takes `p` to `linear * p + translation`. -/
@[ext] structure Transform (R : Type*) where
  linear : Matrix (Fin 3) (Fin 3) R
  translation : Fin 3 → R

namespace Transform

section Ring
variable [CommRing R]

/-- Where the map takes a point. -/
def act (T : Transform R) (p : Fin 3 → R) : Fin 3 → R := T.linear *ᵥ p + T.translation

instance : One (Transform R) := ⟨⟨1, 0⟩⟩

/-- First the right map, then the left one. -/
instance : Mul (Transform R) := ⟨fun S T => ⟨S.linear * T.linear, S.act T.translation⟩⟩

@[simp] theorem one_linear : (1 : Transform R).linear = 1 := rfl

@[simp] theorem one_translation : (1 : Transform R).translation = 0 := rfl

@[simp] theorem mul_linear (S T : Transform R) : (S * T).linear = S.linear * T.linear := rfl

@[simp] theorem mul_translation (S T : Transform R) : (S * T).translation = S.act T.translation := rfl

@[simp] theorem one_act (p : Fin 3 → R) : (1 : Transform R).act p = p := by simp [act]

@[simp] theorem mul_act (S T : Transform R) (p : Fin 3 → R) : (S * T).act p = S.act (T.act p) := by
  simp only [act, mul_linear, mul_translation, mulVec_add, mulVec_mulVec, add_assoc]

instance : Monoid (Transform R) where
  mul_assoc S T U := by
    ext1
    · simp [mul_assoc]
    · simp
  one_mul T := by
    ext1
    · simp
    · simp
  mul_one T := by
    ext1
    · simp
    · simp [act]

/-- The map that moves every point by `v`. -/
def translate (v : Fin 3 → R) : Transform R := ⟨1, v⟩

@[simp] theorem translate_act (v p : Fin 3 → R) : (translate v).act p = p + v := by simp [translate, act]

/-- The matrix of the map is a proper rotation. -/
def IsRigid (T : Transform R) : Prop := T.linear ∈ specialOrthogonalGroup (Fin 3) R

/-- The inverse of a rigid map: its matrix is the transpose. -/
def inverse (T : Transform R) : Transform R := ⟨T.linearᵀ, -(T.linearᵀ *ᵥ T.translation)⟩

theorem isRigid_one : (1 : Transform R).IsRigid := one_mem _

theorem isRigid_translate (v : Fin 3 → R) : (translate v).IsRigid := one_mem _

theorem IsRigid.mul {S T : Transform R} (hS : S.IsRigid) (hT : T.IsRigid) : (S * T).IsRigid :=
  mul_mem hS hT

theorem IsRigid.mul_transpose {T : Transform R} (h : T.IsRigid) : T.linear * T.linearᵀ = 1 :=
  (mem_rotation_iff.mp h).1

theorem IsRigid.transpose_mul {T : Transform R} (h : T.IsRigid) : T.linearᵀ * T.linear = 1 :=
  mul_eq_one_comm.mp h.mul_transpose

theorem IsRigid.inverse_mul {T : Transform R} (h : T.IsRigid) : T.inverse * T = 1 := by
  ext1
  · exact h.transpose_mul
  · simp [Transform.inverse, act]

theorem IsRigid.inverse_act_act {T : Transform R} (h : T.IsRigid) (p : Fin 3 → R) :
    T.inverse.act (T.act p) = p := by
  rw [← mul_act, h.inverse_mul, one_act]

/-- A rigid map tells points apart. -/
theorem IsRigid.act_injective {T : Transform R} (h : T.IsRigid) : Function.Injective T.act :=
  Function.LeftInverse.injective h.inverse_act_act

theorem IsRigid.dotProduct_mulVec {T : Transform R} (h : T.IsRigid) (v w : Fin 3 → R) :
    (T.linear *ᵥ v) ⬝ᵥ (T.linear *ᵥ w) = v ⬝ᵥ w := by
  rw [Matrix.dotProduct_mulVec, vecMul_mulVec, h.transpose_mul, vecMul_one]

end Ring

/-! ### Points that determine a map -/

section Field
variable [Field R] [NeZero (2 : R)]

/-- On every axis the set has two opposite points. -/
def Spread (points : Set (Fin 3 → R)) : Prop :=
  ∀ i, ∃ c, c ≠ 0 ∧ Pi.single i c ∈ points ∧ Pi.single i (-c) ∈ points

/-- A map that fixes opposite points on every axis is the identity. -/
theorem eq_one_of_fixes {points : Set (Fin 3 → R)} (h : Spread points) {T : Transform R}
    (hfixes : ∀ p ∈ points, T.act p = p) : T = 1 := by
  have hopposite : ∀ i, ∃ c : R, c ≠ 0 ∧ T.linear *ᵥ Pi.single i c + T.translation = Pi.single i c ∧
      -(T.linear *ᵥ Pi.single i c) + T.translation = -Pi.single i c := fun i => by
    obtain ⟨c, hc, hpos, hneg⟩ := h i
    refine ⟨c, hc, hfixes _ hpos, ?_⟩
    have := hfixes _ hneg
    rwa [act, Pi.single_neg, mulVec_neg] at this
  have htranslation : T.translation = 0 := by
    obtain ⟨c, -, hpos, hneg⟩ := hopposite 0
    funext j
    have hj := congrFun hpos j
    have hj' := congrFun hneg j
    simp only [Pi.add_apply, Pi.neg_apply] at hj hj'
    have htwo : (2 : R) * T.translation j = 0 := by linear_combination hj + hj'
    exact (mul_eq_zero.mp htwo).resolve_left two_ne_zero
  ext1
  · refine ext_of_mulVec_single fun i => ?_
    obtain ⟨c, hc, hpos, -⟩ := hopposite i
    have hunit : (Pi.single i c : Fin 3 → R) = c • Pi.single i 1 := by
      rw [← Pi.single_smul, smul_eq_mul, mul_one]
    rw [htranslation, add_zero, hunit, mulVec_smul] at hpos
    rw [one_linear, one_mulVec]
    exact smul_right_injective _ hc hpos
  · exact htranslation

end Field

end Transform

/-! ### Quaternions -/

section Quaternion
variable [CommRing R]

/-- The matrix of the rotation that a unit quaternion stands for. -/
def rotationMatrix (q : ℍ[R]) : Matrix (Fin 3) (Fin 3) R :=
  let tx := q.imI + q.imI
  let ty := q.imJ + q.imJ
  let tz := q.imK + q.imK
  !![1 - (ty * q.imJ + tz * q.imK), ty * q.imI - tz * q.re, tz * q.imI + ty * q.re;
    ty * q.imI + tz * q.re, 1 - (tx * q.imI + tz * q.imK), tz * q.imJ - tx * q.re;
    tz * q.imI - ty * q.re, tz * q.imJ + tx * q.re, 1 - (tx * q.imI + ty * q.imJ)]

@[simp] theorem rotationMatrix_one : rotationMatrix (1 : ℍ[R]) = 1 := by
  ext i j
  fin_cases i <;> fin_cases j <;> simp [rotationMatrix]

theorem rotationMatrix_mem {q : ℍ[R]} (h : normSq q = 1) :
    rotationMatrix q ∈ specialOrthogonalGroup (Fin 3) R := by
  rw [normSq_def'] at h
  refine mem_rotation_iff.mpr ⟨?_, ?_⟩
  · ext i j
    fin_cases i <;> fin_cases j <;> simp [rotationMatrix, mul_apply, Fin.sum_univ_three] <;> grind
  · rw [det_fin_three]
    simp only [rotationMatrix, of_apply, cons_val]
    grind

end Quaternion

end MoveitPlanning.Foundation
