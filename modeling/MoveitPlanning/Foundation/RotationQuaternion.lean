import MoveitPlanning.Foundation.Transform
import Mathlib.Algebra.Order.Field.Basic
import Mathlib.Tactic.FieldSimp
import Mathlib.Tactic.Linarith
import Mathlib.Tactic.Ring

/-! The unit quaternion of a proper rotation. The products of its components, times four,
are sums of entries of the matrix. From any row of the products whose diagonal entry is
positive the components are had by one root; the row taken is that of the real part when
the trace is positive, and otherwise that of the largest diagonal entry of the matrix. A
rotation has one more unit quaternion, the negative of this one. -/

namespace MoveitPlanning.Foundation

open Matrix Quaternion

variable {R : Type*}

/-- Four times the products of the components of a quaternion with the matrix `m`. -/
def quaternionProducts [Ring R] (m : Matrix (Fin 3) (Fin 3) R) : Matrix (Fin 4) (Fin 4) R :=
  !![1 + m 0 0 + m 1 1 + m 2 2, m 2 1 - m 1 2, m 0 2 - m 2 0, m 1 0 - m 0 1;
    m 2 1 - m 1 2, 1 + m 0 0 - m 1 1 - m 2 2, m 1 0 + m 0 1, m 2 0 + m 0 2;
    m 0 2 - m 2 0, m 1 0 + m 0 1, 1 - m 0 0 + m 1 1 - m 2 2, m 2 1 + m 1 2;
    m 1 0 - m 0 1, m 2 0 + m 0 2, m 2 1 + m 1 2, 1 - m 0 0 - m 1 1 + m 2 2]

theorem rotation_entries [CommRing R] {m : Matrix (Fin 3) (Fin 3) R}
    (h : m ∈ specialOrthogonalGroup (Fin 3) R) : m * mᵀ = 1 ∧ mᵀ * m = 1 ∧ m.adjugate = mᵀ := by
  obtain ⟨hmul, hdet⟩ := mem_rotation_iff.mp h
  have hmul' : mᵀ * m = 1 := mul_eq_one_comm.mp hmul
  refine ⟨hmul, hmul', ?_⟩
  calc m.adjugate = mᵀ * m * m.adjugate := by rw [hmul', one_mul]
    _ = mᵀ := by rw [mul_assoc, mul_adjugate, hdet, one_smul, mul_one]

/-- The products are those of one quaternion: the matrix of products has rank one. -/
theorem quaternionProducts_mul [CommRing R] {m : Matrix (Fin 3) (Fin 3) R}
    (h : m ∈ specialOrthogonalGroup (Fin 3) R) (a b c : Fin 4) :
    quaternionProducts m a a * quaternionProducts m b c =
      quaternionProducts m a b * quaternionProducts m a c := by
  obtain ⟨hrow, hcolumn, hminor⟩ := rotation_entries h
  simp only [← Matrix.ext_iff, Fin.forall_fin_succ, mul_apply, Fin.sum_univ_three, transpose_apply, one_apply,
    adjugate_fin_three] at hrow hcolumn hminor
  simp at hrow hcolumn hminor
  -- a polynomial identity for each of the entries
  fin_cases a <;> fin_cases b <;> fin_cases c <;> simp [quaternionProducts] <;> grind

section Field
variable [Field R] [LinearOrder R] (sqrt : R → R)

/-- The row of the products that the quaternion is taken from. -/
def quaternionPivot (m : Matrix (Fin 3) (Fin 3) R) : Fin 4 :=
  if 0 < m 0 0 + m 1 1 + m 2 2 then 0
  else
    let i : Fin 3 := if m 0 0 < m 1 1 then 1 else 0
    if m i i < m 2 2 then 3 else i.succ

/-- The component `a` of the quaternion of a rotation. -/
def quaternionComponent (m : Matrix (Fin 3) (Fin 3) R) (a : Fin 4) : R :=
  let pivot := quaternionPivot m
  let t := sqrt (quaternionProducts m pivot pivot)
  if a = pivot then 1 / (2 : ℕ) * t else quaternionProducts m pivot a * (1 / (2 : ℕ) / t)

/-- The quaternion of a rotation. -/
def quaternionOfMatrix (m : Matrix (Fin 3) (Fin 3) R) : ℍ[R] :=
  ⟨quaternionComponent sqrt m 0, quaternionComponent sqrt m 1, quaternionComponent sqrt m 2,
    quaternionComponent sqrt m 3⟩

variable [IsStrictOrderedRing R] {m : Matrix (Fin 3) (Fin 3) R} {sqrt}

theorem quaternionPivot_pos (m : Matrix (Fin 3) (Fin 3) R) :
    0 < quaternionProducts m (quaternionPivot m) (quaternionPivot m) := by
  unfold quaternionPivot
  -- the diagonal of the products sums to four, and its first entry is at most one here
  by_cases htrace : 0 < m 0 0 + m 1 1 + m 2 2
  · rw [if_pos htrace]
    simp [quaternionProducts]
    linarith
  rw [if_neg htrace]
  by_cases h01 : m 0 0 < m 1 1
  · rw [if_pos h01]
    by_cases h12 : m 1 1 < m 2 2
    · simp [quaternionProducts, h12]
      linarith
    · simp [quaternionProducts, h12]
      linarith
  · rw [if_neg h01]
    by_cases h02 : m 0 0 < m 2 2
    · simp [quaternionProducts, h02]
      linarith
    · simp [quaternionProducts, h02]
      linarith

/-- A quaternion with these products of components is a unit, and has the matrix. -/
theorem rotationMatrix_of_products {q : ℍ[R]} (component : Fin 4 → R)
    (hre : q.re = component 0) (hI : q.imI = component 1) (hJ : q.imJ = component 2) (hK : q.imK = component 3)
    (h : ∀ a b, (4 : ℕ) * (component a * component b) = quaternionProducts m a b) :
    normSq q = 1 ∧ rotationMatrix q = m := by
  simp only [Fin.forall_fin_succ, quaternionProducts] at h
  simp [← hre, ← hI, ← hJ, ← hK] at h
  refine ⟨?_, ?_⟩
  · rw [normSq_def']
    grind
  · ext i j
    fin_cases i <;> fin_cases j <;> simp [rotationMatrix] <;> grind

/-- Every component is half its product with the row's own component, over the root. -/
theorem quaternionComponent_eq (hsqrt : ∀ x, 0 ≤ x → sqrt x * sqrt x = x) (m : Matrix (Fin 3) (Fin 3) R)
    (a : Fin 4) :
    quaternionComponent sqrt m a = quaternionProducts m (quaternionPivot m) a /
      ((2 : ℕ) * sqrt (quaternionProducts m (quaternionPivot m) (quaternionPivot m))) := by
  have hpos := quaternionPivot_pos m
  have hroot := hsqrt _ hpos.le
  simp only [quaternionComponent]
  generalize quaternionPivot m = pivot at hpos hroot ⊢
  have hne : sqrt (quaternionProducts m pivot pivot) ≠ 0 := fun h0 => by
    rw [h0, mul_zero] at hroot
    exact hpos.ne hroot
  split_ifs with ha
  · rw [ha]
    nth_rewrite 2 [← hroot]
    field_simp
  · field_simp

/-- The quaternion of a proper rotation is a unit, and has the matrix of the rotation. -/
theorem quaternionOfMatrix_spec (hsqrt : ∀ x, 0 ≤ x → sqrt x * sqrt x = x)
    (h : m ∈ specialOrthogonalGroup (Fin 3) R) :
    normSq (quaternionOfMatrix sqrt m) = 1 ∧ rotationMatrix (quaternionOfMatrix sqrt m) = m := by
  refine rotationMatrix_of_products (quaternionComponent sqrt m) rfl rfl rfl rfl fun a b => ?_
  have hpos := quaternionPivot_pos m
  have hmul := quaternionProducts_mul h (quaternionPivot m)
  have hroot := hsqrt _ hpos.le
  simp only [quaternionComponent_eq hsqrt]
  generalize quaternionPivot m = pivot at hpos hmul hroot ⊢
  generalize sqrt (quaternionProducts m pivot pivot) = t at hroot ⊢
  calc (4 : ℕ) * (quaternionProducts m pivot a / ((2 : ℕ) * t) * (quaternionProducts m pivot b / ((2 : ℕ) * t)))
      = quaternionProducts m pivot a * quaternionProducts m pivot b / (t * t) := by
        field_simp
        ring
    _ = quaternionProducts m a b := by
        rw [hroot, ← hmul a b, mul_div_cancel_left₀ _ hpos.ne']

end Field

/-! ### The quaternions of a rotation -/

section Components
variable [Field R]

/-- The components of a quaternion, its real part first. -/
def quaternionComponents (q : ℍ[R]) : Fin 4 → R := ![q.re, q.imI, q.imJ, q.imK]

theorem sum_quaternionComponents (q : ℍ[R]) :
    ∑ a, quaternionComponents q a * quaternionComponents q a = normSq q := by
  simp only [normSq_def', Fin.sum_univ_four, quaternionComponents, cons_val]
  ring

/-- The products of the components of a unit quaternion are those of its matrix. -/
theorem four_mul_quaternionComponents {q : ℍ[R]} (h : normSq q = 1) (a b : Fin 4) :
    (4 : ℕ) * (quaternionComponents q a * quaternionComponents q b) = quaternionProducts (rotationMatrix q) a b := by
  rw [normSq_def'] at h
  fin_cases a <;> fin_cases b <;> simp [quaternionComponents, quaternionProducts, rotationMatrix] <;> grind

theorem eq_or_eq_neg_of_rotationMatrix_eq [CharZero R] {p q : ℍ[R]} (hp : normSq p = 1) (hq : normSq q = 1)
    (h : rotationMatrix p = rotationMatrix q) : p = q ∨ p = -q := by
  let P := quaternionComponents p
  let Q := quaternionComponents q
  have hproducts (a b : Fin 4) : P a * P b = Q a * Q b := by
    refine mul_left_cancel₀ (Nat.cast_ne_zero.mpr (by decide : 4 ≠ 0)) ?_
    rw [four_mul_quaternionComponents hp, four_mul_quaternionComponents hq, h]
  -- the first is a multiple of the second, by their inner product
  have hmultiple (b : Fin 4) : P b = (∑ a, P a * Q a) * Q b := calc
    P b = (∑ a, P a * P a) * P b := by rw [sum_quaternionComponents, hp, one_mul]
    _ = ∑ a, P a * (P a * P b) := by simp only [Finset.sum_mul, mul_assoc]
    _ = (∑ a, P a * Q a) * Q b := by simp only [hproducts, Finset.sum_mul, mul_assoc]
  have hsquare : (∑ a, P a * Q a) * (∑ a, P a * Q a) = 1 := calc
    (∑ a, P a * Q a) * (∑ a, P a * Q a) = (∑ a, P a * Q a) * (∑ a, P a * Q a) * ∑ b, Q b * Q b := by
      rw [sum_quaternionComponents, hq, mul_one]
    _ = ∑ b, (∑ a, P a * Q a) * Q b * ((∑ a, P a * Q a) * Q b) := by
      rw [Finset.mul_sum]
      exact Finset.sum_congr rfl fun b _ => by ring
    _ = 1 := by
      simp only [← hmultiple]
      exact (sum_quaternionComponents p).trans hp
  rcases mul_self_eq_one_iff.mp hsquare with hdot | hdot
  · rw [hdot] at hmultiple
    simp only [one_mul] at hmultiple
    exact .inl (QuaternionAlgebra.ext (hmultiple 0) (hmultiple 1) (hmultiple 2) (hmultiple 3))
  · rw [hdot] at hmultiple
    simp only [neg_one_mul] at hmultiple
    exact .inr (QuaternionAlgebra.ext (hmultiple 0) (hmultiple 1) (hmultiple 2) (hmultiple 3))

end Components

end MoveitPlanning.Foundation
