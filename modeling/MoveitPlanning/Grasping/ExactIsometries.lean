import Mathlib.Analysis.SpecialFunctions.Trigonometric.Basic
import MoveitPlanning.Foundation.RotationQuaternion
import MoveitPlanning.Grasping.Isometries

/-! Poses and isometries over the real numbers, where roots and angles are exact. An
orientation becomes a proper rotation, and a rigid map is what the pose made from it
stands for. A pose with a unit quaternion comes back from its isometry with that quaternion
or its negative. -/

namespace MoveitPlanning.Grasping

open Foundation Scene Matrix Quaternion

/-- Nothing is rounded, and the quaternion of a proper rotation is a unit that stands for it. -/
structure Eigen.Exact (eigen : Eigen ℝ) : Prop where
  sqrt : eigen.sqrt = Real.sqrt
  cos : eigen.cos = Real.cos
  sin : eigen.sin = Real.sin
  pi : eigen.pi = Real.pi
  quaternionOf : ∀ M ∈ specialOrthogonalGroup (Fin 3) ℝ,
    normSq (eigen.quaternionOf M).quaternion = 1 ∧ rotationMatrix (eigen.quaternionOf M).quaternion = M

theorem squaredNorm_eq_normSq (q : Quat ℝ) : squaredNorm q = normSq q.quaternion := by
  rw [normSq_def', squaredNorm, Quat.quaternion]
  ring

section Exact
variable {eigen : Eigen ℝ} (hexact : eigen.Exact)
include hexact

theorem normSq_normalized {q : Quat ℝ} (hq : 0 < squaredNorm q) :
    normSq (normalized eigen q).quaternion = 1 := by
  have hscaled (n : ℝ) : squaredNorm (⟨q.x / n, q.y / n, q.z / n, q.w / n⟩ : Quat ℝ) = squaredNorm q / n ^ 2 := by
    simp only [squaredNorm]
    ring
  rw [← squaredNorm_eq_normSq, normalized, hexact.sqrt, hscaled, Real.sq_sqrt hq.le, div_self hq.ne']

theorem normalized_of_unit {q : Quat ℝ} (hq : squaredNorm q = 1) : normalized eigen q = q := by
  rw [normalized, hexact.sqrt, hq]
  simp

theorem isRigid_poseToIsometry (pose : Pose ℝ) : (poseToIsometry eigen pose).IsRigid := by
  rw [Transform.IsRigid, poseToIsometry]
  split_ifs with hq
  · exact rotationMatrix_mem (normSq_normalized hexact (hq.trans' (by positivity)))
  · exact one_mem _

theorem poseToIsometry_identity : poseToIsometry eigen (Pose.identity : Pose ℝ) = 1 := by
  have hnorm : squaredNorm (Pose.identity : Pose ℝ).orientation = 1 := by simp [squaredNorm, Pose.identity]
  rw [← Pose.identity_transform]
  ext1
  · simp only [poseToIsometry, normalized_of_unit hexact hnorm, hnorm]
    exact if_pos (by norm_num)
  · rfl

theorem poseToIsometry_isometryToPose {T : Transform ℝ} (h : T.IsRigid) :
    poseToIsometry eigen (isometryToPose eigen T) = T := by
  obtain ⟨hunit, hmatrix⟩ := hexact.quaternionOf _ h
  have hnorm : squaredNorm (eigen.quaternionOf T.linear) = 1 := (squaredNorm_eq_normSq _).trans hunit
  ext1
  · simp only [poseToIsometry, isometryToPose, normalized_of_unit hexact hnorm, hmatrix, hnorm]
    exact if_pos (by norm_num)
  · exact Vec3.ofCoords_coords _

/-- The quaternions of the two are equal up to sign. -/
def EqUpToSign (pose pose' : Pose ℝ) : Prop :=
  pose.position = pose'.position ∧
    (pose.orientation.quaternion = pose'.orientation.quaternion ∨
      pose.orientation.quaternion = -pose'.orientation.quaternion)

theorem isometryToPose_poseToIsometry {pose : Pose ℝ} (hpose : squaredNorm pose.orientation = 1) :
    EqUpToSign (isometryToPose eigen (poseToIsometry eigen pose)) pose := by
  refine ⟨rfl, ?_⟩
  obtain ⟨hunit, hmatrix⟩ := hexact.quaternionOf _ (isRigid_poseToIsometry hexact pose)
  refine eq_or_eq_neg_of_rotationMatrix_eq hunit ((squaredNorm_eq_normSq _).symm.trans hpose) (hmatrix.trans ?_)
  rw [poseToIsometry, hpose, if_pos (by norm_num), normalized_of_unit hexact hpose]

/-- Every pose becomes a proper rigid map, every rigid map comes back from its pose, and
every pose with a unit quaternion comes back from its map, up to the sign. -/
theorem pose_isometry_round_trips :
    (∀ pose, (poseToIsometry eigen pose).linearᵀ * (poseToIsometry eigen pose).linear = 1 ∧
        (poseToIsometry eigen pose).linear.det = 1) ∧
      (∀ T : Transform ℝ, T.IsRigid → poseToIsometry eigen (isometryToPose eigen T) = T) ∧
      ∀ pose, squaredNorm pose.orientation = 1 →
        EqUpToSign (isometryToPose eigen (poseToIsometry eigen pose)) pose := by
  refine ⟨fun pose => ?_, fun T => poseToIsometry_isometryToPose hexact, fun pose =>
    isometryToPose_poseToIsometry hexact⟩
  obtain ⟨hmul, hdet⟩ := mem_rotation_iff.mp (isRigid_poseToIsometry hexact pose)
  exact ⟨mul_eq_one_comm.mp hmul, hdet⟩

end Exact

/-! ### Eigen on the real numbers -/

/-- The functions themselves, and Eigen's way from a matrix to a quaternion. -/
noncomputable def Eigen.real : Eigen ℝ where
  sqrt := Real.sqrt
  cos := Real.cos
  sin := Real.sin
  pi := Real.pi
  quaternionOf M :=
    let q := quaternionOfMatrix Real.sqrt M
    ⟨q.imI, q.imJ, q.imK, q.re⟩

theorem Eigen.real_exact : Eigen.real.Exact where
  sqrt := rfl
  cos := rfl
  sin := rfl
  pi := rfl
  quaternionOf _ hM := quaternionOfMatrix_spec (fun _ hx => Real.mul_self_sqrt hx) hM

theorem pose_isometry_round_trips_real :
    (∀ pose, (poseToIsometry Eigen.real pose).linearᵀ * (poseToIsometry Eigen.real pose).linear = 1 ∧
        (poseToIsometry Eigen.real pose).linear.det = 1) ∧
      (∀ T : Transform ℝ, T.IsRigid → poseToIsometry Eigen.real (isometryToPose Eigen.real T) = T) ∧
      ∀ pose, squaredNorm pose.orientation = 1 →
        EqUpToSign (isometryToPose Eigen.real (poseToIsometry Eigen.real pose)) pose :=
  pose_isometry_round_trips Eigen.real_exact

end MoveitPlanning.Grasping
