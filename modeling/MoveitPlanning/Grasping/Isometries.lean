import MoveitPlanning.Scene.Poses

/-! The conversions between poses and isometries, on exact numbers. A quaternion is
normalised before it becomes a matrix, and one that is nearly zero counts as no rotation.
Roots, angles and the way from a matrix to a quaternion are what Eigen computes. -/

namespace MoveitPlanning.Grasping

open Foundation Scene

variable {R : Type*}

/-- What the code takes from Eigen and the mathematical library. -/
structure Eigen (R : Type*) where
  sqrt : R → R
  cos : R → R
  sin : R → R
  pi : R
  /-- `Quaterniond(matrix)` -/
  quaternionOf : Matrix (Fin 3) (Fin 3) R → Quat R

section Field
variable [Field R]

/-- `Quaterniond::squaredNorm`. -/
def squaredNorm (q : Quat R) : R := q.x * q.x + q.y * q.y + q.z * q.z + q.w * q.w

/-- `Quaterniond::normalized`. -/
def normalized (eigen : Eigen R) (q : Quat R) : Quat R :=
  let norm := eigen.sqrt (squaredNorm q)
  ⟨q.x / norm, q.y / norm, q.z / norm, q.w / norm⟩

/-- `pose_to_isometry`. -/
def poseToIsometry [LinearOrder R] (eigen : Eigen R) (pose : Pose R) : Transform R where
  linear :=
    if 1 / (1000000 : ℕ) < squaredNorm pose.orientation then
      rotationMatrix (normalized eigen pose.orientation).quaternion
    else 1
  translation := pose.position.coords

/-- `isometry_to_pose`. -/
def isometryToPose (eigen : Eigen R) (transform : Transform R) : Pose R where
  position := .ofCoords transform.translation
  orientation := eigen.quaternionOf transform.linear

end Field

end MoveitPlanning.Grasping
