import MoveitPlanning.Foundation.Transform
import MoveitPlanning.Scene.World

/-! Pose messages as maps of space: the position is the translation, and the orientation,
a unit quaternion, gives the rotation. -/

namespace MoveitPlanning.Scene

open Foundation Quaternion

variable {R : Type*}

def Vec3.coords (v : Vec3 R) : Fin 3 → R := ![v.x, v.y, v.z]

def Vec3.ofCoords (p : Fin 3 → R) : Vec3 R := ⟨p 0, p 1, p 2⟩

@[simp] theorem Vec3.ofCoords_coords (p : Fin 3 → R) : (Vec3.ofCoords p).coords = p := by
  funext i
  fin_cases i <;> rfl

def Quat.quaternion [CommRing R] (q : Quat R) : ℍ[R] := ⟨q.w, q.x, q.y, q.z⟩

/-- Where a shape at the pose is, in the frame of the pose. -/
def Pose.transform [CommRing R] (pose : Pose R) : Transform R :=
  ⟨rotationMatrix pose.orientation.quaternion, pose.position.coords⟩

theorem Pose.identity_transform [CommRing R] : (Pose.identity : Pose R).transform = 1 := by
  have hone : (Pose.identity : Pose R).orientation.quaternion = 1 := rfl
  ext1
  · rw [Pose.transform, hone, rotationMatrix_one, Transform.one_linear]
  · funext i
    fin_cases i <;> rfl

end MoveitPlanning.Scene
