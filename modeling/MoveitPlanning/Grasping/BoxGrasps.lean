import Mathlib.Analysis.SpecialFunctions.Trigonometric.Angle
import Mathlib.Tactic.IntervalCases
import MoveitPlanning.Grasping.BoundingBox
import MoveitPlanning.Grasping.RetractDistance
import MoveitPlanning.Grasping.Surfaces

/-! The grasp poses on the faces of a box, in exact arithmetic. The base of a face turns the
tool's z axis onto the inward normal and puts its origin at the centre of the face; a pose
is the base turned about that axis, seen from the frame of the object. Going back along
the axis from there, and then forward, one enters the box through the face. -/

namespace MoveitPlanning.Grasping

open Foundation Scene Matrix

/-! ### The poses -/

section Code
variable {R : Type*} [Field R] (eigen : Eigen R)

/-- `AngleAxisd::toRotationMatrix`. -/
def angleAxis (angle : R) (axis : Fin 3 → R) : Matrix (Fin 3) (Fin 3) R :=
  let sinAxis := eigen.sin angle • axis
  let c := eigen.cos angle
  let cos1Axis := (1 - c) • axis
  !![cos1Axis 0 * axis 0 + c, cos1Axis 0 * axis 1 - sinAxis 2, cos1Axis 0 * axis 2 + sinAxis 1;
    cos1Axis 0 * axis 1 + sinAxis 2, cos1Axis 1 * axis 1 + c, cos1Axis 1 * axis 2 - sinAxis 0;
    cos1Axis 0 * axis 2 - sinAxis 1, cos1Axis 1 * axis 2 + sinAxis 0, cos1Axis 2 * axis 2 + c]

/-- `r_base` and `t_surf` of a surface; `none` where the loop skips it. -/
def surfaceBase (dims : Fin 3 → R) : ℤ → Option (Transform R)
  | 0 => some ⟨angleAxis eigen (-eigen.pi / (2 : ℕ)) ![0, 1, 0], ![dims 0 / (2 : ℕ), 0, 0]⟩
  | 1 => some ⟨angleAxis eigen (eigen.pi / (2 : ℕ)) ![0, 1, 0], ![-dims 0 / (2 : ℕ), 0, 0]⟩
  | 2 => some ⟨angleAxis eigen (eigen.pi / (2 : ℕ)) ![1, 0, 0], ![0, dims 1 / (2 : ℕ), 0]⟩
  | 3 => some ⟨angleAxis eigen (-eigen.pi / (2 : ℕ)) ![1, 0, 0], ![0, -dims 1 / (2 : ℕ), 0]⟩
  | 4 => some ⟨angleAxis eigen eigen.pi ![1, 0, 0], ![0, 0, dims 2 / (2 : ℕ)]⟩
  | 5 => some ⟨1, ![0, 0, -dims 2 / (2 : ℕ)]⟩
  | _ => none

/-- `t_surface_local` of a surface and a rotation. -/
def surfaceLocal (dims : Fin 3 → R) (surface numRotations : ℤ) (i : ℕ) : Option (Transform R) :=
  (surfaceBase eigen dims surface).map fun base =>
    let angleStep := (2 : ℕ) * eigen.pi / numRotations
    let theta := i * angleStep
    ⟨base.linear * angleAxis eigen theta ![0, 0, 1], base.translation⟩

/-- The pose that `GenerateBoxGraspPoses::compute` spawns for a surface and a rotation. -/
def boxGraspPose (box : BoundingBox R) (surface numRotations : ℤ) (i : ℕ) : Option (Pose R) :=
  (surfaceLocal eigen box.dimensions surface numRotations i).map fun tSurfaceLocal =>
    isometryToPose eigen (box.centerTransform * tSurfaceLocal)

/-- The surfaces that have poses are those that the generator does not skip. -/
theorem boxGraspPose_isSome_iff (box : BoundingBox R) (surface numRotations : ℤ) (i : ℕ) :
    (boxGraspPose eigen box surface numRotations i).isSome ↔ IsFace surface := by
  simp only [boxGraspPose, surfaceLocal, Option.isSome_map]
  constructor
  · intro h
    unfold surfaceBase at h
    split at h
    case h_7 => cases h
    all_goals decide
  · rintro ⟨hge, hle⟩
    interval_cases surface <;> rfl

end Code

/-! ### The faces -/

/-- The outward normal of a face. -/
def outwardNormal {R : Type*} [Ring R] : ℤ → Fin 3 → R
  | 0 => ![1, 0, 0]
  | 1 => ![-1, 0, 0]
  | 2 => ![0, 1, 0]
  | 3 => ![0, -1, 0]
  | 4 => ![0, 0, 1]
  | 5 => ![0, 0, -1]
  | _ => 0

/-- The centre of a face, in the frame of the box. -/
def faceCenter {R : Type*} [Field R] (dims : Fin 3 → R) (surface : ℤ) : Fin 3 → R :=
  fun k => outwardNormal surface k * (dims k / (2 : ℕ))

section Exact
variable {eigen : Eigen ℝ}

theorem angleAxis_x (angle : ℝ) :
    angleAxis eigen angle ![1, 0, 0] *ᵥ ![0, 0, 1] = ![0, -eigen.sin angle, eigen.cos angle] := by
  funext k
  fin_cases k <;> simp [angleAxis, mulVec, dotProduct, Fin.sum_univ_three]

theorem angleAxis_y (angle : ℝ) :
    angleAxis eigen angle ![0, 1, 0] *ᵥ ![0, 0, 1] = ![eigen.sin angle, 0, eigen.cos angle] := by
  funext k
  fin_cases k <;> simp [angleAxis, mulVec, dotProduct, Fin.sum_univ_three]

theorem angleAxis_z (angle : ℝ) : angleAxis eigen angle ![0, 0, 1] *ᵥ ![0, 0, 1] = ![0, 0, 1] := by
  funext k
  fin_cases k <;> simp [angleAxis, mulVec, dotProduct, Fin.sum_univ_three]

variable (hexact : eigen.Exact)
include hexact

theorem angleAxis_mem (angle : ℝ) {axis : Fin 3 → ℝ} (haxis : axis 0 ^ 2 + axis 1 ^ 2 + axis 2 ^ 2 = 1) :
    angleAxis eigen angle axis ∈ specialOrthogonalGroup (Fin 3) ℝ := by
  have hcircle := Real.sin_sq_add_cos_sq angle
  rw [angleAxis, hexact.sin, hexact.cos]
  refine mem_rotation_iff.mpr ⟨?_, ?_⟩
  · ext i j
    fin_cases i <;> fin_cases j <;> simp [mul_apply, Fin.sum_univ_three] <;> grind
  · rw [det_fin_three]
    simp only [of_apply, cons_val, Pi.smul_apply, smul_eq_mul]
    grind

/-- The base of a face is a rotation, has its origin at the centre of the face, and turns
the tool's z axis onto the inward normal. -/
theorem surfaceBase_spec (dims : Fin 3 → ℝ) {surface : ℤ} (hface : IsFace surface) :
    ∃ base, surfaceBase eigen dims surface = some base ∧ base.IsRigid ∧
      base.translation = faceCenter dims surface ∧ base.linear *ᵥ ![0, 0, 1] = -outwardNormal surface := by
  obtain ⟨hsin, hcos⟩ : eigen.sin (eigen.pi / (2 : ℕ)) = 1 ∧ eigen.cos (eigen.pi / (2 : ℕ)) = 0 := by
    simp [hexact.sin, hexact.cos, hexact.pi]
  obtain ⟨hsin', hcos'⟩ : eigen.sin (-eigen.pi / (2 : ℕ)) = -1 ∧ eigen.cos (-eigen.pi / (2 : ℕ)) = 0 := by
    simp [hexact.sin, hexact.cos, hexact.pi, neg_div]
  obtain ⟨hsinPi, hcosPi⟩ : eigen.sin eigen.pi = 0 ∧ eigen.cos eigen.pi = -1 := by
    simp [hexact.sin, hexact.cos, hexact.pi]
  obtain ⟨hge, hle⟩ := hface
  interval_cases surface
  · refine ⟨_, rfl, angleAxis_mem hexact _ (by simp), ?_, ?_⟩
    · funext k
      fin_cases k <;> simp [faceCenter, outwardNormal]
    · rw [angleAxis_y, hsin', hcos']
      simp [outwardNormal]
  · refine ⟨_, rfl, angleAxis_mem hexact _ (by simp), ?_, ?_⟩
    · funext k
      fin_cases k <;> simp [faceCenter, outwardNormal, neg_div]
    · rw [angleAxis_y, hsin, hcos]
      simp [outwardNormal]
  · refine ⟨_, rfl, angleAxis_mem hexact _ (by simp), ?_, ?_⟩
    · funext k
      fin_cases k <;> simp [faceCenter, outwardNormal]
    · rw [angleAxis_x, hsin, hcos]
      simp [outwardNormal]
  · refine ⟨_, rfl, angleAxis_mem hexact _ (by simp), ?_, ?_⟩
    · funext k
      fin_cases k <;> simp [faceCenter, outwardNormal, neg_div]
    · rw [angleAxis_x, hsin', hcos']
      simp [outwardNormal]
  · refine ⟨_, rfl, angleAxis_mem hexact _ (by simp), ?_, ?_⟩
    · funext k
      fin_cases k <;> simp [faceCenter, outwardNormal]
    · rw [angleAxis_x, hsinPi, hcosPi]
      simp [outwardNormal]
  · refine ⟨_, rfl, one_mem _, ?_, ?_⟩
    · funext k
      fin_cases k <;> simp [faceCenter, outwardNormal, neg_div]
    · simp [outwardNormal]

theorem surfaceLocal_spec (dims : Fin 3 → ℝ) {surface : ℤ} (hface : IsFace surface) (numRotations : ℤ) (i : ℕ) :
    ∃ L, surfaceLocal eigen dims surface numRotations i = some L ∧ L.IsRigid ∧
      L.translation = faceCenter dims surface ∧ L.linear *ᵥ ![0, 0, 1] = -outwardNormal surface := by
  obtain ⟨base, hbase, hrigid, hcenter, haxis⟩ := surfaceBase_spec hexact dims hface
  refine ⟨_, congrArg (Option.map _) hbase, mul_mem hrigid (angleAxis_mem hexact _ (by simp)), hcenter, ?_⟩
  rw [← mulVec_mulVec, angleAxis_z, haxis]

theorem angleAxis_step_injective {numRotations : ℤ} {i j : ℕ} (hi : (i : ℤ) < numRotations)
    (hj : (j : ℤ) < numRotations)
    (h : angleAxis eigen (i * ((2 : ℕ) * eigen.pi / numRotations)) ![0, 0, 1] =
      angleAxis eigen (j * ((2 : ℕ) * eigen.pi / numRotations)) ![0, 0, 1]) : i = j := by
  rw [hexact.pi] at h
  have hcos : Real.cos (i * ((2 : ℕ) * Real.pi / numRotations)) = Real.cos (j * ((2 : ℕ) * Real.pi / numRotations)) := by
    simpa [angleAxis, hexact.cos] using congrFun (congrFun h 0) 0
  have hsin : Real.sin (i * ((2 : ℕ) * Real.pi / numRotations)) = Real.sin (j * ((2 : ℕ) * Real.pi / numRotations)) := by
    simpa [angleAxis, hexact.sin] using congrFun (congrFun h 1) 0
  obtain ⟨k, hk⟩ := Real.Angle.angle_eq_iff_two_pi_dvd_sub.mp (Real.Angle.cos_sin_inj hcos hsin)
  have hn : (numRotations : ℝ) ≠ 0 := Int.cast_ne_zero.mpr (by omega)
  have hdiff : (i : ℤ) - j = numRotations * k := by
    have hpi := Real.pi_ne_zero
    have hreal : (i : ℝ) - j = numRotations * k := by
      push_cast at hk
      field_simp at hk
      linarith
    exact_mod_cast hreal
  have hzero : (i : ℤ) - j = 0 := Int.eq_zero_of_abs_lt_dvd ⟨k, hdiff⟩ (abs_lt.mpr ⟨by omega, by omega⟩)
  omega

end Exact

/-! ### Entering the box -/

/-- The nearest point of the box is the centre of the face, at the distance; going ahead
along the tool's z axis, one enters the box there. -/
structure EntersThrough (box : BoundingBox ℝ) (surface : ℤ) (distance : ℝ) (pose : Transform ℝ) : Prop where
  outside : ¬box.Contains pose.translation
  nearest : ∀ p, box.Contains p → distance ^ 2 ≤ (pose.translation - p) ⬝ᵥ (pose.translation - p)
  center : let c := box.centerTransform.act (faceCenter box.dimensions surface)
    (pose.translation - c) ⬝ᵥ (pose.translation - c) = distance ^ 2
  contact : pose.act ![0, 0, distance] = box.centerTransform.act (faceCenter box.dimensions surface)
  inside : ∃ depth, 0 < depth ∧ ∀ t, box.Contains (pose.act ![0, 0, t]) ↔ distance ≤ t ∧ t ≤ distance + depth

section Geometry
variable {box : BoundingBox ℝ} {surface : ℤ}

theorem exists_outwardNormal_eq (hface : IsFace surface) :
    ∃ (axis : Fin 3) (sign : ℝ), |sign| = 1 ∧ outwardNormal surface = Pi.single axis sign := by
  obtain ⟨hge, hle⟩ := hface
  interval_cases surface
  · refine ⟨0, 1, by norm_num, ?_⟩
    funext k
    fin_cases k <;> simp [outwardNormal]
  · refine ⟨0, -1, by norm_num, ?_⟩
    funext k
    fin_cases k <;> simp [outwardNormal]
  · refine ⟨1, 1, by norm_num, ?_⟩
    funext k
    fin_cases k <;> simp [outwardNormal]
  · refine ⟨1, -1, by norm_num, ?_⟩
    funext k
    fin_cases k <;> simp [outwardNormal]
  · refine ⟨2, 1, by norm_num, ?_⟩
    funext k
    fin_cases k <;> simp [outwardNormal]
  · refine ⟨2, -1, by norm_num, ?_⟩
    funext k
    fin_cases k <;> simp [outwardNormal]

theorem contains_act_iff (hcenter : box.centerTransform.IsRigid) (q : Fin 3 → ℝ) :
    box.Contains (box.centerTransform.act q) ↔ ∀ k, |q k| ≤ box.dimensions k / (2 : ℕ) := by
  constructor
  · rintro ⟨q', hact, hq'⟩
    rwa [hcenter.act_injective hact] at hq'
  · exact fun hq => ⟨q, rfl, hq⟩

theorem sub_act_dotProduct {T : Transform ℝ} (hT : T.IsRigid) (p q : Fin 3 → ℝ) :
    (T.act p - T.act q) ⬝ᵥ (T.act p - T.act q) = (p - q) ⬝ᵥ (p - q) := by
  have hsub : T.act p - T.act q = T.linear *ᵥ (p - q) := by
    rw [Transform.act, Transform.act, mulVec_sub]
    abel
  rw [hsub, hT.dotProduct_mulVec]

/-- A point on an axis of the box is in the box when it is not too far out. -/
theorem single_inside_iff (hdims : ∀ k, 0 < box.dimensions k) (axis : Fin 3) (c : ℝ) :
    (∀ k, |(Pi.single axis c : Fin 3 → ℝ) k| ≤ box.dimensions k / (2 : ℕ)) ↔
      |c| ≤ box.dimensions axis / (2 : ℕ) := by
  constructor
  · intro h
    simpa using h axis
  · intro h k
    by_cases hk : k = axis
    · subst hk
      simpa using h
    · rw [Pi.single_eq_of_ne hk, abs_zero]
      exact (div_pos (hdims k) (by norm_num)).le

/-- A point that is far out on one axis is as far from every point that is not. -/
theorem sq_le_dotProduct_sub {p q : Fin 3 → ℝ} {axis : Fin 3} {d r : ℝ} (hr : 0 ≤ r) (hp : d + r ≤ |p axis|)
    (hq : |q axis| ≤ d) : r ^ 2 ≤ (p - q) ⬝ᵥ (p - q) := by
  have hfar : r ≤ |p axis - q axis| := by
    have htriangle := abs_sub_abs_le_abs_sub (p axis) (q axis)
    linarith
  calc r ^ 2 ≤ |p axis - q axis| ^ 2 := pow_le_pow_left₀ hr hfar 2
    _ = (p - q) axis * (p - q) axis := by rw [sq_abs, Pi.sub_apply, sq]
    _ ≤ (p - q) ⬝ᵥ (p - q) :=
      Finset.single_le_sum (fun k _ => mul_self_nonneg ((p - q) k)) (Finset.mem_univ axis)

/-- Going back by the distance from the centre of a face, against the inward normal, the
box is ahead. -/
theorem entersThrough_of_back (hdims : ∀ k, 0 < box.dimensions k) (hcenter : box.centerTransform.IsRigid)
    (hface : IsFace surface) {L : Transform ℝ} (htranslation : L.translation = faceCenter box.dimensions surface)
    (haxis : L.linear *ᵥ ![0, 0, 1] = -outwardNormal surface) {r : ℝ} (hr : 0 < r) :
    EntersThrough box surface r (box.centerTransform * L * .translate ![0, 0, -r]) := by
  obtain ⟨axis, sign, hsign, hnormal⟩ := exists_outwardNormal_eq hface
  have hd : 0 < box.dimensions axis / (2 : ℕ) := div_pos (hdims axis) (by norm_num)
  have hfaceCenter : faceCenter box.dimensions surface = Pi.single axis (sign * (box.dimensions axis / (2 : ℕ))) := by
    funext k
    by_cases hk : k = axis
    · subst hk
      simp [faceCenter, hnormal]
    · simp [faceCenter, hnormal, hk]
  generalize hdef : box.dimensions axis / (2 : ℕ) = d at hd hfaceCenter
  have habs (x : ℝ) : |sign * x| = |x| := by rw [abs_mul, hsign, one_mul]
  -- the way along the tool's z axis stays on the axis of the face
  have hway (t : ℝ) : (box.centerTransform * L * .translate ![0, 0, -r]).act ![0, 0, t] =
      box.centerTransform.act (Pi.single axis (sign * (d + (r - t)))) := by
    have hvec : (![0, 0, t] + ![0, 0, -r] : Fin 3 → ℝ) = (t - r) • ![0, 0, 1] := by
      funext k
      fin_cases k <;> simp [sub_eq_add_neg]
    have hlocal : L.act ((t - r) • ![0, 0, 1]) = Pi.single axis (sign * (d + (r - t))) := by
      rw [Transform.act, mulVec_smul, haxis, htranslation, hfaceCenter, hnormal, ← Pi.single_neg, ← Pi.single_smul,
        ← Pi.single_add, smul_eq_mul]
      congr 1
      ring
    rw [Transform.mul_act, Transform.mul_act, Transform.translate_act, hvec, hlocal]
  have horigin : (box.centerTransform * L * .translate ![0, 0, -r]).translation =
      box.centerTransform.act (Pi.single axis (sign * (d + r))) := by
    have hzero := hway 0
    have hvec : (![0, 0, 0] : Fin 3 → ℝ) = 0 := by simp
    rw [hvec, Transform.act, mulVec_zero, zero_add, sub_zero] at hzero
    exact hzero
  constructor
  · rw [horigin, contains_act_iff hcenter, single_inside_iff hdims, hdef, habs, abs_of_pos (add_pos hd hr)]
    linarith
  · rintro p ⟨q, rfl, hq⟩
    rw [horigin, sub_act_dotProduct hcenter]
    refine sq_le_dotProduct_sub hr.le ?_ (hdef ▸ hq axis)
    rw [Pi.single_eq_same, habs, abs_of_pos (add_pos hd hr)]
  · intro c
    rw [horigin, sub_act_dotProduct hcenter, hfaceCenter, ← Pi.single_sub, single_dotProduct, Pi.single_eq_same,
      ← sq, ← sq_abs, ← mul_sub, habs, add_sub_cancel_left, sq_abs]
  · rw [hway, sub_self, add_zero, hfaceCenter]
  · refine ⟨(2 : ℕ) * d, mul_pos (by norm_num) hd, fun t => ?_⟩
    rw [hway, contains_act_iff hcenter, single_inside_iff hdims, hdef, habs, abs_le]
    constructor
    · rintro ⟨hlow, hhigh⟩
      exact ⟨by linarith, by push_cast; linarith⟩
    · rintro ⟨hlow, hhigh⟩
      push_cast at hhigh
      exact ⟨by linarith, by linarith⟩

end Geometry

/-! ### The poses and their fallback pre-grasps -/

/-- The pre-grasp of a solution that falls back lies back from its target pose. -/
theorem SceneSolution.preGraspPose_of_fallback {S : Type} {eigen : Eigen ℝ} (hexact : eigen.Exact)
    {kinematics : Kinematics ℝ S (Transform ℝ)} {r : ℝ} {s : SceneSolution ℝ S (Transform ℝ)} {frameId : Name}
    {pose : Pose ℝ} {W : Transform ℝ} {poses : GraspPoses ℝ} (htarget : s.targetPose = .ok (frameId, pose))
    (hworld : s.getFrameTransform frameId = .ok W) (hW : W.IsRigid) (hfallback : s.approachStart = none)
    (h : s.poses (.exact eigen) kinematics r = some poses) :
    poseToIsometry eigen poses.preGraspPose = poseToIsometry eigen pose * .translate ![0, 0, -r] := by
  obtain ⟨_, _, _, world, htarget', hworld', rfl, hcases⟩ := SceneSolution.poses_cases h
  obtain ⟨rfl, rfl⟩ := Prod.mk.inj (Except.ok.inj (htarget.symm.trans htarget'))
  obtain rfl := Except.ok.inj (hworld.symm.trans hworld')
  rcases hcases with ⟨state, hstart, -⟩ | ⟨-, rfl⟩
  · cases hfallback.symm.trans hstart
  · exact poseToIsometry_objectTPregrasp hexact hW (isRigid_poseToIsometry hexact _) r

section Exact
variable {eigen : Eigen ℝ} (hexact : eigen.Exact) {box : BoundingBox ℝ}
  (hcenter : box.centerTransform.IsRigid) {surface : ℤ} (hface : IsFace surface)
include hexact hcenter hface

/-- A pose is the centre transform after a motion that puts the tool at the centre of the
face, with its z axis along the inward normal. -/
theorem boxGraspPose_spec (numRotations : ℤ) (i : ℕ) :
    ∃ pose L, boxGraspPose eigen box surface numRotations i = some pose ∧
      surfaceLocal eigen box.dimensions surface numRotations i = some L ∧ L.IsRigid ∧
      poseToIsometry eigen pose = box.centerTransform * L ∧ L.translation = faceCenter box.dimensions surface ∧
      L.linear *ᵥ ![0, 0, 1] = -outwardNormal surface := by
  obtain ⟨L, hlocal, hrigid, htranslation, haxis⟩ := surfaceLocal_spec hexact box.dimensions hface numRotations i
  exact ⟨_, L, congrArg (Option.map _) hlocal, hlocal, hrigid,
    poseToIsometry_isometryToPose hexact (hcenter.mul hrigid), htranslation, haxis⟩

theorem boxGraspPose_injective {numRotations : ℤ} {i j : ℕ} (hi : (i : ℤ) < numRotations) (hj : (j : ℤ) < numRotations)
    {pose pose' : Pose ℝ} (hpose : boxGraspPose eigen box surface numRotations i = some pose)
    (hpose' : boxGraspPose eigen box surface numRotations j = some pose')
    (h : poseToIsometry eigen pose = poseToIsometry eigen pose') : i = j := by
  obtain ⟨_, L, hsome, hlocal, -, hmap, -⟩ := boxGraspPose_spec hexact hcenter hface numRotations i
  obtain rfl := Option.some.inj (hpose.symm.trans hsome)
  obtain ⟨_, L', hsome', hlocal', -, hmap', -⟩ := boxGraspPose_spec hexact hcenter hface numRotations j
  obtain rfl := Option.some.inj (hpose'.symm.trans hsome')
  obtain ⟨base, hbase, hrigid, -⟩ := surfaceBase_spec hexact box.dimensions hface
  rw [surfaceLocal, hbase, Option.map_some] at hlocal hlocal'
  have hL : L = L' := by
    rw [← one_mul L, ← hcenter.inverse_mul, mul_assoc, ← hmap, h, hmap', ← mul_assoc, hcenter.inverse_mul, one_mul]
  rw [← Option.some.inj hlocal, ← Option.some.inj hlocal'] at hL
  have hlinear := congrArg Transform.linear hL
  have hturns := congrArg (base.linearᵀ * ·) hlinear
  simp only [← mul_assoc, hrigid.transpose_mul, one_mul] at hturns
  exact angleAxis_step_injective hexact hi hj hturns

end Exact

/-- On every face of a box the poses put the tool's z axis along the inward normal at the
centre of the face, the rotations differ, and from the fallback's pre-grasp pose one
enters the box through the face, after the retract distance. -/
theorem box_grasp_poses {S : Type} {eigen : Eigen ℝ} (hexact : eigen.Exact) {box : BoundingBox ℝ}
    (hdims : ∀ k, 0 < box.dimensions k) (hcenter : box.centerTransform.IsRigid) {surface : ℤ}
    (hface : 0 ≤ surface ∧ surface ≤ 5) (numRotations : ℤ) (kinematics : Kinematics ℝ S (Transform ℝ)) {r : ℝ}
    (hr : 0 < r) :
    (∀ i, ∃ pose L, boxGraspPose eigen box surface numRotations i = some pose ∧ L.IsRigid ∧
      poseToIsometry eigen pose = box.centerTransform * L ∧ L.translation = faceCenter box.dimensions surface ∧
      L.linear *ᵥ ![0, 0, 1] = -outwardNormal surface ∧
      ∀ (s : SceneSolution ℝ S (Transform ℝ)) frameId W poses, s.targetPose = .ok (frameId, pose) →
        s.getFrameTransform frameId = .ok W → W.IsRigid → s.approachStart = none →
        s.poses (.exact eigen) kinematics r = some poses →
        EntersThrough box surface r (poseToIsometry eigen poses.preGraspPose)) ∧
    ∀ i j : ℕ, (i : ℤ) < numRotations → (j : ℤ) < numRotations → ∀ pose pose',
      boxGraspPose eigen box surface numRotations i = some pose →
      boxGraspPose eigen box surface numRotations j = some pose' →
      poseToIsometry eigen pose = poseToIsometry eigen pose' → i = j := by
  refine ⟨fun i => ?_, fun i j hi hj pose pose' hpose hpose' h =>
    boxGraspPose_injective hexact hcenter hface hi hj hpose hpose' h⟩
  obtain ⟨pose, L, hsome, -, hrigid, hmap, htranslation, haxis⟩ := boxGraspPose_spec hexact hcenter hface numRotations i
  refine ⟨pose, L, hsome, hrigid, hmap, htranslation, haxis, ?_⟩
  intro s frameId W poses htarget hworld hW hfallback hposes
  rw [SceneSolution.preGraspPose_of_fallback hexact htarget hworld hW hfallback hposes, hmap]
  exact entersThrough_of_back hdims hcenter hface htranslation haxis hr

namespace Sample

/-- A box of the lengths 1, at the origin of its object. -/
def unitBox : BoundingBox ℝ := ⟨1, 1⟩

end Sample

theorem box_grasp_poses_top :
    (∀ i, ∃ pose L, boxGraspPose Eigen.real Sample.unitBox 4 2 i = some pose ∧ L.IsRigid ∧
      poseToIsometry Eigen.real pose = Sample.unitBox.centerTransform * L ∧
      L.translation = faceCenter Sample.unitBox.dimensions 4 ∧ L.linear *ᵥ ![0, 0, 1] = -outwardNormal 4 ∧
      ∀ (s : SceneSolution ℝ ℝ (Transform ℝ)) frameId W poses, s.targetPose = .ok (frameId, pose) →
        s.getFrameTransform frameId = .ok W → W.IsRigid → s.approachStart = none →
        s.poses (.exact Eigen.real) Sample.lift 1 = some poses →
        EntersThrough Sample.unitBox 4 1 (poseToIsometry Eigen.real poses.preGraspPose)) ∧
    ∀ i j : ℕ, (i : ℤ) < 2 → (j : ℤ) < 2 → ∀ pose pose',
      boxGraspPose Eigen.real Sample.unitBox 4 2 i = some pose →
      boxGraspPose Eigen.real Sample.unitBox 4 2 j = some pose' →
      poseToIsometry Eigen.real pose = poseToIsometry Eigen.real pose' → i = j := by
  have hdims : ∀ k, 0 < Sample.unitBox.dimensions k := fun _ => one_pos
  have hcenter : Sample.unitBox.centerTransform.IsRigid := Transform.isRigid_one
  have hface : (0 : ℤ) ≤ 4 ∧ (4 : ℤ) ≤ 5 := by decide
  exact box_grasp_poses Eigen.real_exact hdims hcenter hface 2 Sample.lift one_pos

end MoveitPlanning.Grasping
