import MoveitPlanning.Grasping.ExactIsometries
import MoveitPlanning.Grasping.PreGrasp

/-! How far the pre-grasp is from the grasp. The IK solver is asked for the pose at the
retract distance, while an approach may start from anywhere between the shortest and the
longest distance of its stage. The two poses of every grasp are a function of its
solution, taken here on the real numbers. -/

namespace MoveitPlanning.Grasping

open Foundation Scene Matrix

/-! ### The poses of the grasps of a call -/

/-- The grasp pose and the pre-grasp pose of a ranked grasp, with their frames. -/
structure GraspPoses (R : Type) where
  graspFrame : Name
  graspPose : Pose R
  preGraspFrame : Name
  preGraspPose : Pose R

def RankedGrasp.poses (g : RankedGrasp) : GraspPoses Double :=
  ⟨g.grasp.graspPose.frameId, g.grasp.graspPose.pose, g.preGraspPose.frameId, g.preGraspPose.pose⟩

section Poses
variable {R S T : Type} (ops : IsometryOps R T) (kinematics : Kinematics R S T) (retractDist : R)

/-- The poses of the grasp that the loop makes of a solution. -/
def SceneSolution.poses (s : SceneSolution R S T) : Option (GraspPoses R) :=
  if s.isFailure || !s.hasEndScene then none
  else
    match s.read ops kinematics retractDist with
    | .error _ => none
    | .ok reading => reading.pregrasp.map fun p =>
      ⟨reading.frameId, reading.targetPose, reading.frameId, objectTPregrasp ops reading.worldTObject p.2⟩

variable {ops kinematics retractDist} in
theorem SceneSolution.poses_cases {s : SceneSolution R S T} {poses : GraspPoses R}
    (h : s.poses ops kinematics retractDist = some poses) :
    ∃ frameId targetPose worldTObject world, s.targetPose = .ok (frameId, targetPose) ∧
      s.getFrameTransform frameId = .ok worldTObject ∧
      poses = ⟨frameId, targetPose, frameId, objectTPregrasp ops worldTObject world⟩ ∧
      ((∃ state, s.approachStart = some state ∧ kinematics.getFrameTransform state = .ok world) ∨
        s.approachStart = none ∧ world =
          ops.mul (ops.mul worldTObject (ops.poseToIsometry targetPose)) (ops.translateBack retractDist)) := by
  unfold SceneSolution.poses at h
  split_ifs at h
  cases hread : s.read ops kinematics retractDist with
  | error exception =>
    rw [hread] at h
    cases h
  | ok reading =>
    rw [hread] at h
    obtain ⟨⟨state, world⟩, hpregrasp, rfl⟩ := Option.map_eq_some_iff.mp h
    obtain ⟨htarget, hworld, hreading⟩ := SceneSolution.read_eq_ok.mp hread
    rw [hpregrasp] at hreading
    refine ⟨_, _, _, world, htarget, hworld, rfl, ?_⟩
    rcases SceneSolution.pregrasp_eq_some hreading with ⟨hstart, hframe⟩ | ⟨hnone, -, hback⟩
    · exact .inl ⟨state, hstart, hframe⟩
    · exact .inr ⟨hnone, hback⟩

/-- The poses of the first grasps of the solutions. -/
def loopPoses (maxNumGrasps : ℕ) (solutions : List (Option (SceneSolution R S T))) : List (GraspPoses R) :=
  (solutions.filterMap fun solution => solution.bind (·.poses ops kinematics retractDist)).take maxNumGrasps

end Poses

section Double
variable {S T : Type} {ops : IsometryOps Double T} {kinematics : Kinematics Double S T} {retractDist : Double}

theorem extractGrasp_poses (fp : Rounding) (inputs : LoopInputs) (n : ℕ) (s : SceneSolution Double S T) :
    (extractGrasp fp inputs n (some (s.solution ops kinematics retractDist))).map RankedGrasp.poses =
      s.poses ops kinematics retractDist := by
  unfold extractGrasp SceneSolution.poses
  dsimp only
  by_cases hskip : (s.isFailure || !s.hasEndScene) = true
  · rw [if_pos hskip]
    exact congrArg _ (if_pos hskip)
  rw [if_neg hskip]
  refine (congrArg _ (if_neg hskip)).trans ?_
  simp only [SceneSolution.solution]
  cases hread : s.read ops kinematics retractDist with
  | error exception =>
    have hstates : s.states ops kinematics retractDist = .error exception := by
      rw [SceneSolution.states, hread]
      rfl
    rw [hstates]
    rfl
  | ok reading =>
    cases hstates : s.states ops kinematics retractDist with
    | error exception =>
      rw [SceneSolution.states, hread] at hstates
      cases hstates
    | ok states =>
      obtain ⟨_, hread', htarget, hor⟩ := SceneSolution.states_eq_ok hstates
      obtain rfl := Except.ok.inj (hread.symm.trans hread')
      dsimp only
      rw [hor, Option.map_map, Option.map_map]
      refine Option.map_congr fun p _ => ?_
      simp only [Function.comp_apply, RankedGrasp.poses, rankedGrasp, htarget]

/-- The poses of the grasps that the loop finds are those of the solutions. -/
theorem validGrasps_poses (fp : Rounding) (inputs : LoopInputs) (n : ℕ)
    (solutions : List (Option (SceneSolution Double S T))) :
    (validGrasps fp inputs n (solutions.map fun solution =>
        solution.map (·.solution ops kinematics retractDist))).map RankedGrasp.poses =
      solutions.filterMap fun solution => solution.bind (·.poses ops kinematics retractDist) := by
  induction solutions generalizing n with
  | nil => rfl
  | cons solution rest ih =>
    have hposes : (extractGrasp fp inputs n (solution.map (·.solution ops kinematics retractDist))).map
        RankedGrasp.poses = solution.bind (·.poses ops kinematics retractDist) := by
      cases solution with
      | none => rfl
      | some s => exact extractGrasp_poses fp inputs n s
    rw [List.filterMap_cons, ← hposes, List.map_cons]
    cases hextract : extractGrasp fp inputs n (solution.map (·.solution ops kinematics retractDist)) with
    | none => simp only [validGrasps, hextract, ih, Option.map_none]
    | some g => simp only [validGrasps, hextract, ih, Option.map_some, List.map_cons]

/-- The poses of the grasps of a call that succeeds are those of its task's solutions. -/
theorem planGrasps_poses {fp : Rounding} {environment : PlanningEnv} {goal : Goal} {candidate : GraspCandidate}
    {candidateIndex : UInt32} (solutions : GraspTask → List (Option (SceneSolution Double S T)))
    (h : (planGrasps fp (environment.withSolutions ops kinematics solutions) goal candidate
      candidateIndex).errorCode = .success) :
    ∃ task inputs, prepare fp (environment.withSolutions ops kinematics solutions) goal candidate candidateIndex =
        .ok (task, inputs) ∧
      (planGrasps fp (environment.withSolutions ops kinematics solutions) goal candidate
          candidateIndex).rankedGrasps.map RankedGrasp.poses =
        loopPoses ops kinematics inputs.retractDist inputs.maxNumGrasps (solutions task) := by
  obtain ⟨htake, hne⟩ := planGrasps_of_success _ _ _ _ _ h
  rw [htake] at hne ⊢
  unfold candidateGrasps at hne ⊢
  cases hprepare : prepare fp (environment.withSolutions ops kinematics solutions) goal candidate candidateIndex with
  | error code => simp [hprepare] at hne
  | ok r =>
    refine ⟨r.1, r.2, rfl, ?_⟩
    rw [(prepared_of_ok hprepare).maxNumGrasps, ← (taskOfGoal_of_ok hprepare).maxDistance, List.map_take, loopPoses,
      ← validGrasps_poses fp r.2 0 (solutions r.1)]
    rfl

end Double

/-! ### On the real numbers -/

/-- The operations without rounding. -/
def IsometryOps.exact {R : Type} [Field R] [LinearOrder R] (eigen : Eigen R) : IsometryOps R (Transform R) where
  poseToIsometry := Grasping.poseToIsometry eigen
  isometryToPose := Grasping.isometryToPose eigen
  mul S T := S * T
  inverse := Transform.inverse
  translateBack distance := .translate ![0, 0, -distance]

/-- The two poses have one frame and one orientation, and the origin of the pre-grasp is at
the distance from that of the grasp, back along the tool's z axis. -/
structure GraspPoses.Apart (eigen : Eigen ℝ) (distance : ℝ) (poses : GraspPoses ℝ) : Prop where
  frame : poses.preGraspFrame = poses.graspFrame
  orientation : (poseToIsometry eigen poses.preGraspPose).linear = (poseToIsometry eigen poses.graspPose).linear
  origin : (poseToIsometry eigen poses.graspPose).translation - (poseToIsometry eigen poses.preGraspPose).translation =
    distance • ((poseToIsometry eigen poses.graspPose).linear *ᵥ ![0, 0, 1])

/-- The approaches in the solution end at its target pose: from the state that one starts
from, the IK frame moves along its own z axis by the length of the approach. -/
def SceneSolution.Approaches {S : Type} (s : SceneSolution ℝ S (Transform ℝ)) (eigen : Eigen ℝ)
    (kinematics : Kinematics ℝ S (Transform ℝ)) (length : SolutionBase Stage S → ℝ) : Prop :=
  ∀ node ∈ s.tree.preorder, node.creator = some .approachObject → ∀ start, node.start = some start →
    ∀ frameId targetPose worldTObject world, s.targetPose = .ok (frameId, targetPose) →
      s.getFrameTransform frameId = .ok worldTObject → kinematics.getFrameTransform start = .ok world →
      world = worldTObject * poseToIsometry eigen targetPose * .translate ![0, 0, -length node]

section Exact
variable {eigen : Eigen ℝ}

/-- Going back by a length from a rigid map is going back by the distance exactly when the
two are equal. -/
theorem back_apart_iff {P : Transform ℝ} (hP : P.IsRigid) (length distance : ℝ) :
    P.translation - (P * .translate ![0, 0, -length]).translation = distance • (P.linear *ᵥ ![0, 0, 1]) ↔
      length = distance := by
  have hback : P.translation - (P * .translate ![0, 0, -length]).translation = length • (P.linear *ᵥ ![0, 0, 1]) := by
    have hvec : (![0, 0, -length] : Fin 3 → ℝ) = -(length • ![0, 0, 1]) := by simp
    rw [Transform.mul_translation, Transform.translate, Transform.act, hvec, mulVec_neg, mulVec_smul]
    abel
  have hne : P.linear *ᵥ ![0, 0, 1] ≠ 0 := fun h0 => by
    have hunit : (![0, 0, 1] : Fin 3 → ℝ) = 0 := by
      rw [← one_mulVec ![0, 0, 1], ← hP.transpose_mul, ← mulVec_mulVec, h0, mulVec_zero]
    exact one_ne_zero (congrFun hunit 2)
  rw [hback]
  exact (smul_left_injective ℝ hne).eq_iff

variable (hexact : eigen.Exact) {S : Type} {kinematics : Kinematics ℝ S (Transform ℝ)} {r : ℝ}
  {s : SceneSolution ℝ S (Transform ℝ)} {poses : GraspPoses ℝ}
include hexact

/-- In the frame of a rigid object, the pre-grasp pose keeps what the pose in the world is. -/
theorem poseToIsometry_objectTPregrasp {W P : Transform ℝ} (hW : W.IsRigid) (hP : P.IsRigid) (length : ℝ) :
    poseToIsometry eigen (objectTPregrasp (.exact eigen) W (W * P * .translate ![0, 0, -length])) =
      P * .translate ![0, 0, -length] := by
  have hcancel : W.inverse * (W * P * .translate ![0, 0, -length]) = P * .translate ![0, 0, -length] := by
    rw [← mul_assoc, ← mul_assoc, hW.inverse_mul, one_mul]
  rw [objectTPregrasp]
  simp only [IsometryOps.exact]
  rw [hcancel]
  exact poseToIsometry_isometryToPose hexact (hP.mul (Transform.isRigid_translate _))

theorem apart_back_iff {W : Transform ℝ} (hW : W.IsRigid) (frameId : Name) (targetPose : Pose ℝ) (length : ℝ) :
    GraspPoses.Apart eigen r ⟨frameId, targetPose, frameId, objectTPregrasp (.exact eigen) W
      (W * poseToIsometry eigen targetPose * .translate ![0, 0, -length])⟩ ↔ length = r := by
  have hP := isRigid_poseToIsometry hexact targetPose
  have hpose := poseToIsometry_objectTPregrasp hexact hW hP length
  constructor
  · intro h
    have horigin := h.origin
    dsimp only at horigin
    rw [hpose] at horigin
    exact (back_apart_iff hP length r).mp horigin
  · intro h
    refine ⟨rfl, ?_, ?_⟩
    · dsimp only
      rw [hpose]
      exact mul_one _
    · dsimp only
      rw [hpose]
      exact (back_apart_iff hP length r).mpr h

/-- The poses of a solution are at the distance exactly when its approach, if it is used,
has that length. -/
theorem SceneSolution.apart_iff {length : SolutionBase Stage S → ℝ}
    (hrigid : ∀ frameId W, s.getFrameTransform frameId = .ok W → W.IsRigid)
    (happroach : s.Approaches eigen kinematics length) (h : s.poses (.exact eigen) kinematics r = some poses) :
    poses.Apart eigen r ↔ ∀ approach, s.approachSol = some approach →
      approach.start.isSome → length approach = r := by
  obtain ⟨frameId, targetPose, W, world, htarget, hworld, rfl, hcases⟩ := SceneSolution.poses_cases h
  have hW := hrigid _ _ hworld
  rcases hcases with ⟨state, hstart, hframe⟩ | ⟨hnone, rfl⟩
  · obtain ⟨approach, hfound, hstate⟩ := Option.bind_eq_some_iff.mp hstart
    have hnode := (SolutionBase.find_eq_find? Stage.approachObject s.tree).symm.trans
      (show s.tree.find .approachObject = some approach from hfound)
    have hcreator : approach.creator = some .approachObject := by simpa using List.find?_some hnode
    rw [happroach approach (List.mem_of_find?_eq_some hnode) hcreator state hstate _ _ _ _ htarget hworld hframe,
      apart_back_iff hexact hW]
    constructor
    · intro hlength other hother _
      obtain rfl := Option.some.inj (hfound.symm.trans hother)
      exact hlength
    · intro hall
      exact hall approach hfound (by rw [hstate]; rfl)
  · refine iff_of_true ((apart_back_iff hexact hW _ _ r).mpr rfl) fun approach hfound hsome => ?_
    obtain ⟨state, hstate⟩ := Option.isSome_iff_exists.mp hsome
    have hstart : s.approachStart = some state := Option.bind_eq_some_iff.mpr ⟨approach, hfound, hstate⟩
    cases hnone.symm.trans hstart

end Exact

/-- The poses of a grasp are at the retract distance exactly when its pre-grasp is the IK
solver's, or is the start of an approach of that length. -/
theorem retract_distance_iff {S : Type} {eigen : Eigen ℝ} (hexact : eigen.Exact)
    (kinematics : Kinematics ℝ S (Transform ℝ)) (r : ℝ) (maxNumGrasps : ℕ)
    (solutions : List (Option (SceneSolution ℝ S (Transform ℝ)))) (length : SolutionBase Stage S → ℝ)
    (hrigid : ∀ s, some s ∈ solutions → ∀ frameId W, s.getFrameTransform frameId = .ok W → W.IsRigid)
    (happroach : ∀ s, some s ∈ solutions → s.Approaches eigen kinematics length) :
    ∀ poses ∈ loopPoses (.exact eigen) kinematics r maxNumGrasps solutions, ∃ s, some s ∈ solutions ∧
      s.poses (.exact eigen) kinematics r = some poses ∧
      (poses.Apart eigen r ↔ ∀ approach, s.approachSol = some approach →
        approach.start.isSome → length approach = r) := by
  intro poses hposes
  obtain ⟨solution, hsolution, hbind⟩ := List.mem_filterMap.mp (List.mem_of_mem_take hposes)
  obtain ⟨s, rfl, hs⟩ := Option.bind_eq_some_iff.mp hbind
  exact ⟨s, hsolution, hs, SceneSolution.apart_iff hexact (hrigid s hsolution) (happroach s hsolution) hs⟩

namespace Sample

/-- A tool that only moves up and down; its states are its heights. -/
def lift : Kinematics ℝ ℝ (Transform ℝ) where
  copyJointGroupPositions height := [height]
  getFrameTransform height := .ok (.translate ![0, 0, height])
  setFromIK _ world := .ok (some (world.translation 2))

/-- A grasp at the origin whose approach has the length. -/
def approachBy (length : ℝ) : SceneSolution ℝ ℝ (Transform ℝ) where
  isFailure := false
  hasEndScene := true
  cost := 0
  targetPose := .ok ("box".toList, Pose.identity)
  graspRobotState := 0
  getFrameTransform _ := .ok 1
  tree := .solutionSequence (some .container) none [.subTrajectory (some .approachObject) (some (-length))]

/-- The approaches of the lift go up to the origin. -/
def liftLength (node : SolutionBase Stage ℝ) : ℝ := -node.start.getD 0

theorem approachBy_approaches (length : ℝ) : (approachBy length).Approaches Eigen.real lift liftLength := by
  intro node _ _ start hstart frameId targetPose worldTObject world htarget hframe hworld
  obtain ⟨-, rfl⟩ := Prod.mk.inj (Except.ok.inj htarget)
  obtain rfl := Except.ok.inj hframe
  obtain rfl := Except.ok.inj hworld
  rw [poseToIsometry_identity Eigen.real_exact, one_mul, one_mul, liftLength, hstart, Option.getD_some, neg_neg]

theorem approachBy_isRigid {length : ℝ} {frameId : Name} {W : Transform ℝ}
    (h : (approachBy length).getFrameTransform frameId = .ok W) : W.IsRigid := by
  obtain rfl := Except.ok.inj h
  exact Transform.isRigid_one

/-- The poses of the grasp. -/
noncomputable def approachByPoses (length : ℝ) : GraspPoses ℝ :=
  ⟨"box".toList, Pose.identity, "box".toList, objectTPregrasp (.exact Eigen.real) 1 (.translate ![0, 0, -length])⟩

theorem loopPoses_approachBy (length r : ℝ) :
    loopPoses (.exact Eigen.real) lift r 1 [some (approachBy length)] = [approachByPoses length] := rfl

end Sample

/-- An approach from half the way is long enough for its stage, and too short for the
poses. -/
theorem approach_from_halfway :
    (Sample.approachBy (1 / 20)).Approaches Eigen.real Sample.lift Sample.liftLength ∧
      (1 / 10 : ℝ) * (1 / 2) ≤ 1 / 20 ∧ (1 / 20 : ℝ) ≤ 1 / 10 ∧
      ¬∀ poses ∈ loopPoses (.exact Eigen.real) Sample.lift (1 / 10) 1 [some (Sample.approachBy (1 / 20))],
        poses.Apart Eigen.real (1 / 10) := by
  refine ⟨Sample.approachBy_approaches _, by norm_num, by norm_num, fun hall => ?_⟩
  rw [Sample.loopPoses_approachBy] at hall
  have hapart := hall _ (List.mem_singleton_self _)
  have happroach := (SceneSolution.apart_iff Eigen.real_exact (fun _ _ => Sample.approachBy_isRigid)
    (Sample.approachBy_approaches (1 / 20)) rfl).mp hapart _ rfl rfl
  norm_num [Sample.liftLength, SolutionBase.start] at happroach

theorem retract_distance_iff_lift :
    Eigen.real.Exact ∧
      ∀ poses ∈ loopPoses (.exact Eigen.real) Sample.lift (1 / 10) 1 [some (Sample.approachBy (1 / 20))],
        ∃ s, some s ∈ [some (Sample.approachBy (1 / 20))] ∧
          s.poses (.exact Eigen.real) Sample.lift (1 / 10) = some poses ∧
          (poses.Apart Eigen.real (1 / 10) ↔ ∀ approach, s.approachSol = some approach →
            approach.start.isSome → Sample.liftLength approach = 1 / 10) := by
  refine ⟨Eigen.real_exact, ?_⟩
  refine retract_distance_iff Eigen.real_exact Sample.lift (1 / 10) 1 [some (Sample.approachBy (1 / 20))]
    Sample.liftLength (fun s hs => ?_) (fun s hs => ?_)
  · obtain rfl := Option.some.inj (List.mem_singleton.mp hs)
    exact fun _ _ => Sample.approachBy_isRigid
  · obtain rfl := Option.some.inj (List.mem_singleton.mp hs)
    exact Sample.approachBy_approaches _

end MoveitPlanning.Grasping
