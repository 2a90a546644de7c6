import MoveitPlanning.Grasping.Isometries
import MoveitPlanning.Grasping.Ranking
import MoveitPlanning.Grasping.SubSolutions

/-! The pre-grasp of a solution. Where the approach stage has a sub-solution, the state it
starts from is the pre-grasp state, and the frame of the tool in it the pre-grasp pose;
otherwise the pose lies back from the grasp along the tool, and the state is what the IK
solver finds for it. The robot model, the IK solver and the arithmetic on isometries are
parameters, and so is what the task constructor returns. -/

namespace MoveitPlanning.Grasping

open Foundation Scene

/-- The stages of the task, and the container that holds them. -/
inductive Stage
  | container | currentState | openHand | connect | approachObject | allowGripperObjectCollision
  | computeGraspIk | generateBoxGraspPoses
  deriving DecidableEq

/-! ### The pre-grasp of a solution -/

/-- The operations on isometries that the loop uses. -/
structure IsometryOps (R T : Type) where
  poseToIsometry : Pose R → T
  isometryToPose : T → Pose R
  mul : T → T → T
  inverse : T → T
  /-- `Translation3d(0, 0, -distance)` -/
  translateBack : R → T

/-- What a robot state says of the planning group and of the IK frame. -/
structure Kinematics (R S T : Type) where
  copyJointGroupPositions : S → List R
  getFrameTransform : S → Except Exception T
  /-- `setFromIK`: the state it makes of the given one, if it finds one -/
  setFromIK : S → T → Except Exception (Option S)

/-- The state has the IK frame at the pose, or is the IK solver's answer to the pose. -/
def Kinematics.Reaches {R S T : Type} (kinematics : Kinematics R S T) (seed state : S) (world : T) : Prop :=
  kinematics.getFrameTransform state = .ok world ∨ kinematics.setFromIK seed world = .ok (some state)

/-- A solution of the task, as the task constructor returns it. -/
structure SceneSolution (R S T : Type) where
  isFailure : Bool
  hasEndScene : Bool
  cost : R
  /-- the property `target_pose` of its end -/
  targetPose : Except Exception (Name × Pose R)
  /-- the current state of the scene at its end -/
  graspRobotState : S
  /-- `getFrameTransform` of the scene at its end -/
  getFrameTransform : Name → Except Exception T
  /-- with the states of the scenes that its parts start from -/
  tree : SolutionBase Stage S

/-- What the loop has read of a solution. -/
structure Reading (R S T : Type) where
  frameId : Name
  targetPose : Pose R
  worldTObject : T
  /-- the pre-grasp state, with the pose of the IK frame in the world -/
  pregrasp : Option (S × T)

section Reading
variable {R S T : Type} (ops : IsometryOps R T) (kinematics : Kinematics R S T) (retractDist : R)

/-- `approach_sol`. -/
def SceneSolution.approachSol (s : SceneSolution R S T) : Option (SolutionBase Stage S) :=
  SolutionBase.findSubSolution (some s.tree) (some .approachObject)

/-- The state that the approach of the solution starts from. -/
def SceneSolution.approachStart (s : SceneSolution R S T) : Option S := s.approachSol.bind SolutionBase.start

/-- The pre-grasp state of a solution, from its approach or else from the IK solver. -/
def SceneSolution.pregrasp (s : SceneSolution R S T) (targetPose : Pose R) (worldTObject : T) :
    Except Exception (Option (S × T)) :=
  match s.approachStart with
  | some pregraspRobotState => do
    let pregraspPoseWorld ← kinematics.getFrameTransform pregraspRobotState
    return some (pregraspRobotState, pregraspPoseWorld)
  | none => do
    let targetPoseWorld := ops.mul worldTObject (ops.poseToIsometry targetPose)
    let pregraspPoseWorld := ops.mul targetPoseWorld (ops.translateBack retractDist)
    let found ← kinematics.setFromIK s.graspRobotState pregraspPoseWorld
    return found.map fun pregraspRobotState => (pregraspRobotState, pregraspPoseWorld)

def SceneSolution.read (s : SceneSolution R S T) : Except Exception (Reading R S T) := do
  let targetPose ← s.targetPose
  let worldTObject ← s.getFrameTransform targetPose.1
  let pregrasp ← s.pregrasp ops kinematics retractDist targetPose.2 worldTObject
  return ⟨targetPose.1, targetPose.2, worldTObject, pregrasp⟩

/-- The pre-grasp pose in the frame of the object. -/
def objectTPregrasp (worldTObject pregraspPoseWorld : T) : Pose R :=
  ops.isometryToPose (ops.mul (ops.inverse worldTObject) pregraspPoseWorld)

variable {ops kinematics retractDist}

theorem SceneSolution.read_eq_ok {s : SceneSolution R S T} {reading : Reading R S T} :
    s.read ops kinematics retractDist = .ok reading ↔
      s.targetPose = .ok (reading.frameId, reading.targetPose) ∧
      s.getFrameTransform reading.frameId = .ok reading.worldTObject ∧
      s.pregrasp ops kinematics retractDist reading.targetPose reading.worldTObject = .ok reading.pregrasp := by
  unfold SceneSolution.read
  simp only [bind_eq_ok_iff]
  constructor
  · rintro ⟨targetPose, htarget, worldTObject, hworld, pregrasp, hpregrasp, hreading⟩
    cases hreading
    exact ⟨htarget, hworld, hpregrasp⟩
  · rintro ⟨htarget, hworld, hpregrasp⟩
    exact ⟨_, htarget, _, hworld, _, hpregrasp, rfl⟩

theorem SceneSolution.pregrasp_eq_some {s : SceneSolution R S T} {targetPose : Pose R} {worldTObject : T}
    {state : S} {world : T}
    (h : s.pregrasp ops kinematics retractDist targetPose worldTObject = .ok (some (state, world))) :
    s.approachStart = some state ∧ kinematics.getFrameTransform state = .ok world ∨
      s.approachStart = none ∧ kinematics.setFromIK s.graspRobotState world = .ok (some state) ∧
        world = ops.mul (ops.mul worldTObject (ops.poseToIsometry targetPose)) (ops.translateBack retractDist) := by
  unfold SceneSolution.pregrasp at h
  cases hstart : s.approachStart with
  | some start =>
    rw [hstart] at h
    obtain ⟨frame, hframe, hpair⟩ := bind_eq_ok_iff.mp h
    cases hpair
    exact .inl ⟨rfl, hframe⟩
  | none =>
    rw [hstart] at h
    obtain ⟨found, hfound, hpair⟩ := bind_eq_ok_iff.mp h
    obtain ⟨found, rfl, hpair⟩ := Option.map_eq_some_iff.mp (Except.ok.inj hpair)
    cases hpair
    exact .inr ⟨rfl, hfound, rfl⟩

theorem SceneSolution.pregrasp_of_start {ops : IsometryOps R T} {kinematics : Kinematics R S T} {retractDist : R}
    {s : SceneSolution R S T} {sub : SolutionBase Stage S} {state : S} (hsub : s.approachSol = some sub)
    (hstart : sub.start = some state) (targetPose : Pose R) (worldTObject : T) :
    s.pregrasp ops kinematics retractDist targetPose worldTObject =
      (kinematics.getFrameTransform state).map fun world => some (state, world) := by
  have happroach : s.approachStart = some state := by rw [approachStart, hsub, Option.bind_some, hstart]
  rw [pregrasp, happroach]
  dsimp only
  cases kinematics.getFrameTransform state <;> rfl

end Reading

/-- In every tree of solutions the search finds the first one that the stage has made, each
solution coming before its parts, and nothing exactly when it has made none of them. What
the IK solver would answer matters to the pre-grasp only where there is no approach, or it
has no start scene; otherwise the pre-grasp state is the one the approach starts from. -/
theorem sub_solution_found {K U : Type*} [DecidableEq K] (s : SolutionBase K U) (targetStage : K) :
    (∀ found, SolutionBase.findSubSolution (some s) (some targetStage) = some found ↔
        ∃ before after, s.preorder = before ++ found :: after ∧ found.creator = some targetStage ∧
          ∀ node ∈ before, node.creator ≠ some targetStage) ∧
      (SolutionBase.findSubSolution (some s) (some targetStage) = none ↔
        ∀ node, s.Contains node → node.creator ≠ some targetStage) ∧
      (∀ node, node ∈ s.preorder ↔ s.Contains node) ∧
      ∀ {R S T : Type} (ops : IsometryOps R T) (kinematics : Kinematics R S T) (retractDist : R)
        (solution : SceneSolution R S T) (targetPose : Pose R) (worldTObject : T),
        (∀ sub state, solution.approachSol = some sub → sub.start = some state →
          solution.pregrasp ops kinematics retractDist targetPose worldTObject =
            (kinematics.getFrameTransform state).map fun world => some (state, world)) ∧
        ∀ setFromIK, solution.pregrasp ops { kinematics with setFromIK } retractDist targetPose worldTObject ≠
            solution.pregrasp ops kinematics retractDist targetPose worldTObject →
          solution.approachSol = none ∨ ∃ sub, solution.approachSol = some sub ∧ sub.start = none := by
  refine ⟨fun found => SolutionBase.find_eq_some_iff, SolutionBase.find_eq_none_iff,
    fun node => SolutionBase.mem_preorder, fun ops kinematics retractDist solution targetPose worldTObject =>
    ⟨fun sub state hsub hstart => SceneSolution.pregrasp_of_start hsub hstart _ _, fun setFromIK hne => ?_⟩⟩
  cases hsub : solution.approachSol with
  | none => exact .inl rfl
  | some sub =>
    cases hstart : sub.start with
    | none => exact .inr ⟨sub, rfl, hstart⟩
    | some state =>
      rw [SceneSolution.pregrasp_of_start hsub hstart, SceneSolution.pregrasp_of_start hsub hstart] at hne
      exact absurd rfl hne

/-! ### Calls with such solutions -/

section Call
variable {S T : Type} (ops : IsometryOps Double T) (kinematics : Kinematics Double S T)

/-- What the loop makes of a solution, with the retract distance of the task. -/
def SceneSolution.states (retractDist : Double) (s : SceneSolution Double S T) : Except Exception SolutionStates := do
  let reading ← s.read ops kinematics retractDist
  let pregrasp := reading.pregrasp.map fun p =>
    ⟨kinematics.copyJointGroupPositions p.1, objectTPregrasp ops reading.worldTObject p.2⟩
  return {
    targetPose := ⟨reading.frameId, reading.targetPose⟩
    graspPositions := kinematics.copyJointGroupPositions s.graspRobotState
    approachStart := if s.approachStart.isSome then pregrasp else none
    fallbackIk := if s.approachStart.isSome then none else pregrasp }

def SceneSolution.solution (retractDist : Double) (s : SceneSolution Double S T) : Solution :=
  ⟨s.isFailure, s.hasEndScene, s.cost, s.states ops kinematics retractDist⟩

/-- What a call meets whose task has these solutions; the loop's retract distance is the
longest that the task's approach may have. -/
def PlanningEnv.withSolutions (env : PlanningEnv)
    (solutions : GraspTask → List (Option (SceneSolution Double S T))) : PlanningEnv :=
  { env with
    solutions := fun task =>
      (solutions task).map fun solution => solution.map (·.solution ops kinematics task.maxDistance) }

end Call

section Interrupt
variable (fp : Rounding) (env : PlanningEnv) (goal : Goal) (candidate : GraspCandidate) (candidateIndex : UInt32)

/-- `PlanGrasps`, in which a call of the outer `try` block throws, or none does beside
those that the environment answers. -/
def planGraspsCall (thrown : Option Exception) : Result :=
  match thrown with
  | none => planGrasps fp env goal candidate candidateIndex
  | some _ =>
    match checkRequest env goal candidate with
    | .error code => ⟨[], code⟩
    | .ok _ => ⟨[], .failure⟩

/-- The checks are the first of the call: where one fails, the call ends so. -/
theorem prepare_of_checkRequest {code : MoveItErrorCode} (h : checkRequest env goal candidate = .error code) :
    prepare fp env goal candidate candidateIndex = .error code :=
  bind_eq_error_iff.mpr (.inl (bind_eq_error_iff.mpr (.inl h)))

variable {env goal candidate} in
/-- A request that a check rejects ends with the code of the check, whatever would throw. -/
theorem planGraspsCall_of_checkRequest {code : MoveItErrorCode} (h : checkRequest env goal candidate = .error code)
    (thrown : Option Exception) : planGraspsCall fp env goal candidate candidateIndex thrown = ⟨[], code⟩ := by
  cases thrown with
  | some exception => simp only [planGraspsCall, h]
  | none =>
    have hprepare := prepare_of_checkRequest fp env goal candidate candidateIndex h
    have hcall : planGraspsOrError fp env goal candidate candidateIndex = .error code := by
      rw [planGraspsOrError, hprepare]
      rfl
    simp only [planGraspsCall, planGrasps, hcall]

/-- A call that throws ends with no grasps and a code other than `SUCCESS`. -/
theorem planGraspsCall_of_thrown (exception : Exception) :
    let result := planGraspsCall fp env goal candidate candidateIndex (some exception)
    result.errorCode ≠ .success ∧ result.rankedGrasps = [] := by
  have hends := checkRequest_ends env goal candidate
  simp only [planGraspsCall]
  cases hcheck : checkRequest env goal candidate with
  | error code =>
    rw [hcheck] at hends
    exact ⟨hends, rfl⟩
  | ok _ => exact ⟨MoveItErrorCode.noConfusion, rfl⟩

end Interrupt

section Solutions
variable {S T : Type} {ops : IsometryOps Double T} {kinematics : Kinematics Double S T}

/-- The pre-grasp pose and the arm positions of the grasp are those of one state, which
has the IK frame at the pose. -/
def PregraspOf (ops : IsometryOps Double T) (kinematics : Kinematics Double S T) (s : SceneSolution Double S T)
    (g : RankedGrasp) : Prop :=
  ∃ worldTObject state world, s.getFrameTransform g.preGraspPose.frameId = .ok worldTObject ∧
    kinematics.Reaches s.graspRobotState state world ∧
    g.pregraspIkSolution.position = kinematics.copyJointGroupPositions state ∧
    g.preGraspPose.pose = objectTPregrasp ops worldTObject world

theorem SceneSolution.states_eq_ok {s : SceneSolution Double S T} {retractDist : Double} {states : SolutionStates}
    (h : s.states ops kinematics retractDist = .ok states) :
    ∃ reading, s.read ops kinematics retractDist = .ok reading ∧
      states.targetPose = ⟨reading.frameId, reading.targetPose⟩ ∧
      states.approachStart.or states.fallbackIk = reading.pregrasp.map fun p =>
        ⟨kinematics.copyJointGroupPositions p.1, objectTPregrasp ops reading.worldTObject p.2⟩ := by
  obtain ⟨reading, hread, hstates⟩ := bind_eq_ok_iff.mp h
  cases hstates
  refine ⟨reading, hread, rfl, ?_⟩
  cases s.approachStart with
  | none => simp
  | some _ => simp

theorem pregraspOf_rankedGrasp {fp : Rounding} {inputs : LoopInputs} {n : ℕ} {cost retractDist : Double}
    {s : SceneSolution Double S T} {states : SolutionStates} {pregrasp : PreGrasp}
    (hstates : s.states ops kinematics retractDist = .ok states)
    (hpregrasp : states.approachStart.or states.fallbackIk = some pregrasp) :
    PregraspOf ops kinematics s (rankedGrasp fp inputs n cost states pregrasp) := by
  obtain ⟨reading, hread, htarget, hor⟩ := SceneSolution.states_eq_ok hstates
  obtain ⟨⟨state, world⟩, hpair, rfl⟩ := Option.map_eq_some_iff.mp (hor.symm.trans hpregrasp)
  obtain ⟨-, hworld, hread⟩ := SceneSolution.read_eq_ok.mp hread
  rw [hpair] at hread
  refine ⟨reading.worldTObject, state, world, ?_, ?_, rfl, rfl⟩
  · rw [rankedGrasp, htarget]
    exact hworld
  · exact (SceneSolution.pregrasp_eq_some hread).imp (fun h => h.2) (fun h => h.2.1)

end Solutions

theorem Goal.maxNumGraspsOrOne_eq_max (goal : Goal) : (goal.maxNumGraspsOrOne : ℤ) = max 1 goal.maxNumGrasps := by
  unfold Goal.maxNumGraspsOrOne
  split_ifs with h
  · omega
  · omega

/-- A call ends with `SUCCESS` exactly when it has grasps, whatever throws in it. They are
no more than the goal asks for, are for the candidate and its resolved target, and have a
quality between 0 and 1 and a pre-grasp from one state. -/
theorem planGraspsCall_success_iff {S T : Type} (fp : Rounding) (ops : IsometryOps Double T)
    (kinematics : Kinematics Double S T) (environment : PlanningEnv)
    (solutions : GraspTask → List (Option (SceneSolution Double S T))) (goal : Goal) (candidate : GraspCandidate)
    (candidateIndex : UInt32) (thrown : Option Exception) :
    let env := environment.withSolutions ops kinematics solutions
    let result := planGraspsCall fp env goal candidate candidateIndex thrown
    (result.errorCode = .success ↔ result.rankedGrasps ≠ []) ∧
    (result.rankedGrasps.length : ℤ) ≤ max 1 goal.maxNumGrasps ∧
    ∀ g ∈ result.rankedGrasps, g.candidateIndex = candidateIndex ∧
      g.targetId = resolveTargetObjectId env.planningSceneObjectIds candidate.targetId ∧
      (0 ≤ g.grasp.graspQuality ∧ g.grasp.graspQuality ≤ 1) ∧
      ∃ task inputs s, prepare fp env goal candidate candidateIndex = .ok (task, inputs) ∧
        some s ∈ solutions task ∧ PregraspOf ops kinematics s g := by
  intro env result
  cases thrown with
  | some exception =>
    obtain ⟨hcode, hnone⟩ := planGraspsCall_of_thrown fp env goal candidate candidateIndex exception
    have hresult : result.rankedGrasps = [] := hnone
    rw [hresult]
    exact ⟨iff_of_false hcode (fun h => h rfl), by simp, fun g hg => absurd hg List.not_mem_nil⟩
  | none =>
    refine ⟨?_, ?_, fun g hg => ?_⟩
    · rcases planGrasps_cases fp env goal candidate candidateIndex with ⟨hcode, -, hne⟩ | ⟨hcode, hnone⟩
      · exact iff_of_true hcode hne
      · exact iff_of_false hcode (not_not.mpr hnone)
    · rcases planGrasps_cases fp env goal candidate candidateIndex with ⟨-, htake, -⟩ | ⟨-, hnone⟩
      · rw [← goal.maxNumGraspsOrOne_eq_max]
        exact Int.ofNat_le.mpr ((congrArg List.length htake).trans_le (List.length_take_le _ _))
      · have hresult : result.rankedGrasps = [] := hnone
        rw [hresult]
        simp
    · obtain ⟨task, inputs, m, solution, states, pregrasp, hprepare, hindex, htarget, -, -, hs, hstates, hpregrasp,
        rfl⟩ := mem_planGrasps fp env goal candidate candidateIndex hg
      obtain ⟨found, hfound, hsolution⟩ := List.mem_map.mp hs
      obtain ⟨s, rfl, rfl⟩ := Option.map_eq_some_iff.mp hsolution
      exact ⟨hindex, htarget, graspQuality_unit fp _, task, inputs, s, hprepare, hfound,
        pregraspOf_rankedGrasp hstates hpregrasp⟩

end MoveitPlanning.Grasping
