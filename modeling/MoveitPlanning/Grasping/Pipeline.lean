import MoveitPlanning.Grasping.Messages

/-! `GraspPlanningPipeline::PlanGrasps`. It checks the candidate, hands a task to the
task constructor, and turns the task's solutions into ranked grasps until it has as
many as the goal asks for. All checks and calls before that loop are `prepare`, in three
parts: the checks before the `try` block, what leads to the task, and the calls on the
task. Each ends with an error code or with what the next part reads; exceptions of the
`try` block end with `FAILURE`. What the loop returns is the beginning of the list it
would return without a bound. -/

namespace MoveitPlanning.Grasping

open Foundation Scene

/-! ### Resolution of the target and the numbers of a goal -/

/-- `ResolveTargetObjectId`. -/
def resolveTargetObjectId (existingObjectIds : List Name) (targetId : Name) : Name :=
  if targetId = [] then targetId
  else if targetId ∈ existingObjectIds then targetId
  else
    let cleanId := if targetId.head? = some '/' then targetId.drop 1 else targetId
    if cleanId ∈ existingObjectIds then cleanId
    else
      let canonicalWhole := cleanId ++ "/whole".toList
      if canonicalWhole ∈ existingObjectIds then canonicalWhole
      else (existingObjectIds.find? fun id => (cleanId ++ ['/']).isPrefixOf id).getD targetId

/-- `ResolveCandidateTimeoutSec`. -/
def resolveCandidateTimeoutSec (fp : Rounding) (goal : Goal) : Double :=
  let planningTimeoutSec :=
    if goal.planningTimeoutSec.isFinite ∧ Double.lt 0 goal.planningTimeoutSec then goal.planningTimeoutSec
    else .finite 5
  fp.div planningTimeoutSec (fp.round (max 1 goal.candidates.length : ℕ))

/-- The field if it is positive, and otherwise the default. -/
def positiveOr (value default : Double) : Double := if Double.lt 0 value then value else default

def Goal.maxNumGraspsOrOne (goal : Goal) : ℕ := if 0 < goal.maxNumGrasps then goal.maxNumGrasps.toNat else 1

theorem Goal.maxNumGraspsOrOne_pos (goal : Goal) : 0 < goal.maxNumGraspsOrOne := by
  unfold Goal.maxNumGraspsOrOne
  split_ifs with h
  · omega
  · exact Nat.one_pos

/-- The valid surfaces asked for, or all six. -/
def surfacesOrAll (surfaces : List ℤ) : List ℤ :=
  let valid := surfaces.filter fun s => 0 ≤ s ∧ s ≤ 5
  if valid = [] then [0, 1, 2, 3, 4, 5] else valid

/-- The quality of a solution: `1 / (1 + max(0, cost))`. -/
def graspQuality (fp : Rounding) (cost : Double) : Double :=
  fp.div 1 (fp.add 1 (Double.max 0 cost))

/-! ### Before the loop -/

/-- What the loop reads that does not change in it. -/
structure LoopInputs where
  candidateIndex : UInt32
  targetId : Name
  modelFrame : Name
  ikFrame : Name
  armActiveJointNames : List Name
  openGripperPosture : JointTrajectory
  closedGripperPosture : JointTrajectory
  retractDist : Double
  maxNumGrasps : ℕ

/-- A check that ends the call with `code`. -/
def failIf (condition : Bool) (code : MoveItErrorCode) : Except MoveItErrorCode Unit :=
  if condition then .error code else .ok ()

/-- A value whose absence ends the call with `code`. -/
def orFail {α : Type} (value : Option α) (code : MoveItErrorCode) : Except MoveItErrorCode α :=
  match value with
  | none => .error code
  | some a => .ok a

/-- An exception of the `try` block ends the call with `FAILURE`. -/
def caught {α : Type} : Except Exception α → Except MoveItErrorCode α
  | .error _ => .error .failure
  | .ok a => .ok a

def GraspCandidate.hasExplicitDimensions (candidate : GraspCandidate) : Bool :=
  let dims := candidate.objDimsInMeters
  decide (Double.lt 0 dims.x ∧ Double.lt 0 dims.y ∧ Double.lt 0 dims.z)

/-- The box of the candidate: from the request, or else from the planning scene. -/
def candidateBox (env : PlanningEnv) (candidate : GraspCandidate) (targetId : Name) :
    Except MoveItErrorCode ObjectBoundingBox :=
  if candidate.hasExplicitDimensions then .ok ⟨candidate.objDimsInMeters, candidate.objTObjCenter⟩
  else
    match env.planningSceneCollisionObject targetId with
    | none => .error .invalidObjectName
    | some collisionObject =>
      match env.computeObjectBoundingBox collisionObject with
      | none => .error .failure
      | some box => .ok box

/-- The positions of the gripper's joints in its two named states. -/
def gripperPositions (jointNames : List Name) (openPositions closedPositions : Name → Option Double) :
    Except MoveItErrorCode (List Double × List Double) :=
  jointNames.foldrM (fun jointName acc =>
    match openPositions jointName, closedPositions jointName with
    | some openPosition, some closedPosition =>
      .ok (openPosition :: acc.1, closedPosition :: acc.2)
    | _, _ => .error .invalidRobotState) ([], [])

section Pipeline
variable (fp : Rounding) (env : PlanningEnv) (goal : Goal)

/-- The checks of `PlanGrasps` before its `try` block, with the id and the box they find. -/
def checkRequest (candidate : GraspCandidate) : Except MoveItErrorCode (Name × ObjectBoundingBox) := do
  failIf (!env.node) .failure
  failIf (candidate.targetId = []) .invalidObjectName
  let targetId := resolveTargetObjectId env.planningSceneObjectIds candidate.targetId
  let box ← candidateBox env candidate targetId
  failIf (goal.groupName = []) .invalidGroupName
  return (targetId, box)

/-- What the calls of the task constructor are given, and what is used after them. -/
structure PlanningTask where
  robotModel : RobotModel
  task : GraspTask
  gripperMotionDurationSec : Double

/-- `PlanGrasps` up to its task. -/
def planningTask (candidate : GraspCandidate) : Except MoveItErrorCode PlanningTask := do
  let (targetId, box) ← checkRequest env goal candidate
  let eefGroup := if goal.endEffectorGroup = [] then "hand".toList else goal.endEffectorGroup
  let ikFrame := if goal.toolFrame = [] then "hande_tcp".toList else goal.toolFrame
  let candidateTimeoutSec := resolveCandidateTimeoutSec fp goal
  let robotModel ← orFail (← caught env.robotModel) .failure
  failIf (!robotModel.hasEndEffector eefGroup || !robotModel.hasLinkModel ikFrame) .invalidRobotState
  let retractDist := positiveOr goal.retractDistM (.finite (1 / 20))
  let task : GraspTask := {
    groupName := goal.groupName
    eefGroup
    ikFrame
    pregraspPose := "open".toList
    candidateTimeoutSec
    minDistance := fp.mul retractDist (.finite (1 / 2))
    maxDistance := retractDist
    targetId
    allowedLinks := (robotModel.jointModelGroup eefGroup).map (·.linkModelNamesWithCollisionGeometry)
    surfaces := surfacesOrAll goal.surfaces
    numRotations := if 0 < goal.numRotations then goal.numRotations else 4
    box
    computeIkTimeoutSec := Double.min (.finite (1 / 5)) candidateTimeoutSec
    maxNumGrasps := goal.maxNumGraspsOrOne }
  return ⟨robotModel, task, positiveOr goal.gripperMotionDurationSec (.finite (1 / 2))⟩

/-- `PlanGrasps` from its task to its loop. -/
def runTask (candidateIndex : UInt32) (planned : PlanningTask) : Except MoveItErrorCode LoopInputs := do
  let task := planned.task
  let robotModel := planned.robotModel
  caught (env.initTask task)
  let success ← caught (env.planTask task)
  failIf (!success || (env.solutions task).isEmpty) .planningFailed
  let arm ← orFail (robotModel.jointModelGroup goal.groupName) .invalidGroupName
  let eef ← orFail (robotModel.jointModelGroup task.eefGroup) .invalidGroupName
  let openPositions ← orFail (eef.variableDefaultPositions "open".toList) .invalidRobotState
  let closedPositions ← orFail (eef.variableDefaultPositions "closed".toList) .invalidRobotState
  let positions ← gripperPositions eef.activeJointModelNames openPositions closedPositions
  let posture (positions : List Double) : JointTrajectory :=
    ⟨robotModel.modelFrame, eef.activeJointModelNames, positions, planned.gripperMotionDurationSec⟩
  return {
    candidateIndex
    targetId := task.targetId
    modelFrame := robotModel.modelFrame
    ikFrame := task.ikFrame
    armActiveJointNames := arm.activeJointModelNames
    openGripperPosture := posture positions.1
    closedGripperPosture := posture positions.2
    retractDist := task.maxDistance
    maxNumGrasps := goal.maxNumGraspsOrOne }

/-- Everything `PlanGrasps` does before its loop over the solutions. -/
def prepare (candidate : GraspCandidate) (candidateIndex : UInt32) :
    Except MoveItErrorCode (GraspTask × LoopInputs) := do
  let planned ← planningTask fp env goal candidate
  let inputs ← runTask env goal candidateIndex planned
  return (planned.task, inputs)

end Pipeline

/-! ### The loop over the solutions -/

section Loop
variable (fp : Rounding) (inputs : LoopInputs)

def gripperTranslation (z : Double) : GripperTranslation where
  frameId := inputs.ikFrame
  direction := ⟨0, 0, z⟩
  desiredDistance := inputs.retractDist
  minDistance := fp.mul inputs.retractDist (.finite (1 / 2))

/-- The grasp of a solution, the `n`-th that the loop has found. -/
def rankedGrasp (n : ℕ) (cost : Double) (states : SolutionStates) (pregrasp : PreGrasp) : RankedGrasp where
  candidateIndex := inputs.candidateIndex
  targetId := inputs.targetId
  grasp := {
    id := "grasp_".toList ++ Nat.toDigits 10 n
    preGraspPosture := inputs.openGripperPosture
    graspPosture := inputs.closedGripperPosture
    graspPose := states.targetPose
    graspQuality := graspQuality fp cost
    preGraspApproach := gripperTranslation fp inputs 1
    postGraspRetreat := gripperTranslation fp inputs (.finite (-1))
    postPlaceRetreat := gripperTranslation fp inputs (.finite (-1))
    maxContactForce := 0
    allowedTouchObjects := [inputs.targetId] }
  preGraspPose := ⟨states.targetPose.frameId, pregrasp.objectTPregrasp⟩
  graspIkSolution := ⟨inputs.modelFrame, inputs.armActiveJointNames, states.graspPositions⟩
  pregraspIkSolution := ⟨inputs.modelFrame, inputs.armActiveJointNames, pregrasp.positions⟩

/-- The body of the loop; `none` where it goes on to the next solution. -/
def extractGrasp (n : ℕ) (solution : Option Solution) : Option RankedGrasp :=
  match solution with
  | none => none
  | some s =>
    if s.isFailure || !s.hasEndScene then none
    else
      match s.states with
      | .error _ => none
      | .ok states =>
        (states.approachStart.or states.fallbackIk).map (rankedGrasp fp inputs n s.cost states)

/-- The loop, with the grasps found so far. -/
def solutionLoop (valid : List RankedGrasp) : List (Option Solution) → List RankedGrasp
  | [] => valid
  | solution :: rest =>
    match extractGrasp fp inputs valid.length solution with
    | none => solutionLoop valid rest
    | some grasp =>
      if (valid ++ [grasp]).length ≥ inputs.maxNumGrasps then valid ++ [grasp]
      else solutionLoop (valid ++ [grasp]) rest

end Loop

section Pipeline
variable (fp : Rounding) (env : PlanningEnv) (goal : Goal)

/-- The call up to its result or error code. -/
def planGraspsOrError (candidate : GraspCandidate) (candidateIndex : UInt32) :
    Except MoveItErrorCode (List RankedGrasp) := do
  let (task, inputs) ← prepare fp env goal candidate candidateIndex
  let valid := solutionLoop fp inputs [] (env.solutions task)
  failIf valid.isEmpty .planningFailed
  caught (env.publishSolution task)
  return valid

/-- `GraspPlanningPipeline::PlanGrasps`, on a new result. -/
def planGrasps (candidate : GraspCandidate) (candidateIndex : UInt32) : Result :=
  match planGraspsOrError fp env goal candidate candidateIndex with
  | .error code => ⟨[], code⟩
  | .ok valid => ⟨valid, .success⟩

end Pipeline

/-! ### How a call ends -/

section Except
variable {ε α β : Type} {x : Except ε α} {f : α → Except ε β}

theorem bind_eq_ok_iff {b : β} : x >>= f = .ok b ↔ ∃ a, x = .ok a ∧ f a = .ok b := by
  cases x <;> simp [bind, Except.bind]

theorem bind_eq_error_iff {e : ε} : x >>= f = .error e ↔ x = .error e ∨ ∃ a, x = .ok a ∧ f a = .error e := by
  cases x <;> simp [bind, Except.bind]

end Except

/-- Ends with a value that has `P`, or with a code other than `SUCCESS`. -/
def Ends {α : Type} (P : α → Prop) : Except MoveItErrorCode α → Prop
  | .error code => code ≠ .success
  | .ok a => P a

namespace Ends

variable {α β : Type} {P : α → Prop} {Q : β → Prop}

theorem bind {x : Except MoveItErrorCode α} {f : α → Except MoveItErrorCode β} (hx : Ends P x)
    (hf : ∀ a, P a → Ends Q (f a)) : Ends Q (x >>= f) := by
  cases x with
  | error code => exact hx
  | ok a => exact hf a hx

theorem failIf (condition : Bool) {code : MoveItErrorCode} (h : code ≠ .success) :
    Ends (fun _ => condition = false) (Grasping.failIf condition code) := by
  cases condition with
  | true => exact h
  | false => exact rfl

theorem orFail (value : Option α) {code : MoveItErrorCode} (h : code ≠ .success) :
    Ends (fun a => value = some a) (Grasping.orFail value code) := by
  cases value with
  | none => exact h
  | some a => exact rfl

theorem caught (x : Except Exception α) : Ends (fun a => x = .ok a) (Grasping.caught x) := by
  cases x with
  | error _ => exact MoveItErrorCode.noConfusion
  | ok a => exact rfl

theorem self {x : Except MoveItErrorCode α} (h : Ends P x) : Ends (fun a => x = .ok a) x := by
  cases x with
  | error code => exact h
  | ok a => exact rfl

theorem candidateBox (env : PlanningEnv) (candidate : GraspCandidate) (targetId : Name) :
    Ends (fun _ => True) (Grasping.candidateBox env candidate targetId) := by
  unfold Grasping.candidateBox
  split_ifs
  · trivial
  · split
    · exact MoveItErrorCode.noConfusion
    · split
      · exact MoveItErrorCode.noConfusion
      · trivial

theorem gripperPositions (jointNames : List Name) (openPositions closedPositions : Name → Option Double) :
    Ends (fun _ => True) (Grasping.gripperPositions jointNames openPositions closedPositions) := by
  unfold Grasping.gripperPositions
  induction jointNames with
  | nil => trivial
  | cons jointName jointNames ih =>
    rw [List.foldrM_cons]
    refine Ends.bind ih fun acc _ => ?_
    split
    · trivial
    · exact MoveItErrorCode.noConfusion

end Ends

/-! ### The grasps of a call -/

section Loop
variable (fp : Rounding) (inputs : LoopInputs)

/-- The grasps the loop would find without a bound, from the `n`-th on. -/
def validGrasps (n : ℕ) : List (Option Solution) → List RankedGrasp
  | [] => []
  | solution :: rest =>
    match extractGrasp fp inputs n solution with
    | none => validGrasps n rest
    | some grasp => grasp :: validGrasps (n + 1) rest

theorem extractGrasp_eq_some {n : ℕ} {solution : Option Solution} {g : RankedGrasp}
    (h : extractGrasp fp inputs n solution = some g) :
    ∃ s states pregrasp, solution = some s ∧ s.states = .ok states ∧
      states.approachStart.or states.fallbackIk = some pregrasp ∧
      g = rankedGrasp fp inputs n s.cost states pregrasp := by
  unfold extractGrasp at h
  cases solution with
  | none => cases h
  | some s =>
    dsimp only at h
    split_ifs at h
    cases hstates : s.states with
    | error exception =>
      rw [hstates] at h
      cases h
    | ok states =>
      rw [hstates] at h
      obtain ⟨pregrasp, hpregrasp, rfl⟩ := Option.map_eq_some_iff.mp h
      exact ⟨s, states, pregrasp, rfl, hstates, hpregrasp, rfl⟩

theorem mem_validGrasps {solutions : List (Option Solution)} {n : ℕ} {g : RankedGrasp}
    (h : g ∈ validGrasps fp inputs n solutions) :
    ∃ m s states pregrasp, some s ∈ solutions ∧ s.states = .ok states ∧
      states.approachStart.or states.fallbackIk = some pregrasp ∧
      g = rankedGrasp fp inputs m s.cost states pregrasp := by
  induction solutions generalizing n with
  | nil => cases h
  | cons solution rest ih =>
    cases he : extractGrasp fp inputs n solution with
    | none =>
      simp only [validGrasps, he] at h
      obtain ⟨m, s, states, pregrasp, hs, hg⟩ := ih h
      exact ⟨m, s, states, pregrasp, List.mem_cons_of_mem _ hs, hg⟩
    | some grasp =>
      simp only [validGrasps, he, List.mem_cons] at h
      rcases h with rfl | h
      · obtain ⟨s, states, pregrasp, rfl, hg⟩ := extractGrasp_eq_some fp inputs he
        exact ⟨n, s, states, pregrasp, List.mem_cons_self, hg⟩
      · obtain ⟨m, s, states, pregrasp, hs, hg⟩ := ih h
        exact ⟨m, s, states, pregrasp, List.mem_cons_of_mem _ hs, hg⟩

theorem solutionLoop_eq_take (solutions : List (Option Solution)) (valid : List RankedGrasp)
    (hv : valid.length < inputs.maxNumGrasps) :
    solutionLoop fp inputs valid solutions =
      valid ++ (validGrasps fp inputs valid.length solutions).take (inputs.maxNumGrasps - valid.length) := by
  induction solutions generalizing valid with
  | nil => simp [solutionLoop, validGrasps]
  | cons solution rest ih =>
    cases he : extractGrasp fp inputs valid.length solution with
    | none => simp only [solutionLoop, validGrasps, he, ih valid hv]
    | some grasp =>
      obtain ⟨m, hm⟩ : ∃ m, inputs.maxNumGrasps - valid.length = m + 1 :=
        ⟨inputs.maxNumGrasps - valid.length - 1, by omega⟩
      have hlen : (valid ++ [grasp]).length = valid.length + 1 := by simp
      simp only [solutionLoop, validGrasps, he, hm, List.take_succ_cons]
      split_ifs with hfull
      · have : m = 0 := by omega
        simp [this]
      · rw [ih _ (by omega), hlen, show inputs.maxNumGrasps - (valid.length + 1) = m by omega]
        simp

end Loop

section Pipeline
variable (fp : Rounding) (env : PlanningEnv) (goal : Goal) (candidate : GraspCandidate) (candidateIndex : UInt32)

theorem checkRequest_ends : Ends (fun checked : Name × ObjectBoundingBox =>
    checked.1 = resolveTargetObjectId env.planningSceneObjectIds candidate.targetId ∧
      candidateBox env candidate checked.1 = .ok checked.2) (checkRequest env goal candidate) := by
  unfold checkRequest
  refine (Ends.failIf _ (by decide)).bind fun _ _ => ?_
  refine (Ends.failIf _ (by decide)).bind fun _ _ => ?_
  refine (Ends.candidateBox _ _ _).self.bind fun box hbox => ?_
  refine (Ends.failIf _ (by decide)).bind fun _ _ => ?_
  exact ⟨rfl, hbox⟩

/-- What the task is given of the goal, the candidate and the robot model. -/
structure PlanningTask.For (p : PlanningTask) : Prop where
  robotModel : env.robotModel = .ok (some p.robotModel)
  targetId : p.task.targetId = resolveTargetObjectId env.planningSceneObjectIds candidate.targetId
  box : candidateBox env candidate p.task.targetId = .ok p.task.box
  allowedLinks : p.task.allowedLinks =
    (p.robotModel.jointModelGroup p.task.eefGroup).map (·.linkModelNamesWithCollisionGeometry)
  candidateTimeoutSec : p.task.candidateTimeoutSec = resolveCandidateTimeoutSec fp goal
  gripperMotionDurationSec : p.gripperMotionDurationSec = positiveOr goal.gripperMotionDurationSec (.finite (1 / 2))
  maxDistance : p.task.maxDistance = positiveOr goal.retractDistM (.finite (1 / 20))
  minDistance : p.task.minDistance = fp.mul p.task.maxDistance (.finite (1 / 2))
  surfaces : p.task.surfaces = surfacesOrAll goal.surfaces
  numRotations : p.task.numRotations = if 0 < goal.numRotations then goal.numRotations else 4

theorem planningTask_ends : Ends (PlanningTask.For fp env goal candidate) (planningTask fp env goal candidate) := by
  unfold planningTask
  refine (checkRequest_ends env goal candidate).bind fun checked ⟨htarget, hbox⟩ => ?_
  refine (Ends.caught _).bind fun model hmodel => ?_
  refine (Ends.orFail _ (by decide)).bind fun robotModel hrobot => ?_
  refine (Ends.failIf _ (by decide)).bind fun _ _ => ?_
  exact ⟨hrobot ▸ hmodel, htarget, hbox, rfl, rfl, rfl, rfl, rfl, rfl, rfl⟩

/-- What the loop is given of the task, the goal and the planning group, which the robot
model has, as it has the group of the gripper. -/
structure LoopInputs.For (p : PlanningTask) (inputs : LoopInputs) : Prop where
  candidateIndex : inputs.candidateIndex = candidateIndex
  targetId : inputs.targetId = p.task.targetId
  retractDist : inputs.retractDist = p.task.maxDistance
  maxNumGrasps : inputs.maxNumGrasps = goal.maxNumGraspsOrOne
  eef : (p.robotModel.jointModelGroup p.task.eefGroup).isSome
  arm : ∃ arm, p.robotModel.jointModelGroup goal.groupName = some arm ∧
    inputs.armActiveJointNames = arm.activeJointModelNames

theorem runTask_ends (p : PlanningTask) :
    Ends (LoopInputs.For goal candidateIndex p) (runTask env goal candidateIndex p) := by
  unfold runTask
  refine (Ends.caught _).bind fun _ _ => ?_
  refine (Ends.caught _).bind fun success _ => ?_
  refine (Ends.failIf _ (by decide)).bind fun _ _ => ?_
  refine (Ends.orFail _ (by decide)).bind fun arm harm => ?_
  refine (Ends.orFail _ (by decide)).bind fun eef heef => ?_
  refine (Ends.orFail _ (by decide)).bind fun openPositions _ => ?_
  refine (Ends.orFail _ (by decide)).bind fun closedPositions _ => ?_
  refine (Ends.gripperPositions _ _ _).bind fun _ _ => ?_
  exact ⟨rfl, rfl, rfl, rfl, by rw [heef]; rfl, arm, harm, rfl⟩

/-- The call gets to its loop with what both parts give. -/
theorem prepare_ends : Ends (fun r : GraspTask × LoopInputs => ∃ p : PlanningTask, r.1 = p.task ∧
    p.For fp env goal candidate ∧ r.2.For goal candidateIndex p) (prepare fp env goal candidate candidateIndex) := by
  unfold prepare
  refine (planningTask_ends fp env goal candidate).bind fun p hp => ?_
  refine (runTask_ends env goal candidateIndex p).bind fun inputs hinputs => ?_
  exact ⟨p, rfl, hp, hinputs⟩

/-- The loop is given the bound of the goal, the index of the candidate, its target and the
joints of the planning group; the task has the same target, and links of the gripper that
may touch it. -/
structure Prepared (task : GraspTask) (inputs : LoopInputs) : Prop where
  maxNumGrasps : inputs.maxNumGrasps = goal.maxNumGraspsOrOne
  candidateIndex : inputs.candidateIndex = candidateIndex
  targetId : inputs.targetId = resolveTargetObjectId env.planningSceneObjectIds candidate.targetId
  sameTarget : task.targetId = inputs.targetId
  allowedLinks : task.allowedLinks.isSome
  arm : ∃ robotModel arm, env.robotModel = .ok (some robotModel) ∧
    robotModel.jointModelGroup goal.groupName = some arm ∧ inputs.armActiveJointNames = arm.activeJointModelNames

/-- What the task and the loop are given of the goal's numbers and of the box. -/
structure TaskOfGoal (task : GraspTask) (inputs : LoopInputs) : Prop where
  candidateTimeoutSec : task.candidateTimeoutSec = resolveCandidateTimeoutSec fp goal
  retractDist : inputs.retractDist = positiveOr goal.retractDistM (.finite (1 / 20))
  maxDistance : task.maxDistance = inputs.retractDist
  minDistance : task.minDistance = fp.mul inputs.retractDist (.finite (1 / 2))
  surfaces : task.surfaces = surfacesOrAll goal.surfaces
  numRotations : task.numRotations = if 0 < goal.numRotations then goal.numRotations else 4
  box : candidateBox env candidate task.targetId = .ok task.box

section Prepared
variable {fp env goal candidate candidateIndex} {task : GraspTask} {inputs : LoopInputs}
  (h : prepare fp env goal candidate candidateIndex = .ok (task, inputs))
include h

theorem exists_planningTask :
    ∃ p : PlanningTask, task = p.task ∧ p.For fp env goal candidate ∧ inputs.For goal candidateIndex p := by
  have hends := prepare_ends fp env goal candidate candidateIndex
  rw [h] at hends
  exact hends

theorem prepared_of_ok : Prepared env goal candidate candidateIndex task inputs := by
  obtain ⟨p, rfl, hp, hinputs⟩ := exists_planningTask h
  obtain ⟨arm, harm, hnames⟩ := hinputs.arm
  exact {
    maxNumGrasps := hinputs.maxNumGrasps
    candidateIndex := hinputs.candidateIndex
    targetId := hinputs.targetId.trans hp.targetId
    sameTarget := hinputs.targetId.symm
    allowedLinks := by rw [hp.allowedLinks, Option.isSome_map, hinputs.eef]
    arm := ⟨p.robotModel, arm, hp.robotModel, harm, hnames⟩ }

theorem taskOfGoal_of_ok : TaskOfGoal fp env goal candidate task inputs := by
  obtain ⟨p, rfl, hp, hinputs⟩ := exists_planningTask h
  exact {
    candidateTimeoutSec := hp.candidateTimeoutSec
    retractDist := hinputs.retractDist.trans hp.maxDistance
    maxDistance := hinputs.retractDist.symm
    minDistance := hinputs.retractDist ▸ hp.minDistance
    surfaces := hp.surfaces
    numRotations := hp.numRotations
    box := hp.box }

end Prepared

/-- All grasps of the candidate's solutions, none if the call does not get to them. -/
def candidateGrasps : List RankedGrasp :=
  match prepare fp env goal candidate candidateIndex with
  | .error _ => []
  | .ok (task, inputs) => validGrasps fp inputs 0 (env.solutions task)

theorem planGraspsOrError_ends : Ends (fun grasps =>
    grasps = (candidateGrasps fp env goal candidate candidateIndex).take goal.maxNumGraspsOrOne ∧
      grasps ≠ []) (planGraspsOrError fp env goal candidate candidateIndex) := by
  have hp := prepare_ends fp env goal candidate candidateIndex
  unfold planGraspsOrError candidateGrasps
  cases hprep : prepare fp env goal candidate candidateIndex with
  | error code =>
    rw [hprep] at hp
    exact hp
  | ok r =>
    rw [hprep] at hp
    obtain ⟨p, -, -, hinputs⟩ := hp
    have hloop := solutionLoop_eq_take fp r.2 (env.solutions r.1) []
      (hinputs.maxNumGrasps ▸ goal.maxNumGraspsOrOne_pos)
    simp only [List.nil_append, List.length_nil, Nat.sub_zero] at hloop
    rw [hinputs.maxNumGrasps] at hloop
    refine (Ends.failIf _ (by decide)).bind fun _ hne => ?_
    refine (Ends.caught _).bind fun _ _ => ?_
    exact ⟨hloop, by simpa using hne⟩

/-- A call ends with the first grasps of its solutions, at least one, or with none and a
code that says so. -/
theorem planGrasps_cases : let result := planGrasps fp env goal candidate candidateIndex
    result.errorCode = .success ∧ result.rankedGrasps =
        (candidateGrasps fp env goal candidate candidateIndex).take goal.maxNumGraspsOrOne ∧
          result.rankedGrasps ≠ [] ∨
      result.errorCode ≠ .success ∧ result.rankedGrasps = [] := by
  have he := planGraspsOrError_ends fp env goal candidate candidateIndex
  unfold planGrasps
  cases hcall : planGraspsOrError fp env goal candidate candidateIndex with
  | error code =>
    rw [hcall] at he
    exact .inr ⟨he, rfl⟩
  | ok grasps =>
    rw [hcall] at he
    exact .inl ⟨rfl, he⟩

/-- A call that ends with `SUCCESS` has the first grasps of its solutions, and at least
one. -/
theorem planGrasps_of_success
    (h : (planGrasps fp env goal candidate candidateIndex).errorCode = .success) :
    (planGrasps fp env goal candidate candidateIndex).rankedGrasps =
        (candidateGrasps fp env goal candidate candidateIndex).take goal.maxNumGraspsOrOne ∧
      (planGrasps fp env goal candidate candidateIndex).rankedGrasps ≠ [] := by
  rcases planGrasps_cases fp env goal candidate candidateIndex with ⟨-, hgrasps⟩ | ⟨hcode, -⟩
  · exact hgrasps
  · exact absurd h hcode

theorem mem_candidateGrasps_of_mem {g : RankedGrasp}
    (h : g ∈ (planGrasps fp env goal candidate candidateIndex).rankedGrasps) :
    g ∈ candidateGrasps fp env goal candidate candidateIndex := by
  rcases planGrasps_cases fp env goal candidate candidateIndex with ⟨-, hgrasps, -⟩ | ⟨-, hnone⟩
  · rw [hgrasps] at h
    exact List.mem_of_mem_take h
  · rw [hnone] at h
    cases h

/-- A grasp of a result has been made of a solution of the candidate's task, with the
index of the candidate and its target. -/
theorem mem_planGrasps {g : RankedGrasp}
    (h : g ∈ (planGrasps fp env goal candidate candidateIndex).rankedGrasps) :
    ∃ task inputs m s states pregrasp,
      prepare fp env goal candidate candidateIndex = .ok (task, inputs) ∧
      inputs.candidateIndex = candidateIndex ∧
      inputs.targetId = resolveTargetObjectId env.planningSceneObjectIds candidate.targetId ∧
      task.targetId = inputs.targetId ∧ task.allowedLinks.isSome ∧
      some s ∈ env.solutions task ∧ s.states = .ok states ∧
      states.approachStart.or states.fallbackIk = some pregrasp ∧
      g = rankedGrasp fp inputs m s.cost states pregrasp := by
  have hg := mem_candidateGrasps_of_mem fp env goal candidate candidateIndex h
  unfold candidateGrasps at hg
  cases hprep : prepare fp env goal candidate candidateIndex with
  | error code =>
    rw [hprep] at hg
    cases hg
  | ok r =>
    have hp := prepared_of_ok hprep
    rw [hprep] at hg
    obtain ⟨m, s, states, pregrasp, hs, hstates, hpregrasp, hrg⟩ := mem_validGrasps fp r.2 hg
    exact ⟨r.1, r.2, m, s, states, pregrasp, rfl, hp.candidateIndex, hp.targetId, hp.sameTarget, hp.allowedLinks,
      hs, hstates, hpregrasp, hrg⟩

end Pipeline

end MoveitPlanning.Grasping
