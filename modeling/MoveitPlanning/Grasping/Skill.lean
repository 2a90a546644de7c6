import MoveitPlanning.Grasping.Action

/-! The grasp planning skill, the client of the action. `CreatePlanGraspsGoal` makes a
goal of the skill's parameters, `Execute` sends it, checks what comes back, writes the
poses of the first grasp to frames of the World, and makes the skill's result of the
rest. The World service and the exchange with the action server are parameters; the
World is a state that `Execute` leaves behind also when it fails. -/

namespace MoveitPlanning.Grasping

open Foundation Scene

/-! ### References and parameters -/

/-- A repeated field of a protobuf message: its size is an `int`. -/
structure Repeated (α : Type*) where
  entries : List α
  size_lt : entries.length < 2 ^ 31

namespace Repeated

/-- A field with one entry. -/
def one {α : Type*} (entry : α) : Repeated α := ⟨[entry], by simp⟩

variable {α : Type*} (r : Repeated α)

/-- `static_cast<uint32_t>(size())`. -/
def size : UInt32 := UInt32.ofNat r.entries.length

theorem size_le_iff (i : UInt32) : r.size ≤ i ↔ r.entries.length ≤ i.toNat := by
  have hlt := r.size_lt
  rw [size, UInt32.le_iff_toNat_le, UInt32.toNat_ofNat_of_lt' (by rw [UInt32.size]; omega)]

/-- The entry at an index that has been checked. -/
def get (i : UInt32) (h : ¬r.size ≤ i) : α :=
  r.entries.get ⟨i.toNat, not_le.mp fun hle => h ((r.size_le_iff i).mpr hle)⟩

end Repeated

/-- `intrinsic_proto::world::ObjectReference`. -/
inductive ObjectReference
  | notSet
  | id (id : Name)
  | byName (objectName : Name)
  deriving DecidableEq, Repr

/-- The name of a `TransformNodeReference`: that of an object, or of a frame of one. -/
inductive TransformNodeName
  | notSet
  | object (objectName : Name)
  | frame (objectName frameName : Name)
  deriving DecidableEq, Repr

/-- `intrinsic_proto::world::TransformNodeReference`. -/
inductive TransformNodeReference
  | notSet
  | id (id : Name)
  | byName (name : TransformNodeName)
  deriving DecidableEq, Repr

/-- `intrinsic_proto::Pose`. -/
structure PoseProto where
  position : Option (Vec3 Double)
  orientation : Option (Quat Double)
  deriving DecidableEq, Repr

/-- `BoxShapedGraspAnnotationParams`. -/
structure BoxGraspAnnotations where
  surfaces : List ℤ
  numRotations : ℤ
  objDimsInMeters : Option (Vec3 Double)
  objTObjCenter : Option PoseProto
  deriving DecidableEq, Repr

structure GraspPlanningParams where
  candidateObjects : Repeated ObjectReference
  toolFrame : Option TransformNodeReference
  boxGraspAnnotations : Option BoxGraspAnnotations
  outputGraspFrame : Option TransformNodeReference
  outputPregraspFrame : Option TransformNodeReference
  retractDistM : Option Double
  groupName : Option Name
  timeoutMs : Option Double
  endEffectorGroup : Option Name
  planId : Option Name
  maxNumGrasps : Option ℤ
  gripperMotionDurationSec : Option Double

/-! ### `CreatePlanGraspsGoal` -/

/-- A field that is set and not empty, and otherwise the default. -/
def nonEmptyOr (field : Option Name) (default : Name) : Name :=
  match field with
  | none => default
  | some value => if value = [] then default else value

/-- A field that is set and positive, and otherwise the default. -/
def setPositiveOr (field : Option Double) (default : Double) : Double :=
  match field with
  | none => default
  | some value => positiveOr value default

def GraspPlanningParams.timeoutMsOrDefault (params : GraspPlanningParams) : Double :=
  match params.timeoutMs with
  | none => .finite 15000
  | some timeoutMs => if timeoutMs.isFinite ∧ Double.lt 0 timeoutMs then timeoutMs else .finite 15000

def GraspPlanningParams.maxNumGraspsOrDefault (params : GraspPlanningParams) : ℤ :=
  match params.maxNumGrasps with
  | none => 1
  | some maxNumGrasps => if 0 < maxNumGrasps then maxNumGrasps else 1

/-- The id of the reference, or else the name of its frame or object. -/
def TransformNodeReference.toolFrame : TransformNodeReference → Name
  | .notSet => []
  | .id nodeId => nodeId
  | .byName .notSet => []
  | .byName (.object objectName) => objectName
  | .byName (.frame _ frameName) => frameName

/-- The id of the reference, or else its name. -/
def ObjectReference.targetId : ObjectReference → Name
  | .notSet => []
  | .id objectId => objectId
  | .byName objectName => objectName

/-- The pose of a message, with the defaults of `geometry_msgs::msg::Pose`. -/
def PoseProto.toPose (pose : PoseProto) : Pose Double :=
  ⟨pose.position.getD Pose.identity.position, pose.orientation.getD Pose.identity.orientation⟩

/-- The candidate of an object. -/
def GraspPlanningParams.candidate (params : GraspPlanningParams) (object : ObjectReference) : GraspCandidate where
  targetId := object.targetId
  objDimsInMeters := (params.boxGraspAnnotations.bind (·.objDimsInMeters)).getD ⟨0, 0, 0⟩
  objTObjCenter := ((params.boxGraspAnnotations.bind (·.objTObjCenter)).map PoseProto.toPose).getD Pose.identity

/-- `CreatePlanGraspsGoal`. -/
def createPlanGraspsGoal (fp : Rounding) (params : GraspPlanningParams) : Goal where
  groupName := nonEmptyOr params.groupName "ur_manipulator".toList
  endEffectorGroup := nonEmptyOr params.endEffectorGroup "hand".toList
  toolFrame := (params.toolFrame.map (·.toolFrame)).getD []
  planningTimeoutSec := fp.div params.timeoutMsOrDefault (.finite 1000)
  gripperMotionDurationSec := setPositiveOr params.gripperMotionDurationSec (.finite (1 / 2))
  retractDistM := setPositiveOr params.retractDistM (.finite (1 / 20))
  surfaces := (params.boxGraspAnnotations.map (·.surfaces)).getD []
  numRotations := (params.boxGraspAnnotations.map (·.numRotations)).getD 0
  maxNumGrasps := params.maxNumGraspsOrDefault
  candidates := params.candidateObjects.entries.map params.candidate

/-! ### `MoveItErrorCodeToStatus` -/

def MoveItErrorCode.val : MoveItErrorCode → ℤ
  | .undefined => 0
  | .success => 1
  | .failure => 99999
  | .planningFailed => -1
  | .timedOut => -6
  | .preempted => -7
  | .startStateInCollision => -10
  | .goalInCollision => -12
  | .invalidGroupName => -15
  | .invalidRobotState => -17
  | .invalidObjectName => -19
  | .noIkSolution => -31
  | .other val => val

/-- How `absl::StrCat` writes an integer. -/
def intText (n : ℤ) : Name :=
  if n < 0 then '-' :: Nat.toDigits 10 n.natAbs else Nat.toDigits 10 n.natAbs

def moveItErrorCodeToStatus (errorCode : MoveItErrorCode) (targetId : Name) : Status :=
  let targetMsg : Name := if targetId = [] then [] else " for object '".toList ++ targetId ++ "'".toList
  match errorCode with
  | .success => .ok ()
  | .invalidObjectName => .error ⟨.notFound,
      if targetId = [] then "Target object was not found in the planning scene.".toList
      else "Target object '".toList ++ targetId ++ "' was not found in the planning scene.".toList⟩
  | .invalidGroupName => .error ⟨.invalidArgument,
      "Invalid planning group or end-effector group specified in request.".toList⟩
  | .invalidRobotState => .error ⟨.failedPrecondition,
      "Robot model does not define the required end-effector or IK frame.".toList⟩
  | .timedOut => .error ⟨.deadlineExceeded, "Grasp planning timed out".toList ++ targetMsg ++ ".".toList⟩
  | .planningFailed => .error ⟨.notFound,
      "No reachable or collision-free grasp candidates found".toList ++ targetMsg ++ ".".toList⟩
  | .startStateInCollision => .error ⟨.failedPrecondition, "Robot start state is in collision.".toList⟩
  | .goalInCollision => .error ⟨.failedPrecondition,
      "Grasp goal pose is in collision".toList ++ targetMsg ++ ".".toList⟩
  | .noIkSolution => .error ⟨.notFound, "No IK solution found for grasp pose".toList ++ targetMsg ++ ".".toList⟩
  | _ => .error ⟨.internal, "Grasp planning failed with MoveIt error code: ".toList ++
      intText errorCode.val ++ targetMsg ++ ".".toList⟩

theorem moveItErrorCodeToStatus_eq_ok_iff (errorCode : MoveItErrorCode) (targetId : Name) :
    moveItErrorCodeToStatus errorCode targetId = .ok () ↔ errorCode = .success := by
  cases errorCode with
  | success => exact ⟨fun _ => rfl, fun _ => rfl⟩
  | _ => exact ⟨nofun, nofun⟩

/-! ### The call of the action -/

/-- `rclcpp_action::ResultCode`. -/
inductive ResultCode
  | unknown | succeeded | canceled | aborted
  deriving DecidableEq, Repr

/-- What the client meets when it calls the action. -/
structure ActionExchange where
  /-- the server is there before the connection timeout -/
  serverReachable : Bool
  /-- the goal is answered before the connection timeout -/
  goalAnswered : Bool
  goalAccepted : Bool
  /-- the result is there before the result timeout -/
  resultReceived : Bool
  code : ResultCode
  result : Result

def actionName : Name := "grasp_planning/plan_grasps".toList

/-- `CallGraspPlanningAction`; an aborted action has a result like any other. -/
def callGraspPlanningAction (exchange : ActionExchange) : Except Failure Result :=
  if !exchange.serverReachable then
    .error ⟨.unavailable, "Action server not reachable: ".toList ++ actionName⟩
  else if !exchange.goalAnswered then
    .error ⟨.deadlineExceeded, "Timed out sending goal to action: ".toList ++ actionName⟩
  else if !exchange.goalAccepted then
    .error ⟨.failedPrecondition, "Grasp planning goal was rejected by: ".toList ++ actionName⟩
  else if !exchange.resultReceived then
    .error ⟨.deadlineExceeded, "Timed out waiting for action result: ".toList ++ actionName⟩
  else
    match exchange.code with
    | .canceled => .error ⟨.cancelled, "Grasp planning action was canceled.".toList⟩
    | .unknown => .error ⟨.internal, "Grasp planning action returned an unknown result.".toList⟩
    | _ => .ok exchange.result

def Terminal.code : Terminal → ResultCode
  | .succeed => .succeeded
  | .abort => .aborted
  | .canceled => .canceled

/-- The exchange that gets the result of a run in time. -/
def ActionRun.exchange (run : ActionRun) : ActionExchange := ⟨true, true, true, true, run.terminal.code, run.result⟩

/-! ### Checking the result -/

structure ObjectPlanningResult where
  candidateObject : ObjectReference
  grasp : Grasp
  preGraspPose : PoseStamped
  graspIkSolution : JointState
  pregraspIkSolution : JointState
  deriving DecidableEq, Repr

/-- A solution has positions, one for each name. -/
def JointState.isValid (s : JointState) : Bool := decide (s.position ≠ [] ∧ s.name.length = s.position.length)

def planningResult (params : GraspPlanningParams) (g : RankedGrasp) : Except Failure ObjectPlanningResult :=
  if h : params.candidateObjects.size ≤ g.candidateIndex then
    .error ⟨.internal, "Grasp planning action returned invalid candidate index: ".toList ++
      Nat.toDigits 10 g.candidateIndex.toNat ++ ".".toList⟩
  else if !g.graspIkSolution.isValid then
    .error ⟨.internal, "Invalid grasp IK solution returned for object '".toList ++ g.targetId ++ "'.".toList⟩
  else if !g.pregraspIkSolution.isValid then
    .error ⟨.internal, "Invalid pregrasp IK solution returned for object '".toList ++ g.targetId ++ "'.".toList⟩
  else .ok {
    candidateObject := params.candidateObjects.get g.candidateIndex h
    grasp := g.grasp
    preGraspPose := g.preGraspPose
    graspIkSolution := g.graspIkSolution
    pregraspIkSolution := g.pregraspIkSolution }

/-- `successful_results`, of which there is a first. -/
structure PlanningResults where
  selected : ObjectPlanningResult
  others : List ObjectPlanningResult

/-- What the action's result comes to; the status of its code is OK only for `SUCCESS`. -/
def checkedResults (params : GraspPlanningParams) (result : Result) : Except Failure PlanningResults :=
  match moveItErrorCodeToStatus result.errorCode [] with
  | .error failure => .error failure
  | .ok () =>
    match result.rankedGrasps with
    | [] => .error ⟨.notFound, "No reachable or collision-free grasp candidates were returned.".toList⟩
    | first :: rest => do
      let selected ← planningResult params first
      let others ← rest.mapM (planningResult params)
      return ⟨selected, others⟩

/-- `Execute` up to its use of the World. -/
def planningResults (fp : Rounding) (action : Goal → Double → ActionExchange) (params : GraspPlanningParams) :
    Except Failure PlanningResults :=
  if params.candidateObjects.entries = [] then
    .error ⟨.invalidArgument, "candidate_objects must contain at least one object".toList⟩
  else
    let goal := createPlanGraspsGoal fp params
    match callGraspPlanningAction (action goal (fp.mul goal.planningTimeoutSec (.finite 1000))) with
    | .error failure => .error failure
    | .ok result => checkedResults params result

/-! ### The output frames -/

/-- Which of the two frames a call of the World service is for. -/
inductive OutputFrame
  | grasp | pregrasp
  deriving DecidableEq, Repr

def OutputFrame.text : OutputFrame → Name
  | .grasp => "grasp".toList
  | .pregrasp => "pregrasp".toList

/-- The World client, on states of the World. The calls also take the frame they are
for, so that calls with equal arguments may end differently. -/
structure ObjectWorld (W Object Node : Type*) where
  getObject : W → ObjectReference → Except Failure Object
  asTransformNode : Object → Node
  getTransformNode : OutputFrame → W → TransformNodeReference → Except Failure Node
  /-- of nodes `a` and `b`, the node to update, and `a_t_b` -/
  updateTransform : OutputFrame → W → Node → Node → Node → Pose Double → Except Failure W

section World
variable {W Object Node : Type*} (world : ObjectWorld W Object Node)

def updateOutputFrame (which : OutputFrame) (targetNode : Node) (frame : TransformNodeReference)
    (pose : Pose Double) (w : W) : Except Failure W :=
  match world.getTransformNode which w frame with
  | .error failure => .error ⟨.notFound, "Output ".toList ++ which.text ++
      " frame could not be resolved in World Service: ".toList ++ failure.message⟩
  | .ok node =>
    match world.updateTransform which w targetNode node node pose with
    | .error failure => .error ⟨.internal, "Failed to update output_".toList ++ which.text ++
        "_frame transform: ".toList ++ failure.message⟩
    | .ok w' => .ok w'

/-- A frame that is not asked for is passed over. -/
def updateIfRequested (which : OutputFrame) (targetNode : Node) (frame : Option TransformNodeReference)
    (pose : Pose Double) (w : W) : Except Failure W :=
  match frame with
  | none => .ok w
  | some frame => updateOutputFrame world which targetNode frame pose w

/-- The part of `Execute` that uses the World, and the World it leaves. -/
def writeOutputFrames (params : GraspPlanningParams) (selected : ObjectPlanningResult) (w : W) : Status × W :=
  if params.outputGraspFrame.isNone && params.outputPregraspFrame.isNone then (.ok (), w)
  else
    match world.getObject w selected.candidateObject with
    | .error failure => (.error ⟨.notFound,
        "Candidate object could not be resolved in World Service: ".toList ++ failure.message⟩, w)
    | .ok target =>
      let targetNode := world.asTransformNode target
      match updateIfRequested world .grasp targetNode params.outputGraspFrame selected.grasp.graspPose.pose w with
      | .error failure => (.error failure, w)
      | .ok w₁ =>
        match updateIfRequested world .pregrasp targetNode params.outputPregraspFrame
            selected.preGraspPose.pose w₁ with
        | .error failure => (.error failure, w₁)
        | .ok w₂ => (.ok (), w₂)

end World

/-! ### The result of the skill -/

/-- `PoseBasedGrasp`. -/
structure PoseBasedGrasp where
  graspId : Name
  object : ObjectReference
  objectFrame : TransformNodeReference
  graspFrame : TransformNodeReference
  preGraspFrame : TransformNodeReference
  pregraspIkSolution : List Double
  graspIkSolution : List Double
  deriving DecidableEq, Repr

structure GraspPlanningResult where
  grasps : List PoseBasedGrasp
  planId : Name
  success : Bool
  deriving DecidableEq, Repr

/-- The reference of a grasp to its object, and the name the frames are given under. A
reference without a name gets that of the grasp's frame. -/
def ObjectPlanningResult.target (r : ObjectPlanningResult) : ObjectReference × Name :=
  let frameId := r.grasp.graspPose.frameId
  if r.candidateObject.targetId ≠ [] then (r.candidateObject, r.candidateObject.targetId)
  else if frameId ≠ [] then (.byName frameId, frameId)
  else (r.candidateObject, [])

/-- The output frame for the first grasp, if there is one, and otherwise a frame of the object. -/
def frameReference (i : ℕ) (outputFrame : Option TransformNodeReference) (targetName frameName : Name) :
    TransformNodeReference :=
  match i, outputFrame with
  | 0, some frame => frame
  | _, _ => if targetName ≠ [] then .byName (.frame targetName frameName) else .notSet

/-- The `i`-th grasp of the result. -/
def poseBasedGrasp (params : GraspPlanningParams) (i : ℕ) (r : ObjectPlanningResult) : PoseBasedGrasp where
  graspId := r.grasp.id
  object := r.target.1
  objectFrame := if r.target.2 ≠ [] then .byName (.object r.target.2) else .notSet
  graspFrame := frameReference i params.outputGraspFrame r.target.2 r.grasp.id
  preGraspFrame := frameReference i params.outputPregraspFrame r.target.2 (r.grasp.id ++ "_pregrasp".toList)
  pregraspIkSolution := r.pregraspIkSolution.position
  graspIkSolution := r.graspIkSolution.position

def graspPlanningResult (params : GraspPlanningParams) (nowMs : ℤ) (results : PlanningResults) :
    GraspPlanningResult where
  grasps := (results.selected :: results.others).mapIdx (poseBasedGrasp params)
  planId := nonEmptyOr params.planId ("grasp_plan_".toList ++ intText nowMs)
  success := true

/-- `GraspPlanningSkill::Execute`, for a request whose parameters may not parse. -/
def execute {W Object Node : Type*} (fp : Rounding) (nowMs : ℤ) (action : Goal → Double → ActionExchange)
    (world : ObjectWorld W Object Node) (request : Except Failure GraspPlanningParams) (w : W) :
    Except Failure GraspPlanningResult × W :=
  match request with
  | .error failure => (.error failure, w)
  | .ok params =>
    match planningResults fp action params with
    | .error failure => (.error failure, w)
    | .ok results =>
      match writeOutputFrames world params results.selected w with
      | (.error failure, w') => (.error failure, w')
      | (.ok (), w') => (.ok (graspPlanningResult params nowMs results), w')

/-! ### Requests for concrete cases -/

namespace Sample

/-- A request for one object, with both output frames. -/
def params (object : ObjectReference) : GraspPlanningParams where
  candidateObjects := .one object
  toolFrame := none
  boxGraspAnnotations := none
  outputGraspFrame := some (.id "grasp".toList)
  outputPregraspFrame := some (.id "pregrasp".toList)
  retractDistM := none
  groupName := none
  timeoutMs := none
  endEffectorGroup := none
  planId := none
  maxNumGrasps := none
  gripperMotionDurationSec := none

/-- The same request with the dimensions of the box. -/
def sizedParams (object : ObjectReference) : GraspPlanningParams :=
  { params object with boxGraspAnnotations := some ⟨[], 1, some ⟨1, 1, 1⟩, none⟩ }

/-- A planning scene with the ids, and a task with one solution, whose grasp is given in
the frame of the task's target. -/
def sceneEnv (ids : List Name) : PlanningEnv where
  node := true
  planningSceneObjectIds := ids
  planningSceneCollisionObject _ := none
  computeObjectBoundingBox _ := none
  robotModel := .ok (some ⟨[], fun _ => true, fun _ => true,
    fun _ => some ⟨["joint".toList], [], fun _ => some fun _ => some 0⟩⟩)
  initTask _ := .ok ()
  planTask _ := .ok true
  solutions task :=
    [some ⟨false, true, 0, .ok ⟨⟨task.targetId, Pose.identity⟩, [0], some ⟨[0], Pose.identity⟩, none⟩⟩]
  publishSolution _ := .ok ()

/-- The run of the action for the request, in a planning scene with the ids. -/
def run (ids : List Name) (params : GraspPlanningParams) : ActionRun :=
  executePlanGraspsAction .exact sort (fun _ => false) (fun _ => sceneEnv ids) (createPlanGraspsGoal .exact params)

theorem exists_ok {α : Type*} {x : Except Failure α} {p : α → Bool} (h : x.toOption.any p = true) :
    ∃ a, x = .ok a ∧ p a = true := by
  cases x with
  | error failure => exact nomatch h
  | ok a => exact ⟨a, rfl, h⟩

/-- A World that knows no object. -/
def emptyWorld : ObjectWorld Unit Unit Unit where
  getObject _ _ := .error ⟨.notFound, []⟩
  asTransformNode _ := ()
  getTransformNode _ _ _ := .error ⟨.notFound, []⟩
  updateTransform _ _ _ _ _ _ := .error ⟨.notFound, []⟩

end Sample

end MoveitPlanning.Grasping
