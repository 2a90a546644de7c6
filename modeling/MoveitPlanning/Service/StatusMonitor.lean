import MoveitPlanning.Foundation.DurationSeconds
import MoveitPlanning.Scene.World

/-! The status monitor: what it keeps of `/joint_states`, the checks of `check_health` in
their order, and the calls of the service state on top of it. The checks end with the first
report that is not healthy. What the ROS clients answer in time, the clock and the TF tree
are parameters. -/

namespace MoveitPlanning.Service

open Foundation Scene

structure SubsystemHealthReport where
  healthy : Bool
  title : Name
  message : Name
  instructions : Name
  deriving DecidableEq, Repr

/-! ### Parameters -/

/-- The value of a node's parameter that may be declared as a number of either kind. -/
inductive ParameterValue
  | double (value : Double)
  | integer (value : ℤ)
  | other
  deriving DecidableEq, Repr

def ParameterValue.secondsOr (fp : Rounding) (default : Double) : ParameterValue → Double
  | double value => value
  | integer value => fp.round value
  | other => default

structure StatusParameters where
  planningFrame : Name
  robotBaseFrame : Name
  toolFrame : Name
  expectCollisionObjects : Bool
  useMockHardware : Bool
  expectedJoints : List Name
  rosServiceCallTimeoutSec : ParameterValue
  jointStateTimeoutSec : ParameterValue

/-- The values that the constructor declares. -/
def StatusParameters.declared : StatusParameters where
  planningFrame := "world".toList
  robotBaseFrame := "base_link".toList
  toolFrame := "hande_tcp".toList
  expectCollisionObjects := true
  useMockHardware := false
  expectedJoints := ["shoulder_pan_joint".toList, "shoulder_lift_joint".toList, "elbow_joint".toList,
    "wrist_1_joint".toList, "wrist_2_joint".toList, "wrist_3_joint".toList]
  rosServiceCallTimeoutSec := .double (.finite 2)
  jointStateTimeoutSec := .double (.finite 3)

/-! ### Joint states -/

/-- The mutable part of `MoveItStatusClient`; times are nanoseconds. -/
structure MoveItStatusClient where
  isDisabled : Bool
  lastJointStateTime : ℤ
  receivedJointNames : Finset Name

def MoveItStatusClient.init : MoveItStatusClient := ⟨false, 0, ∅⟩

/-- `record_joint_state`, at the time `now` of its call, of a message with the names. -/
def MoveItStatusClient.recordJointState (client : MoveItStatusClient) (now : ℤ) (name : List Name) :
    MoveItStatusClient :=
  { client with lastJointStateTime := now, receivedJointNames := name.toFinset }

/-! ### `check_health` -/

/-- The response of `/get_planning_scene`, as far as it is read. -/
structure PlanningSceneResponse where
  collisionObjects : List Name
  robotStateJointNames : List Name

/-- What a call of `check_health` meets; the waits are given their timeout in milliseconds. -/
structure HealthEnv where
  getSceneAvailable : Double → Bool
  /-- nothing when the response is not there in time -/
  sceneResponse : Double → Option (Except Name PlanningSceneResponse)
  motionPlanReady : Bool
  graspPlanReady : Bool
  now : ℤ
  /-- an error is the text that `canTransform` gives -/
  canTransform : Name → Name → Except Name Unit

def reportIf (fails : Bool) (title message instructions : Name) : Except SubsystemHealthReport Unit :=
  if fails then .error ⟨false, title, message, instructions⟩ else .ok ()

section Checks
variable (fp : Rounding) (tenths : Double → Name) (params : StatusParameters) (client : MoveItStatusClient)
  (env : HealthEnv)

/-- The first check: move_group answers the query for its planning scene. -/
def queryScene : Except SubsystemHealthReport PlanningSceneResponse :=
  let timeout := fp.mul (params.rosServiceCallTimeoutSec.secondsOr fp (.finite 2)) (.finite 1000)
  if !env.getSceneAvailable timeout then
    .error ⟨false, "MoveIt move_group is Offline".toList,
      "The MoveIt '/get_planning_scene' service is unreachable or not responding.".toList,
      ("Ensure move_group is launched, robot_description parameters are valid, " ++
        "and MoveIt planning pipelines loaded successfully.").toList⟩
  else
    match env.sceneResponse timeout with
    | none => .error ⟨false, "MoveIt Planning Scene Query Timed Out".toList,
        "MoveIt move_group did not respond to the planning scene query within timeout.".toList,
        "Check move_group logs for deadlock or heavy planning tasks blocking the node executor.".toList⟩
    | some (.error exception) => .error ⟨false, "MoveIt Planning Scene Exception".toList,
        "Exception occurred when querying planning scene: ".toList ++ exception,
        "Check MoveIt configuration and node logs for details.".toList⟩
    | some (.ok response) => .ok response

def jointStateTimeout : Double := params.jointStateTimeoutSec.secondsOr fp (.finite 3)

/-- What was received at the time is stale by now. -/
def isStale (now time : ℤ) : Bool := (jointStateTimeout fp params).lt (durationSeconds fp (now - time))

/-- The checks of what was received on `/joint_states`; `tenths` writes a number with one
digit after the point. -/
def checkJointStates : Except SubsystemHealthReport Unit := do
  reportIf (client.lastJointStateTime = 0) "Joint States Offline".toList
    "/joint_states topic has not received any messages. Ensure flowstate_ros_bridge is running.".toList
    ("Launch upstream bridge via 'ros2 launch moveit_planning_service " ++ "flowstate_ros_bridge.launch.py'.").toList
  reportIf (isStale fp params env.now client.lastJointStateTime) "Joint States Stale".toList
    ("/joint_states stream is stale (last received ".toList ++
      tenths (durationSeconds fp (env.now - client.lastJointStateTime)) ++ "s ago, timeout is ".toList ++
      tenths (jointStateTimeout fp params) ++ "s).".toList)
    "Check flowstate_ros_bridge logs and Zenoh router connectivity.".toList
  match params.expectedJoints.find? fun joint => decide (joint ∉ client.receivedJointNames) with
  | none => .ok ()
  | some joint => .error ⟨false, "Missing Expected Joints".toList,
      "Expected joint '".toList ++ joint ++ "' was not found in /joint_states stream.".toList,
      "Check robot description model and override_joint_names in flowstate_ros_bridge.".toList⟩

/-- A check of the TF tree, for two frames with names. -/
def checkTransform (targetFrame sourceFrame target source instructions : Name) : Except SubsystemHealthReport Unit :=
  if targetFrame = [] ∨ sourceFrame = [] then .ok ()
  else
    match env.canTransform targetFrame sourceFrame with
    | .ok () => .ok ()
    | .error text => .error ⟨false, "TF Tree Incomplete".toList,
        "Cannot transform from ".toList ++ target ++ " '".toList ++ targetFrame ++ "' to ".toList ++ source ++
          " '".toList ++ sourceFrame ++ "': ".toList ++ text, instructions⟩

/-- The checks before those of the joint states. -/
def checkPlanning : Except SubsystemHealthReport PlanningSceneResponse := do
  let scene ← queryScene fp params env
  reportIf (!env.motionPlanReady || !env.graspPlanReady) "Planning Service Node Offline".toList
    ("The moveit_planning_node endpoints ('motion_planning/get_motion_plan', " ++
      "'grasp_planning/plan_grasps') are not registered.").toList
    "Ensure moveit_planning_node is running and has completed initialization.".toList
  reportIf (!params.useMockHardware && params.expectCollisionObjects && scene.collisionObjects.isEmpty)
    "Planning Scene Empty".toList "MoveIt planning scene has 0 collision objects registered.".toList
    ("Ensure moveit_planning_service is connected to World service and " ++
      "trigger Enable to sync collision objects.").toList
  return scene

/-- The check of the robot state that move_group has. -/
def checkRobotState (scene : PlanningSceneResponse) : Except SubsystemHealthReport Unit :=
  reportIf scene.robotStateJointNames.isEmpty "MoveIt Robot State Uninitialized".toList
    "MoveIt move_group planning scene robot_state has 0 joint states populated.".toList
    "Ensure joint_state_broadcaster or flowstate_ros_bridge is publishing to /joint_states.".toList

def checkTransforms : Except SubsystemHealthReport Unit := do
  checkTransform env params.planningFrame params.robotBaseFrame "planning frame".toList "robot base frame".toList
    "Ensure moveit_planning_service static transforms and flowstate_ros_bridge are running.".toList
  checkTransform env params.robotBaseFrame params.toolFrame "robot base frame".toList "tool frame".toList
    "Ensure robot_state_publisher is receiving /joint_states and broadcasting tool transforms.".toList

def healthChecks : Except SubsystemHealthReport Unit := do
  let scene ← checkPlanning fp params env
  if params.useMockHardware then checkTransforms params env
  else
    checkJointStates fp tenths params client env
    checkRobotState scene
    checkTransforms params env

/-- `check_health`. -/
def checkHealth : SubsystemHealthReport :=
  match healthChecks fp tenths params client env with
  | .error report => report
  | .ok () => ⟨true, [], [], []⟩

end Checks

/-! ### `trigger_scene_synchronization` -/

/-- What the client meets when it calls the bridge. -/
structure BridgeExchange where
  available : Bool
  /-- nothing when the response is not there in time, and otherwise its `success` -/
  response : Option (Except Name Bool)
  deriving DecidableEq, Repr

def triggerSceneSynchronization (bridge : BridgeExchange) : Bool :=
  bridge.available &&
    match bridge.response with
    | some (.ok success) => success
    | _ => false

/-! ### The service state -/

inductive StateCode
  | enabled | disabled | error
  deriving DecidableEq, Repr

/-- `ExtendedStatus` with its user report. -/
structure ExtendedStatus where
  title : Name
  message : Name
  instructions : Name
  deriving DecidableEq, Repr

structure SelfState where
  stateCode : StateCode
  extendedStatus : Option ExtendedStatus
  deriving DecidableEq, Repr

/-- `GetState`, with what `check_health` reports. -/
def getState (client : MoveItStatusClient) (report : SubsystemHealthReport) : SelfState :=
  if client.isDisabled then ⟨.disabled, none⟩
  else if report.healthy then ⟨.enabled, none⟩
  else ⟨.error, some ⟨report.title, report.message, report.instructions⟩⟩

def MoveItStatusClient.setDisabled (client : MoveItStatusClient) (disabled : Bool) : MoveItStatusClient :=
  { client with isDisabled := disabled }

/-- `Enable`, with what the bridge answers and `check_health` reports. -/
def enable (client : MoveItStatusClient) (isMockHardware : Bool) (bridge : BridgeExchange)
    (report : SubsystemHealthReport) : Status × MoveItStatusClient :=
  let client := client.setDisabled false
  if !isMockHardware && !triggerSceneSynchronization bridge then
    (.error ⟨.internal, "Failed to synchronize collision scene in moveit_planning_service".toList⟩, client)
  else if !report.healthy then
    (.error ⟨.internal, "Enable failed: ".toList ++ report.title ++ " - ".toList ++ report.message⟩, client)
  else (.ok (), client)

/-- `Disable`. -/
def disable (client : MoveItStatusClient) : Status × MoveItStatusClient := (.ok (), client.setDisabled true)

end MoveitPlanning.Service
