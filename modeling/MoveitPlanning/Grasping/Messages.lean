import MoveitPlanning.Foundation.Double
import MoveitPlanning.Scene.World

/-! The messages of the grasp planning action, and what its server is told by the
planning scene, the robot model and the task constructor. Fields that nothing reads,
such as time stamps, are left out. -/

namespace MoveitPlanning.Grasping

open Foundation Scene

/-- `moveit_msgs::msg::MoveItErrorCodes::val`; `undefined` is what a new message has. -/
inductive MoveItErrorCode
  | undefined | success | failure | planningFailed | timedOut | preempted
  | startStateInCollision | goalInCollision | invalidGroupName | invalidRobotState
  | invalidObjectName | noIkSolution
  | other (val : ℤ)
  deriving DecidableEq, Repr

/-! ### The action -/

/-- `GraspCandidate`, of whose collision object only the id is read. -/
structure GraspCandidate where
  targetId : Name
  objDimsInMeters : Vec3 Double
  objTObjCenter : Pose Double
  deriving DecidableEq, Repr

/-- `PlanGrasps::Goal`. -/
structure Goal where
  groupName : Name
  endEffectorGroup : Name
  toolFrame : Name
  planningTimeoutSec : Double
  gripperMotionDurationSec : Double
  retractDistM : Double
  surfaces : List ℤ
  numRotations : ℤ
  maxNumGrasps : ℤ
  candidates : List GraspCandidate
  deriving DecidableEq, Repr

structure PoseStamped where
  frameId : Name
  pose : Pose Double
  deriving DecidableEq, Repr

structure JointState where
  frameId : Name
  name : List Name
  position : List Double
  deriving DecidableEq, Repr

/-- `JointTrajectory` with its one point; the time is the number of seconds before the cast
to `Duration`. -/
structure JointTrajectory where
  frameId : Name
  jointNames : List Name
  positions : List Double
  timeFromStart : Double
  deriving DecidableEq, Repr

/-- `GripperTranslation`; the distances are as they are before the cast to `float`. -/
structure GripperTranslation where
  frameId : Name
  direction : Vec3 Double
  desiredDistance : Double
  minDistance : Double
  deriving DecidableEq, Repr

/-- `moveit_msgs::msg::Grasp`. -/
structure Grasp where
  id : Name
  preGraspPosture : JointTrajectory
  graspPosture : JointTrajectory
  graspPose : PoseStamped
  graspQuality : Double
  preGraspApproach : GripperTranslation
  postGraspRetreat : GripperTranslation
  postPlaceRetreat : GripperTranslation
  maxContactForce : Double
  allowedTouchObjects : List Name
  deriving DecidableEq, Repr

structure RankedGrasp where
  candidateIndex : UInt32
  targetId : Name
  grasp : Grasp
  preGraspPose : PoseStamped
  graspIkSolution : JointState
  pregraspIkSolution : JointState
  deriving DecidableEq, Repr

/-- `PlanGrasps::Result`. -/
structure Result where
  rankedGrasps : List RankedGrasp
  errorCode : MoveItErrorCode
  deriving DecidableEq, Repr

/-- `PlanGrasps::Feedback`. -/
structure Feedback where
  completedCandidates : UInt32
  totalCandidates : UInt32
  deriving DecidableEq, Repr

/-! ### Robot model and planning task -/

/-- What a `std::exception` says. -/
abbrev Exception := Name

structure JointModelGroup where
  activeJointModelNames : List Name
  linkModelNamesWithCollisionGeometry : List Name
  /-- `getVariableDefaultPositions`: the map of a named state, if the group has it -/
  variableDefaultPositions : Name → Option (Name → Option Double)

structure RobotModel where
  modelFrame : Name
  hasEndEffector : Name → Bool
  hasLinkModel : Name → Bool
  jointModelGroup : Name → Option JointModelGroup

/-- `ObjectBoundingBox`; its transform is given by the pose it is made from. -/
structure ObjectBoundingBox where
  dimensions : Vec3 Double
  centerTransform : Pose Double
  deriving DecidableEq, Repr

/-- Everything the pipeline hands to the stages of its task. -/
structure GraspTask where
  groupName : Name
  eefGroup : Name
  ikFrame : Name
  pregraspPose : Name
  candidateTimeoutSec : Double
  minDistance : Double
  maxDistance : Double
  targetId : Name
  /-- the links that may touch the target, if the end-effector group is known -/
  allowedLinks : Option (List Name)
  surfaces : List ℤ
  numRotations : ℤ
  box : ObjectBoundingBox
  computeIkTimeoutSec : Double
  maxNumGrasps : ℕ

/-- Arm positions and the pose of the IK frame relative to the object, before the grasp. -/
structure PreGrasp where
  positions : List Double
  objectTPregrasp : Pose Double

/-- What the calls in the loop's `try` block return for a solution. -/
structure SolutionStates where
  targetPose : PoseStamped
  graspPositions : List Double
  /-- the start of the approach sub-solution, if there is one and it has a scene -/
  approachStart : Option PreGrasp
  /-- the state `setFromIK` finds for the fallback pose -/
  fallbackIk : Option PreGrasp

/-- A solution of the task; `states` is an error if one of its calls throws. -/
structure Solution where
  isFailure : Bool
  /-- `end()` and its scene are not null -/
  hasEndScene : Bool
  cost : Double
  states : Except Exception SolutionStates

/-- What one call of `PlanGrasps` meets outside its own code. -/
structure PlanningEnv where
  /-- `node_` is not null -/
  node : Bool
  /-- the ids of the planning scene, none if the query fails or times out -/
  planningSceneObjectIds : List Name
  planningSceneCollisionObject : Name → Option (CollisionObject Double)
  computeObjectBoundingBox : CollisionObject Double → Option ObjectBoundingBox
  /-- the robot model, `none` for a null pointer -/
  robotModel : Except Exception (Option RobotModel)
  /-- building the stages and `task.init()` -/
  initTask : GraspTask → Except Exception Unit
  /-- whether `task.plan(..)` is `SUCCESS` -/
  planTask : GraspTask → Except Exception Bool
  /-- `task.solutions()`, `none` for a null pointer -/
  solutions : GraspTask → List (Option Solution)
  publishSolution : GraspTask → Except Exception Unit

end MoveitPlanning.Grasping
