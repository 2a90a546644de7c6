import MoveitPlanning.Foundation.Run
import MoveitPlanning.Foundation.HashMap
import MoveitPlanning.Scene.World
import MoveitPlanning.Scene.State
import MoveitPlanning.Scene.Fetch
import MoveitPlanning.Scene.FetchPlan
import MoveitPlanning.Scene.Publish
import MoveitPlanning.Scene.TargetedSync
import MoveitPlanning.Scene.Refetch
import MoveitPlanning.Scene.MovePoses
import MoveitPlanning.Scene.SyncStatus
import MoveitPlanning.Scene.Threads
import MoveitPlanning.Scene.PendingRequest
import MoveitPlanning.Foundation.TopK
import MoveitPlanning.Foundation.Double
import MoveitPlanning.Grasping.Messages
import MoveitPlanning.Foundation.StdSort
import MoveitPlanning.Grasping.Pipeline
import MoveitPlanning.Grasping.Action
import MoveitPlanning.Grasping.Ranking
import MoveitPlanning.Grasping.CandidateFailure
import MoveitPlanning.Scene.GhostObstacle
import MoveitPlanning.Foundation.Channel
import MoveitPlanning.Grasping.SceneDelivery
import MoveitPlanning.Foundation.Presence
import MoveitPlanning.Scene.MoveStream
import MoveitPlanning.Grasping.GoalHandle
import MoveitPlanning.Scene.FrameNames
import MoveitPlanning.Grasping.EarlyExit
import MoveitPlanning.Grasping.ErrorCodes
import MoveitPlanning.Grasping.OutputFrames
import MoveitPlanning.Grasping.Provenance
import MoveitPlanning.Grasping.Generator
import MoveitPlanning.Grasping.TargetResolution
import MoveitPlanning.Foundation.LastEvent
import MoveitPlanning.Scene.MovePass
import MoveitPlanning.Scene.Sections
import MoveitPlanning.Scene.RateLimit
import MoveitPlanning.Foundation.RotationAngle
import MoveitPlanning.Scene.Deadband
import MoveitPlanning.Scene.Removal
import MoveitPlanning.Foundation.AgreedWrite
import MoveitPlanning.Scene.ConcurrentFetch
import MoveitPlanning.Grasping.JointGroups
import MoveitPlanning.Foundation.Binary64
import MoveitPlanning.Grasping.Timeout
import MoveitPlanning.Foundation.TagClash
import MoveitPlanning.Grasping.GraspIds
import MoveitPlanning.Service.JointHealth
import MoveitPlanning.Service.Readiness
import MoveitPlanning.Service.ServiceState
import MoveitPlanning.Grasping.ResolutionRanks
import MoveitPlanning.Scene.FrameIds
import MoveitPlanning.Scene.MeshIds
import MoveitPlanning.Foundation.Transform
import MoveitPlanning.Scene.Placement
import MoveitPlanning.Grasping.BoundingBox
import MoveitPlanning.Foundation.RotationQuaternion
import MoveitPlanning.Grasping.ExactIsometries
import MoveitPlanning.Grasping.PreGrasp
import MoveitPlanning.Grasping.RetractDistance
import MoveitPlanning.Grasping.Surfaces
import MoveitPlanning.Grasping.BoxGrasps
import MoveitPlanning.Foundation.IntegerCast
import MoveitPlanning.Grasping.SubSolutions
import MoveitPlanning.Scene.Solids
import MoveitPlanning.Service.TimeoutCasts
import MoveitPlanning.Scene.TrackedEntries
import MoveitPlanning.Foundation.DoubleRange
import MoveitPlanning.Grasping.PlanningNumbers
import MoveitPlanning.Grasping.ActionAnswers
import MoveitPlanning.Grasping.ActionProgress
import MoveitPlanning.Foundation.Endless
import MoveitPlanning.Scene.Quiescence
import MoveitPlanning.Scene.Convergence
import MoveitPlanning.Foundation.Linearization
import MoveitPlanning.Service.ConcurrentCalls
import MoveitPlanning.Service.ReadinessProgress
import MoveitPlanning.Foundation.RequestTable
import MoveitPlanning.Service.SceneQueries
import MoveitPlanning.Foundation.OnceCell
import MoveitPlanning.Grasping.RobotModelLoading
import MoveitPlanning.Foundation.RoundingError
import MoveitPlanning.Grasping.CandidateBudget
import MoveitPlanning.Grasping.Expansions
import MoveitPlanning.Foundation.ParameterStore
import MoveitPlanning.Service.NodeConfiguration
import MoveitPlanning.Service.MonitorConfiguration
