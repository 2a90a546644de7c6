import MoveitPlanning.Foundation.IntegerCast
import MoveitPlanning.Grasping.Timeout
import MoveitPlanning.Service.Readiness

/-! Timeouts on their way from a double to whole milliseconds. The client of the grasp
skill bounds what it converts and rounds it up. The client of the motion skill converts to
`int` whatever is not at most zero, and the node converts its parameters as they are, so
there a fraction of a millisecond becomes 0 and a number that is too large, or none, is
undefined. The seconds of the node are doubles, and the product with 1000 is rounded; the
rounding does not cross the ends of the range. -/

namespace MoveitPlanning.Service

open Foundation Scene Grasping

/-- The conversion is in the range of its type, and the timeout at least 1 ms. -/
def Converted (timeout : Option ℤ) : Prop := ∃ ms, timeout = some ms ∧ 1 ≤ ms

/-! ### The client of the grasp skill -/

/-- `bounded_timeout_ms`. -/
def boundedTimeout (timeoutMs : Double) : Double :=
  if timeoutMs.isFinite ∧ Double.lt 0 timeoutMs then Double.min timeoutMs (.finite 300000) else .finite 15000

/-- `timeout` of `CallGraspPlanningAction`. -/
def graspTimeoutMs (timeoutMs : Double) : Option ℤ := ((boundedTimeout timeoutMs).ceil.castInt 64).map (max 1)

theorem boundedTimeout_eq (timeoutMs : Double) : boundedTimeout timeoutMs = .finite (boundedTimeoutMs timeoutMs) := by
  cases timeoutMs with
  | finite t =>
    rw [boundedTimeout, boundedTimeoutMs]
    by_cases hpos : 0 < t
    · rw [if_pos ⟨rfl, Double.lt_finite.mpr hpos⟩, if_pos hpos, Double.min]
      by_cases hlt : 300000 < t
      · rw [if_pos (Double.lt_finite.mpr hlt), min_eq_right hlt.le]
      · rw [if_neg (mt Double.lt_finite.mp hlt), min_eq_left (not_lt.mp hlt)]
    · rw [if_neg (fun h => hpos (Double.lt_finite.mp h.2)), if_neg hpos]
  | _ => exact if_neg fun h => absurd h.1 (by simp [Double.isFinite])

theorem boundedTimeoutMs_pos (timeoutMs : Double) : 0 < boundedTimeoutMs timeoutMs := by
  cases timeoutMs with
  | finite t =>
    rw [boundedTimeoutMs]
    split_ifs with hpos
    · exact lt_min hpos (by norm_num)
    · norm_num
  | _ => norm_num [boundedTimeoutMs]

/-- The cast is defined, and the client waits by the timeout that it gives. -/
theorem graspTimeoutMs_eq (timeoutMs : Double) :
    graspTimeoutMs timeoutMs = some (max 1 ⌈boundedTimeoutMs timeoutMs⌉) := by
  have hpos : 0 < ⌈boundedTimeoutMs timeoutMs⌉ := Int.ceil_pos.mpr (boundedTimeoutMs_pos timeoutMs)
  have hle : ⌈boundedTimeoutMs timeoutMs⌉ ≤ 300000 := Int.ceil_le.mpr (boundedTimeoutMs_le timeoutMs)
  have hwhole : wholePart (⌈boundedTimeoutMs timeoutMs⌉ : ℤ) = ⌈boundedTimeoutMs timeoutMs⌉ := by
    rw [wholePart, if_pos (by exact_mod_cast hpos.le), Int.floor_intCast]
  rw [graspTimeoutMs, boundedTimeout_eq, Double.ceil, Double.castInt, hwhole, if_pos (by constructor <;> omega),
    Option.map_some]

theorem converted_graspTimeoutMs (timeoutMs : Double) : Converted (graspTimeoutMs timeoutMs) :=
  ⟨_, graspTimeoutMs_eq timeoutMs, le_max_left _ _⟩

/-! ### The motion skill -/

/-- `MotionPlanningParams`. -/
structure MotionPlanningParams where
  groupName : Name
  timeoutMs : Double
  deriving DecidableEq, Repr

/-- `MotionPlanningResult`, without its trajectories. -/
structure MotionPlanningResult where
  planningTime : Double
  success : Bool
  deriving DecidableEq, Repr

/-- What the client meets within so many milliseconds. -/
structure MotionExchange where
  serviceReachable : ℤ → Bool
  response : ℤ → Option MotionPlanResponse

def motionServiceName : Name := "motion_planning/get_motion_plan".toList

/-- `CallGetMotionPlan`; it is undefined where its cast to `int` is. -/
def callGetMotionPlan (exchange : MotionExchange) (timeoutMs : Double) : Option (Except Failure MotionPlanResponse) :=
  (timeoutMs.castInt 32).map fun timeout =>
    if !exchange.serviceReachable timeout then
      .error ⟨.unavailable, "Service not reachable: ".toList ++ motionServiceName⟩
    else
      match exchange.response timeout with
      | none => .error ⟨.deadlineExceeded, "Timed out waiting for service response: ".toList ++ motionServiceName⟩
      | some response => .ok response

/-- The checks of `MotionPlanningSkill::Execute`, up to its `timeout_ms`. -/
def motionTimeout (params : MotionPlanningParams) : Except Failure Double :=
  if params.groupName = [] then .error ⟨.invalidArgument, "group_name must not be empty.".toList⟩
  else if params.timeoutMs.le 0 then .error ⟨.invalidArgument, "timeout_ms must be greater than zero.".toList⟩
  else .ok params.timeoutMs

/-- `MotionPlanningSkill::Execute`. -/
def executeMotion (params : MotionPlanningParams) (exchange : MotionExchange) :
    Option (Except Failure MotionPlanningResult) :=
  match motionTimeout params with
  | .error failure => some (.error failure)
  | .ok timeoutMs => (callGetMotionPlan exchange timeoutMs).map fun answer =>
      answer.map fun response => ⟨response.planningTime, decide (response.errorCode = .success)⟩

/-- The parameters are rejected, or the timeout is from 1 ms up and below `2 ^ 31` ms. -/
def MotionPlanningParams.TimeoutInRange (params : MotionPlanningParams) : Prop :=
  params.groupName = [] ∨ params.timeoutMs.le 0 ∨ ∃ t, params.timeoutMs = .finite t ∧ 1 ≤ t ∧ t < 2 ^ 31

theorem motionTimeout_eq_ok {params : MotionPlanningParams} {timeoutMs : Double} :
    motionTimeout params = .ok timeoutMs ↔
      params.groupName ≠ [] ∧ ¬params.timeoutMs.le 0 ∧ params.timeoutMs = timeoutMs := by
  unfold motionTimeout
  split_ifs with hgroup hle
  · exact iff_of_false id fun h => h.1 hgroup
  · exact iff_of_false id fun h => h.2.1 hle
  · rw [Except.ok.injEq]
    exact ⟨fun h => ⟨hgroup, hle, h⟩, fun h => h.2.2⟩

theorem converted_motionTimeout_iff (params : MotionPlanningParams) :
    (∀ timeoutMs, motionTimeout params = .ok timeoutMs → Converted (timeoutMs.castInt 32)) ↔
      params.TimeoutInRange := by
  have hcast : Converted (params.timeoutMs.castInt 32) ↔ ∃ t, params.timeoutMs = .finite t ∧ 1 ≤ t ∧ t < 2 ^ 31 :=
    Double.castInt_pos_iff
  rw [MotionPlanningParams.TimeoutInRange, ← hcast]
  constructor
  · intro h
    by_contra! hnot
    obtain ⟨hgroup, hle, hcast⟩ := hnot
    exact hcast (h _ (motionTimeout_eq_ok.mpr ⟨hgroup, hle, rfl⟩))
  · intro h timeoutMs hok
    obtain ⟨hgroup, hle, rfl⟩ := motionTimeout_eq_ok.mp hok
    exact (h.resolve_left hgroup).resolve_left hle

theorem executeMotion_isSome {params : MotionPlanningParams} (h : params.TimeoutInRange) (exchange : MotionExchange) :
    (executeMotion params exchange).isSome := by
  unfold executeMotion
  cases hchecks : motionTimeout params with
  | error failure => rfl
  | ok timeoutMs =>
    obtain ⟨ms, hms, -⟩ := (converted_motionTimeout_iff params).mpr h timeoutMs hchecks
    simp only [callGetMotionPlan, Option.isSome_map, hms]
    rfl

/-! ### The node -/

/-- The parameters that the node takes timeouts from, if it has them and they are set. -/
structure TimeoutParameters where
  rosServiceCallTimeoutSec : Option ParameterValue
  addCollisionRetryIntervalSec : Option ParameterValue
  deriving DecidableEq, Repr

section Node
variable (fp : Rounding)

/-- `get_double_parameter`. -/
def getDoubleParameter (defaultValue : Double) (parameter : Option ParameterValue) : Double :=
  parameter.elim defaultValue fun value => value.secondsOr fp defaultValue

/-- `milliseconds(static_cast<int64_t>(sec * 1000.0))`. -/
def milliseconds (sec : Double) : Option ℤ := (fp.mul sec (.finite 1000)).castInt 64

namespace TimeoutParameters

variable (params : TimeoutParameters)

/-- `ros_service_call_timeout_sec` of `orchestrate_scene_synchronization`. -/
def serviceCallTimeoutSec : Double := getDoubleParameter fp (.finite 5) params.rosServiceCallTimeoutSec

/-- `retry_interval_sec`. -/
def retryIntervalSec : Double := getDoubleParameter fp (.finite 2) params.addCollisionRetryIntervalSec

/-- `timeout_sec` of an accepted goal; `get_parameter` throws for a value of another type. -/
def acceptedTimeoutSec : Option Double :=
  match params.rosServiceCallTimeoutSec with
  | none => some (.finite 5)
  | some (.double value) => some value
  | some _ => none

end TimeoutParameters

/-- The seconds are from 1 ms up and below `2 ^ 63` ms. -/
def SecondsInRange (sec : Double) : Prop := ∃ s, sec = .finite s ∧ 1 ≤ s * 1000 ∧ s * 1000 < 2 ^ 63

variable {fp} (hfp : fp.KeepsBinary64)
include hfp

/-- No double below a millisecond is within a rounding of it, and none below the upper end
of the range of that end. -/
theorem round_milliseconds_iff {sec : ℚ} (hformat : IsBinary64 sec) :
    (∃ ms, fp.round (sec * 1000) = .finite ms ∧ 1 ≤ ms ∧ ms < 2 ^ 63) ↔
      1 ≤ sec * 1000 ∧ sec * 1000 < 2 ^ 63 := by
  have hone : IsBinary64 (1 : ℤ) := IsBinary64.intCast (by norm_num)
  constructor
  · rintro ⟨ms, hms, hlo, hhi⟩
    constructor
    · by_contra! hlt
      -- the last double below 1/1000, in milliseconds, is below the last one below 1
      have hbelow : IsBinary64 (1 - 1 / 2 ^ 53) :=
        ⟨2 ^ 53 - 1, -53, by norm_num, by norm_num, by norm_num, by norm_num⟩
      have hsec : sec ≤ (4611686018427387 : ℤ) * (2 : ℚ) ^ (-62 : ℤ) := by
        by_contra! hgt
        have hnext := hformat.succ_le (by norm_num) hgt
        norm_num at hnext
        linarith
      have hround := hfp.round_le hbelow (q := sec * 1000) (by norm_num at hsec ⊢; linarith)
      rw [hms, Double.finite_le_finite] at hround
      norm_num at hround
      linarith
    · by_contra! hge
      have hend : IsBinary64 (2 ^ 63) := ⟨2 ^ 52, 11, by norm_num, by norm_num, by norm_num, by norm_num⟩
      have hround := hfp.le_round hend hge
      rw [hms, Double.finite_le_finite] at hround
      linarith
  · rintro ⟨hlo, hhi⟩
    have hlast : IsBinary64 (2 ^ 63 - 2 ^ 10) :=
      ⟨2 ^ 53 - 1, 10, by norm_num, by norm_num, by norm_num, by norm_num⟩
    have hsec : sec ≤ (4611686018427387 : ℤ) * (2 : ℚ) ^ (1 : ℤ) := by
      by_contra! hgt
      have hnext := hformat.succ_le (by norm_num) hgt
      norm_num at hnext
      linarith
    obtain ⟨ms, hms, hge, hle⟩ := hfp.round_mem hone hlast (q := sec * 1000) (by exact_mod_cast hlo)
      (by norm_num at hsec ⊢; linarith)
    exact ⟨ms, hms, by exact_mod_cast hge, by norm_num at hle ⊢; linarith⟩

theorem converted_milliseconds_iff {sec : Double} (hformat : sec.IsBinary64) :
    Converted (milliseconds fp sec) ↔ SecondsInRange sec := by
  have hcast : Converted (milliseconds fp sec) ↔
      ∃ ms, fp.mul sec (.finite 1000) = .finite ms ∧ 1 ≤ ms ∧ ms < 2 ^ 63 := Double.castInt_pos_iff
  rw [hcast]
  cases sec with
  | finite s =>
    have hmul : fp.mul (.finite s) (.finite 1000) = fp.round (s * 1000) := rfl
    rw [hmul, round_milliseconds_iff hfp hformat, SecondsInRange]
    simp
  | _ => simp [Rounding.mul, SecondsInRange]

omit hfp in
variable (fp) in
/-- Every conversion of a timeout that the three entry points come to. The callback of a
goal reads the parameter when the goal is accepted, which is after the synchronization. -/
structure ConvertsTimeouts (timeoutMs : Double) (motion : MotionPlanningParams)
    (node accepted : TimeoutParameters) : Prop where
  graspClient : Converted (graspTimeoutMs timeoutMs)
  motionClient : ∀ timeoutMs, motionTimeout motion = .ok timeoutMs → Converted (timeoutMs.castInt 32)
  serviceCall : Converted (milliseconds fp (node.serviceCallTimeoutSec fp))
  retryInterval : Converted (milliseconds fp (node.retryIntervalSec fp))
  acceptedGoal : ∀ sec, accepted.acceptedTimeoutSec = some sec → Converted (milliseconds fp sec)

/-- They are in range and give at least 1 ms exactly when the motion skill rejects its
parameters or has from 1 ms up to the range of `int`, and the node's seconds, each when it
is read, are from 1 ms up to the range of 64 bits. The grasp skill's timeout may be any. -/
theorem converts_timeouts_iff (timeoutMs : Double) (motion : MotionPlanningParams) {node accepted : TimeoutParameters}
    (hservice : (node.serviceCallTimeoutSec fp).IsBinary64) (hretry : (node.retryIntervalSec fp).IsBinary64)
    (haccepted : ∀ sec, accepted.acceptedTimeoutSec = some sec → sec.IsBinary64) :
    ConvertsTimeouts fp timeoutMs motion node accepted ↔
      motion.TimeoutInRange ∧ SecondsInRange (node.serviceCallTimeoutSec fp) ∧
        SecondsInRange (node.retryIntervalSec fp) ∧
        ∀ sec, accepted.acceptedTimeoutSec = some sec → SecondsInRange sec := by
  have hgoal : (∀ sec, accepted.acceptedTimeoutSec = some sec → Converted (milliseconds fp sec)) ↔
      ∀ sec, accepted.acceptedTimeoutSec = some sec → SecondsInRange sec :=
    forall₂_congr fun sec hsec => converted_milliseconds_iff hfp (haccepted sec hsec)
  rw [← converted_motionTimeout_iff, ← converted_milliseconds_iff hfp hservice,
    ← converted_milliseconds_iff hfp hretry, ← hgoal]
  constructor
  · exact fun h => ⟨h.motionClient, h.serviceCall, h.retryInterval, h.acceptedGoal⟩
  · rintro ⟨hmotion, hcall, hinterval, haccept⟩
    exact ⟨converted_graspTimeoutMs timeoutMs, hmotion, hcall, hinterval, haccept⟩

end Node

namespace Sample

def motionParams (timeoutMs : Double) : MotionPlanningParams := ⟨"manipulator".toList, timeoutMs⟩

/-- The parameters as `main` declares them. -/
def declaredTimeouts : TimeoutParameters := ⟨some (.double (.finite 5)), some (.double (.finite 2))⟩

/-- Somebody has set the service call timeout since. -/
def laterTimeouts : TimeoutParameters := ⟨some (.double (.finite 10)), some (.double (.finite 2))⟩

end Sample

/-- Half a millisecond passes the check of the motion skill and is converted to 0. -/
theorem half_millisecond_to_zero :
    motionTimeout (Sample.motionParams (.finite (1 / 2))) = .ok (.finite (1 / 2)) ∧
      (Double.finite (1 / 2)).castInt 32 = some 0 ∧
      ¬ConvertsTimeouts .exact (.finite 5000) (Sample.motionParams (.finite (1 / 2))) Sample.declaredTimeouts
        Sample.laterTimeouts := by
  have hcast : (Double.finite (1 / 2)).castInt 32 = some 0 := by decide +kernel
  have hchecks : motionTimeout (Sample.motionParams (.finite (1 / 2))) = .ok (.finite (1 / 2)) := by decide +kernel
  refine ⟨hchecks, hcast, fun h => ?_⟩
  obtain ⟨ms, hms, hone⟩ := h.motionClient _ hchecks
  rw [hcast] at hms
  obtain rfl := Option.some.inj hms
  omega

theorem converts_timeouts_five_seconds : ConvertsTimeouts .exact (.finite 5000) (Sample.motionParams (.finite 5000))
    Sample.declaredTimeouts Sample.laterTimeouts := by
  have hfive : IsBinary64 (5 : ℤ) := IsBinary64.intCast (by norm_num)
  have htwo : IsBinary64 (2 : ℤ) := IsBinary64.intCast (by norm_num)
  have hten : IsBinary64 (10 : ℤ) := IsBinary64.intCast (by norm_num)
  refine (converts_timeouts_iff Rounding.exact_keepsBinary64 _ _ (by exact_mod_cast hfive) (by exact_mod_cast htwo)
    fun sec hsec => ?_).mpr ⟨.inr (.inr ⟨5000, rfl, ?_⟩), ⟨5, rfl, ?_⟩, ⟨2, rfl, ?_⟩, fun sec hsec => ?_⟩
  · obtain rfl := Option.some.inj hsec
    exact_mod_cast hten
  · norm_num
  · norm_num
  · norm_num
  · obtain rfl := Option.some.inj hsec
    exact ⟨10, rfl, by norm_num⟩

end MoveitPlanning.Service
