import MoveitPlanning.Service.JointHealth
import MoveitPlanning.Service.NodeConfiguration
import MoveitPlanning.Service.Readiness

/-! The configuration of the status monitor, which is a process of its own. It takes three
values of the runtime configuration as overrides of its parameters, where the planning node
sets them after it has declared its own. The launch file gives both processes the same
overrides of these three, and then what the monitor checks of the planning scene is what the
node verifies (`monitor_agrees`). -/

namespace MoveitPlanning.Service

open Foundation Scene

/-- The parameters that the constructor of `MoveItStatusClient` declares. -/
def monitorDeclarations : List (Declaration Name NodeParameter) :=
  [⟨"planning_frame".toList, .string "world".toList, false⟩,
    ⟨"robot_base_frame".toList, .string "base_link".toList, false⟩,
    ⟨"tool_frame".toList, .string "hande_tcp".toList, false⟩,
    ⟨"expect_collision_objects".toList, .bool true, false⟩,
    ⟨"use_mock_hardware".toList, .bool false, false⟩,
    ⟨"expected_joints".toList,
      .stringArray ["shoulder_pan_joint".toList, "shoulder_lift_joint".toList, "elbow_joint".toList,
        "wrist_1_joint".toList, "wrist_2_joint".toList, "wrist_3_joint".toList], false⟩,
    ⟨"ros_service_call_timeout_sec".toList, .double (.finite 2), true⟩,
    ⟨"joint_state_timeout_sec".toList, .double (.finite 3), true⟩]

/-- The overrides that `main` of the monitor makes of the runtime configuration. -/
def MoveItPlanningServiceConfig.monitorParams (config : MoveItPlanningServiceConfig) :
    List (Name × Option NodeParameter) :=
  [("ros_service_call_timeout_sec".toList, config.rosServiceCallTimeoutSec.map .double),
    ("expect_collision_objects".toList, config.expectCollisionObjects.map .bool),
    ("use_mock_hardware".toList, config.useMockHardware.map .bool)]

def MoveItPlanningServiceConfig.monitorParam (config : MoveItPlanningServiceConfig) (name : Name) :
    Option NodeParameter :=
  (config.monitorParams.lookup name).join

/-- The overrides of the node's options go before those of the launch file. -/
def monitorOverrides (launch : Name → Option NodeParameter) (config : MoveItPlanningServiceConfig) (name : Name) :
    Option NodeParameter :=
  (config.monitorParam name).or (launch name)

/-- What `check_health` reads, `none` when it throws. -/
def NodeParameters.status (store : NodeParameters) : Option StatusParameters := do
  let expectCollisionObjects ← store.read .bool "expect_collision_objects".toList
  let useMockHardware ← store.read .bool "use_mock_hardware".toList
  let planningFrame ← store.read .string "planning_frame".toList
  let robotBaseFrame ← store.read .string "robot_base_frame".toList
  let toolFrame ← store.read .string "tool_frame".toList
  let expectedJoints ← store.read .stringArray "expected_joints".toList
  some
    { planningFrame, robotBaseFrame, toolFrame, expectCollisionObjects, useMockHardware, expectedJoints
      rosServiceCallTimeoutSec :=
        ((store.lookup "ros_service_call_timeout_sec".toList).map fun p => p.value.toValue).getD .other
      jointStateTimeoutSec :=
        ((store.lookup "joint_state_timeout_sec".toList).map fun p => p.value.toValue).getD .other }

/-- The parameters of a monitor that has started; there may be no runtime configuration. -/
def startMonitor (launch : Name → Option NodeParameter) (config : Option MoveItPlanningServiceConfig) :
    Option StatusParameters := do
  let declared : NodeParameters ←
    declareAll (monitorOverrides launch (config.getD .empty)) ∅ monitorDeclarations
  NodeParameters.status declared

/-! ### What the monitor starts with -/

/-- What the launch file must give for the monitor to start, where the runtime configuration
has nothing. -/
def MonitorTyped (launch : Name → Option NodeParameter) (config : MoveItPlanningServiceConfig) : Prop :=
  ∀ d ∈ monitorDeclarations, d.dynamicTyping = false → config.monitorParam d.name = none →
    ∀ v ∈ launch d.name, v.kind = d.default.kind

/-- The parameters by their layers. -/
def monitorLayers (launch : Name → Option NodeParameter) (config : MoveItPlanningServiceConfig) : StatusParameters where
  planningFrame := layer launch .string "planning_frame".toList none "world".toList
  robotBaseFrame := layer launch .string "robot_base_frame".toList none "base_link".toList
  toolFrame := layer launch .string "tool_frame".toList none "hande_tcp".toList
  expectCollisionObjects :=
    layer launch .bool "expect_collision_objects".toList config.expectCollisionObjects true
  useMockHardware := layer launch .bool "use_mock_hardware".toList config.useMockHardware false
  expectedJoints := layer launch .stringArray "expected_joints".toList none
    ["shoulder_pan_joint".toList, "shoulder_lift_joint".toList, "elbow_joint".toList,
      "wrist_1_joint".toList, "wrist_2_joint".toList, "wrist_3_joint".toList]
  rosServiceCallTimeoutSec := (((config.rosServiceCallTimeoutSec.map .double).or
    (launch "ros_service_call_timeout_sec".toList)).getD (.double (.finite 2))).toValue
  jointStateTimeoutSec := ((launch "joint_state_timeout_sec".toList).getD (.double (.finite 3))).toValue

theorem monitorDeclarations_nodup : (monitorDeclarations.map Declaration.name).Nodup := by decide +kernel

section Monitor
variable {launch : Name → Option NodeParameter} {config : MoveItPlanningServiceConfig} {name : Name}

/-- The runtime configuration has only values of the declared types. -/
theorem kind_of_monitorParam {d : Declaration Name NodeParameter} (hd : d ∈ monitorDeclarations) {v : NodeParameter}
    (hv : config.monitorParam d.name = some v) : d.Accepts NodeParameter.kind v := by
  simp only [monitorDeclarations, List.mem_cons, List.not_mem_nil, or_false] at hd
  rcases hd with rfl | rfl | rfl | rfl | rfl | rfl | rfl | rfl
  · cases hv
  · cases hv
  · cases hv
  · obtain ⟨value, -, rfl⟩ := Option.map_eq_some_iff.mp
      (show config.expectCollisionObjects.map .bool = some v from hv)
    exact .inr rfl
  · obtain ⟨value, -, rfl⟩ := Option.map_eq_some_iff.mp (show config.useMockHardware.map .bool = some v from hv)
    exact .inr rfl
  · cases hv
  · exact .inl rfl
  · exact .inl rfl

theorem monitorTyped_iff : MonitorTyped launch config ↔
    ∀ d ∈ monitorDeclarations, d.Accepts NodeParameter.kind (d.initial (monitorOverrides launch config)) := by
  refine forall₂_congr fun d hd => ?_
  rw [Declaration.initial, monitorOverrides]
  cases hparam : config.monitorParam d.name with
  | some v =>
    have haccepts : d.Accepts NodeParameter.kind v := kind_of_monitorParam hd hparam
    simp [haccepts]
  | none =>
    rw [Declaration.Accepts]
    cases hlaunch : launch d.name with
    | none => simp
    | some v => cases htyping : d.dynamicTyping <;> simp

variable {declared : NodeParameters}
  (hdeclared : declareAll (monitorOverrides launch config) ∅ monitorDeclarations = some declared)
include hdeclared

theorem value_of_monitor {d : Declaration Name NodeParameter} (hd : d ∈ monitorDeclarations) :
    (declared.lookup d.name).map Parameter.value =
      some (((config.monitorParam d.name).or (launch d.name)).getD d.default) := by
  obtain ⟨haccepts, hlookup⟩ := lookup_declareAll monitorDeclarations_nodup hdeclared hd
  rw [hlookup]
  rfl

theorem read_of_monitor (htyped : MonitorTyped launch config) {α : Type} (acc : Accessor α) (setting : Option α)
    {default : α} (hd : ⟨name, acc.make default, false⟩ ∈ monitorDeclarations)
    (hparam : config.monitorParam name = setting.map acc.make) :
    declared.read acc name = some (layer launch acc name setting default) := by
  have hvalue := value_of_monitor hdeclared hd
  rw [hparam] at hvalue
  refine read_of_value (fun hnone v hv => ?_) hvalue
  rw [hnone] at hparam
  exact (htyped _ hd rfl hparam v hv).trans (acc.kind_make default)

theorem status_of_monitor (htyped : MonitorTyped launch config) :
    NodeParameters.status declared = some (monitorLayers launch config) := by
  have hexpect := read_of_monitor hdeclared htyped .bool config.expectCollisionObjects
    (List.mem_of_getElem? (i := 3) rfl) rfl
  have hmock := read_of_monitor hdeclared htyped .bool config.useMockHardware
    (List.mem_of_getElem? (i := 4) rfl) rfl
  have hplanning := read_of_monitor hdeclared htyped .string none
    (List.mem_of_getElem? (i := 0) rfl) rfl
  have hbase := read_of_monitor hdeclared htyped .string none (List.mem_of_getElem? (i := 1) rfl) rfl
  have htool := read_of_monitor hdeclared htyped .string none (List.mem_of_getElem? (i := 2) rfl) rfl
  have hjoints := read_of_monitor hdeclared htyped .stringArray none
    (List.mem_of_getElem? (i := 5) rfl) rfl
  have hservice := value_of_monitor hdeclared (List.mem_of_getElem? (i := 6) rfl)
  have hstates := value_of_monitor hdeclared (List.mem_of_getElem? (i := 7) rfl)
  refine Option.bind_eq_some_iff.mpr ⟨_, hexpect, Option.bind_eq_some_iff.mpr ⟨_, hmock, ?_⟩⟩
  refine Option.bind_eq_some_iff.mpr ⟨_, hplanning, Option.bind_eq_some_iff.mpr ⟨_, hbase, ?_⟩⟩
  refine Option.bind_eq_some_iff.mpr ⟨_, htool, Option.bind_eq_some_iff.mpr ⟨_, hjoints, congrArg some ?_⟩⟩
  rw [map_toValue, map_toValue, hservice, hstates]
  rfl

end Monitor

theorem startMonitor_eq_some {launch : Name → Option NodeParameter} {config : Option MoveItPlanningServiceConfig}
    {params : StatusParameters} : startMonitor launch config = some params ↔
      MonitorTyped launch (config.getD .empty) ∧ params = monitorLayers launch (config.getD .empty) := by
  have hstart : (declareAll (monitorOverrides launch (config.getD .empty)) ∅ monitorDeclarations :
      Option NodeParameters).isSome ↔ MonitorTyped launch (config.getD .empty) := by
    rw [monitorTyped_iff]
    exact declareAll_isSome_iff monitorDeclarations_nodup fun d _ => Finmap.notMem_empty
  unfold startMonitor
  cases hdeclared : (declareAll (monitorOverrides launch (config.getD .empty)) ∅ monitorDeclarations :
      Option NodeParameters) with
  | none =>
    rw [hdeclared] at hstart
    have hnot : ¬MonitorTyped launch (config.getD .empty) := fun htyped => by cases hstart.mpr htyped
    simp [hnot]
  | some declared =>
    rw [hdeclared] at hstart
    have htyped : MonitorTyped launch (config.getD .empty) := hstart.mp rfl
    simp [status_of_monitor hdeclared htyped, htyped, eq_comm]

/-! ### Node and monitor -/

/-- What the synchronizing thread of the node goes by. -/
def NodeSettings.nodeConfig (settings : NodeSettings) (worldConnected : Bool) : NodeConfig :=
  ⟨settings.useMockHardware, settings.expectCollisionObjects, worldConnected⟩

/-- The parameters that the launch file gives to both processes. -/
def sharedNames : List Name :=
  ["ros_service_call_timeout_sec".toList, "expect_collision_objects".toList, "use_mock_hardware".toList]

/-- The overrides of both as the launch file makes them. -/
structure SharedLaunch (nodeLaunch monitorLaunch : Name → Option NodeParameter) : Prop where
  same : ∀ name ∈ sharedNames, monitorLaunch name = nodeLaunch name
  others : ∀ d ∈ monitorDeclarations, d.name ∉ sharedNames → monitorLaunch d.name = none

/-- A layer gives a number of seconds. -/
def GivesSeconds (setting : Option Double) (override : Option NodeParameter) : Prop :=
  setting.isSome ∨ ∃ v ∈ override, v.kind = .double ∨ v.kind = .integer

theorem seconds_agree (fp : Rounding) (setting : Option Double) (override : Option NodeParameter)
    (default other : Double) :
    (GivesSeconds setting override →
      (((setting.map .double).or override).getD (.double default)).toValue.secondsOr fp default =
        setting.getD (getDoubleParameter fp other (override.map NodeParameter.toValue))) ∧
    (¬GivesSeconds setting override →
      (((setting.map .double).or override).getD (.double default)).toValue.secondsOr fp default = default ∧
        setting.getD (getDoubleParameter fp other (override.map NodeParameter.toValue)) = other) := by
  cases setting with
  | some sec => exact ⟨fun _ => rfl, fun hnot => absurd (.inl rfl) hnot⟩
  | none =>
    rcases override with _ | v
    · refine ⟨fun h => ?_, fun _ => ⟨rfl, rfl⟩⟩
      rcases h with h | ⟨v, hv, -⟩
      · cases h
      · cases hv
    · cases v with
      | double sec => exact ⟨fun _ => rfl, fun hnot => absurd (.inr ⟨_, rfl, .inl rfl⟩) hnot⟩
      | integer sec => exact ⟨fun _ => rfl, fun hnot => absurd (.inr ⟨_, rfl, .inr rfl⟩) hnot⟩
      | _ =>
        refine ⟨fun h => ?_, fun _ => ⟨rfl, rfl⟩⟩
        rcases h with h | ⟨v, hv, hkind⟩
        · cases h
        · cases hv
          rcases hkind with hkind | hkind <;> cases hkind

section Health
variable {fp : Rounding} {tenths : Double → Name} {params : StatusParameters} {client : MoveItStatusClient}
  {env : HealthEnv} {scene : PlanningSceneResponse}

/-- The time that the monitor waits for `move_group`. -/
def StatusParameters.sceneTimeout (fp : Rounding) (params : StatusParameters) : Double :=
  fp.mul (params.rosServiceCallTimeoutSec.secondsOr fp (.finite 2)) (.finite 1000)

theorem queryScene_of_response (hscene : env.sceneResponse (params.sceneTimeout fp) = some (.ok scene))
    (havailable : env.getSceneAvailable (params.sceneTimeout fp) = true) :
    queryScene fp params env = .ok scene := by
  unfold StatusParameters.sceneTimeout at hscene havailable
  simp only [queryScene, havailable, hscene]
  rfl

theorem afterEndpoints_eq_ok_iff : (if params.useMockHardware then checkTransforms params env else
      checkJointStates fp tenths params client env >>= fun _ => checkRobotState scene >>= fun _ =>
        checkTransforms params env) = .ok () ↔
      (params.useMockHardware = true ∨ scene.robotStateJointNames ≠ []) ∧
      (params.useMockHardware = true ∨ checkJointStates fp tenths params client env = .ok ()) ∧
      checkTransforms params env = .ok () := by
  cases hmock : params.useMockHardware with
  | true => simp
  | false =>
    cases hjoints : checkJointStates fp tenths params client env with
    | error report => simp [bind, Except.bind]
    | ok _ =>
      have hrest : ((Except.ok () : Except SubsystemHealthReport Unit) >>= fun _ =>
          checkRobotState scene >>= fun _ => checkTransforms params env) =
          (checkRobotState scene >>= fun _ => checkTransforms params env) := rfl
      rw [if_neg Bool.false_ne_true, hrest, checkRobotState, reportIf_bind_eq_ok_iff]
      simp [List.isEmpty_eq_false_iff]

theorem healthChecks_eq_ok_iff (hscene : env.sceneResponse (params.sceneTimeout fp) = some (.ok scene)) :
    healthChecks fp tenths params client env = .ok () ↔
      env.getSceneAvailable (params.sceneTimeout fp) = true ∧
      (env.motionPlanReady = true ∧ env.graspPlanReady = true) ∧
      (params.useMockHardware = true ∨
        (params.expectCollisionObjects = true → scene.collisionObjects ≠ []) ∧ scene.robotStateJointNames ≠ []) ∧
      (params.useMockHardware = true ∨ checkJointStates fp tenths params client env = .ok ()) ∧
      checkTransforms params env = .ok () := by
  by_cases havailable : env.getSceneAvailable (params.sceneTimeout fp) = true
  · have hquery : queryScene fp params env = pure scene := queryScene_of_response hscene havailable
    rw [healthChecks, checkPlanning, hquery]
    simp only [bind_assoc, pure_bind, reportIf_bind_eq_ok_iff]
    rw [afterEndpoints_eq_ok_iff]
    cases params.useMockHardware with
    | true => simp [havailable]
    | false =>
      simp [havailable]
      tauto
  · have hquery : ∃ report, queryScene fp params env = .error report := by
      unfold StatusParameters.sceneTimeout at havailable
      simp only [queryScene, havailable]
      exact ⟨_, rfl⟩
    obtain ⟨report, hquery⟩ := hquery
    have hfails : healthChecks fp tenths params client env = .error report := by
      rw [healthChecks, checkPlanning, hquery]
      rfl
    simp [hfails, havailable]

end Health

section Agreement
variable {nodeLaunch monitorLaunch : Name → Option NodeParameter} (h : SharedLaunch nodeLaunch monitorLaunch)
  {config : MoveItPlanningServiceConfig}
include h

theorem SharedLaunch.monitorTyped (hstatic : StaticallyTyped nodeLaunch) : MonitorTyped monitorLaunch config := by
  have hkinds : ∀ d ∈ monitorDeclarations, d.dynamicTyping = false → d.name ∈ sharedNames →
      ∃ e ∈ declarations, e.name = d.name ∧ e.dynamicTyping = false ∧ e.default.kind = d.default.kind := by
    decide +kernel
  intro d hd hfixed _ v hv
  by_cases hshared : d.name ∈ sharedNames
  · obtain ⟨e, he, hname, hfixed', hkind⟩ := hkinds d hd hfixed hshared
    rw [h.same d.name hshared, ← hname] at hv
    exact (hstatic e he hfixed' v hv).trans hkind
  · rw [h.others d hd hshared] at hv
    cases hv

theorem SharedLaunch.layer_eq {α : Type} (acc : Accessor α) {name : Name} (hshared : name ∈ sharedNames)
    (setting : Option α) (default : α) :
    layer monitorLaunch acc name setting default = layer nodeLaunch acc name setting default := by
  rw [layer, layer, h.same name hshared]

end Agreement

/-- When the launch file gives both processes the same values, the monitor starts if the node
does, they differ in the service call timeout only where no layer gives one, and the checks
of the monitor pass for a scene exactly when the services are there, joint states and
transforms pass, and the scene is one that the node verifies. -/
theorem monitor_agrees (fp : Rounding) (tenths : Double → Name) {nodeLaunch monitorLaunch : Name → Option NodeParameter}
    (hlaunch : SharedLaunch nodeLaunch monitorLaunch) (config : Option MoveItPlanningServiceConfig)
    {node : PlanningNode} (hnode : startNode fp nodeLaunch config = some node) (worldConnected : Bool) :
    ∃ params, startMonitor monitorLaunch config = some params ∧
      ((GivesSeconds (config.getD .empty).rosServiceCallTimeoutSec (nodeLaunch "ros_service_call_timeout_sec".toList) →
        params.rosServiceCallTimeoutSec.secondsOr fp (.finite 2) = node.settings.serviceCallTimeoutSec) ∧
      (¬GivesSeconds (config.getD .empty).rosServiceCallTimeoutSec (nodeLaunch "ros_service_call_timeout_sec".toList) →
        params.rosServiceCallTimeoutSec.secondsOr fp (.finite 2) = .finite 2 ∧
          node.settings.serviceCallTimeoutSec = .finite 5)) ∧
      ∀ client env scene, env.sceneResponse (params.sceneTimeout fp) = some (.ok scene) →
        (healthChecks fp tenths params client env = .ok () ↔
          env.getSceneAvailable (params.sceneTimeout fp) = true ∧
          (env.motionPlanReady = true ∧ env.graspPlanReady = true) ∧
          (node.settings.useMockHardware = true ∨
            (node.settings.nodeConfig worldConnected).verifies scene = true) ∧
          (node.settings.useMockHardware = true ∨ checkJointStates fp tenths params client env = .ok ()) ∧
          checkTransforms params env = .ok ()) := by
  obtain ⟨declared, hdeclared, rfl⟩ := startNode_eq_some.mp hnode
  have hstatic : StaticallyTyped nodeLaunch := declareAll_isSome.mp (Option.isSome_iff_exists.mpr ⟨_, hdeclared⟩)
  have hmock : (monitorLayers monitorLaunch (config.getD .empty)).useMockHardware =
      (settingsLayers fp nodeLaunch (config.getD .empty)).useMockHardware :=
    hlaunch.layer_eq .bool (by decide +kernel) _ _
  have hexpect : (monitorLayers monitorLaunch (config.getD .empty)).expectCollisionObjects =
      (settingsLayers fp nodeLaunch (config.getD .empty)).expectCollisionObjects :=
    hlaunch.layer_eq .bool (by decide +kernel) _ _
  refine ⟨_, startMonitor_eq_some.mpr ⟨hlaunch.monitorTyped hstatic, rfl⟩, ?_, fun client env scene hscene => ?_⟩
  · have hsame : monitorLaunch "ros_service_call_timeout_sec".toList =
        nodeLaunch "ros_service_call_timeout_sec".toList := hlaunch.same _ (by decide +kernel)
    have hseconds := seconds_agree fp (config.getD .empty).rosServiceCallTimeoutSec
      (nodeLaunch "ros_service_call_timeout_sec".toList) (.finite 2) (.finite 5)
    have hvalue : (monitorLayers monitorLaunch (config.getD .empty)).rosServiceCallTimeoutSec =
        ((((config.getD .empty).rosServiceCallTimeoutSec.map .double).or
          (nodeLaunch "ros_service_call_timeout_sec".toList)).getD (.double (.finite 2))).toValue := by
      rw [monitorLayers, hsame]
    rw [hvalue]
    exact hseconds
  · rw [healthChecks_eq_ok_iff hscene, hmock, hexpect]
    have hverifies : (settingsLayers fp nodeLaunch (config.getD .empty)).useMockHardware = true ∨
        (NodeSettings.nodeConfig (settingsLayers fp nodeLaunch (config.getD .empty)) worldConnected).verifies scene =
          true ↔
        (settingsLayers fp nodeLaunch (config.getD .empty)).useMockHardware = true ∨
          ((settingsLayers fp nodeLaunch (config.getD .empty)).expectCollisionObjects = true →
            scene.collisionObjects ≠ []) ∧ scene.robotStateJointNames ≠ [] := by
      rw [NodeConfig.verifies, NodeSettings.nodeConfig]
      generalize (settingsLayers fp nodeLaunch (config.getD .empty)).useMockHardware = mock
      generalize (settingsLayers fp nodeLaunch (config.getD .empty)).expectCollisionObjects = expect
      cases mock <;> cases expect <;> simp
    rw [hverifies]

namespace Sample

/-- The launch file has a timeout of 3 s, as an integer, and expects no collision objects;
the node is also given its router. -/
def nodeLaunch (name : Name) : Option NodeParameter :=
  if name = "ros_service_call_timeout_sec".toList then some (.integer 3)
  else if name = "expect_collision_objects".toList then some (.bool false)
  else if name = "zenoh_router_address".toList then some (.string "tcp/router:7447".toList)
  else none

def monitorLaunch (name : Name) : Option NodeParameter := if sharedNames.contains name then nodeLaunch name else none

theorem sharedLaunch : SharedLaunch nodeLaunch monitorLaunch where
  same _ hname := if_pos (List.contains_iff_mem.mpr hname)
  others _ _ hname := if_neg (mt List.contains_iff_mem.mp hname)

/-- A scene without collision objects, where everything else is as it should be. -/
def emptySceneEnv : HealthEnv :=
  { healthEnv 1200000000 with sceneResponse := fun _ => some (.ok ⟨[], ["shoulder_pan_joint".toList]⟩) }

/-- All joints of the arm have just been received. -/
def armClient : MoveItStatusClient :=
  MoveItStatusClient.init.recordJointState 1000000000 StatusParameters.declared.expectedJoints

end Sample

/-- Both wait 3 s, and the monitor is content with a scene without collision objects, which
the node verifies. -/
theorem monitor_agrees_empty_scene : ∃ node params, startNode .exact Sample.nodeLaunch none = some node ∧
    startMonitor Sample.monitorLaunch none = some params ∧
    params.rosServiceCallTimeoutSec.secondsOr .exact (.finite 2) = .finite 3 ∧
    node.settings.serviceCallTimeoutSec = .finite 3 ∧
    (node.settings.nodeConfig true).verifies ⟨[], ["shoulder_pan_joint".toList]⟩ = true ∧
    healthChecks .exact (fun _ => []) params Sample.armClient Sample.emptySceneEnv = .ok () := by
  have hstatic : StaticallyTyped Sample.nodeLaunch := by
    unfold StaticallyTyped
    decide +kernel
  obtain ⟨declared, hdeclared⟩ := Option.isSome_iff_exists.mp (declareAll_isSome.mpr hstatic)
  have hnode : startNode .exact Sample.nodeLaunch none = some _ :=
    startNode_eq_some.mpr ⟨declared, hdeclared, rfl⟩
  obtain ⟨params, hparams, ⟨htimeouts, -⟩, hchecks⟩ :=
    monitor_agrees .exact (fun _ => []) Sample.sharedLaunch none hnode true
  have hsame := htimeouts (.inr ⟨.integer 3, rfl, .inr rfl⟩)
  obtain ⟨-, rfl⟩ := startMonitor_eq_some.mp hparams
  have hseconds : (settingsLayers .exact Sample.nodeLaunch .empty).serviceCallTimeoutSec = .finite 3 := by
    decide +kernel
  have hverifies : ((settingsLayers .exact Sample.nodeLaunch .empty).nodeConfig true).verifies
      ⟨[], ["shoulder_pan_joint".toList]⟩ = true := by decide +kernel
  have hjoints : checkJointStates .exact (fun _ => []) (monitorLayers Sample.monitorLaunch .empty) Sample.armClient
      Sample.emptySceneEnv = .ok () := by
    have hpasses : (checkJointStates .exact (fun _ => []) (monitorLayers Sample.monitorLaunch .empty) Sample.armClient
        Sample.emptySceneEnv).toOption.isSome = true := by decide +kernel
    cases hjoints : checkJointStates .exact (fun _ => []) (monitorLayers Sample.monitorLaunch .empty) Sample.armClient
        Sample.emptySceneEnv with
    | ok _ => rfl
    | error report =>
      rw [hjoints] at hpasses
      cases hpasses
  refine ⟨_, _, hnode, hparams, hsame.trans hseconds, hseconds, hverifies, ?_⟩
  exact (hchecks Sample.armClient Sample.emptySceneEnv _ rfl).mpr
    ⟨rfl, ⟨rfl, rfl⟩, .inr hverifies, .inr hjoints, rfl⟩

end MoveitPlanning.Service
