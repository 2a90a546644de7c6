import MoveitPlanning.Foundation.ParameterStore
import MoveitPlanning.Service.TimeoutCasts

/-! The configuration of the planning node. `main` declares the parameters, sets those that the
runtime configuration has, and reads them once for what it starts. Only the callback of an
accepted goal reads one again, after whatever others have set in the meantime. What `main`
starts is compared with what the layers say: runtime configuration, overrides, defaults. -/

namespace MoveitPlanning.Service

open Foundation Scene

/-! ### Values -/

/-- `rclcpp::ParameterValue`; the kinds that the node never declares are one. -/
inductive NodeParameter
  | bool (value : Bool)
  | integer (value : ℤ)
  | double (value : Double)
  | string (value : Name)
  | stringArray (value : List Name)
  | other
  deriving DecidableEq, Repr

inductive ParameterKind
  | bool | integer | double | string | stringArray | other
  deriving DecidableEq, Repr

namespace NodeParameter

def kind : NodeParameter → ParameterKind
  | bool _ => .bool
  | integer _ => .integer
  | double _ => .double
  | string _ => .string
  | stringArray _ => .stringArray
  | other => .other

/-- What the node makes of it as a number. -/
def toValue : NodeParameter → ParameterValue
  | double value => .double value
  | integer value => .integer value
  | _ => .other

end NodeParameter

/-- One of the reading functions `as_bool`, `as_string`, `as_string_array`, which throw for a
value of another kind. -/
structure Accessor (α : Type) where
  make : α → NodeParameter
  as : NodeParameter → Option α
  kind : ParameterKind
  as_make : ∀ a, as (make a) = some a
  kind_make : ∀ a, (make a).kind = kind
  exists_make : ∀ v : NodeParameter, v.kind = kind → ∃ a, v = make a

namespace Accessor

def bool : Accessor Bool where
  make := .bool
  as
    | .bool value => some value
    | _ => none
  kind := .bool
  as_make _ := rfl
  kind_make _ := rfl
  exists_make v h := by
    cases v with
    | bool value => exact ⟨value, rfl⟩
    | _ => cases h

def string : Accessor Name where
  make := .string
  as
    | .string value => some value
    | _ => none
  kind := .string
  as_make _ := rfl
  kind_make _ := rfl
  exists_make v h := by
    cases v with
    | string value => exact ⟨value, rfl⟩
    | _ => cases h

def stringArray : Accessor (List Name) where
  make := .stringArray
  as
    | .stringArray value => some value
    | _ => none
  kind := .stringArray
  as_make _ := rfl
  kind_make _ := rfl
  exists_make v h := by
    cases v with
    | stringArray value => exact ⟨value, rfl⟩
    | _ => cases h

end Accessor

/-! ### `main` -/

abbrev NodeParameters := ParameterStore Name NodeParameter.kind

/-- The parameters that `main` declares. -/
def declarations : List (Declaration Name NodeParameter) :=
  [⟨"intrinsic_core_ingress_address".toList, .string "localhost:17080".toList, false⟩,
    ⟨"zenoh_router_address".toList, .string "tcp/localhost:7447".toList, false⟩,
    ⟨"ros_service_call_timeout_sec".toList, .double (.finite 5), true⟩,
    ⟨"add_collision_retry_interval_sec".toList, .double (.finite 2), true⟩,
    ⟨"expect_collision_objects".toList, .bool true, false⟩,
    ⟨"use_mock_hardware".toList, .bool false, false⟩,
    ⟨"publish_world_root_tf".toList, .bool true, false⟩,
    ⟨"publish_robot_base_tf".toList, .bool true, false⟩,
    ⟨"world_tf_prefix".toList, .string "world".toList, false⟩,
    ⟨"robot_base_frame_id".toList, .string "ur_module/base_link".toList, false⟩,
    ⟨"tf_prefix".toList, .string [], false⟩,
    ⟨"strip_tf_prefixes".toList, .stringArray [[]], false⟩,
    ⟨"excluded_collision_namespaces".toList,
      .stringArray ["ur_module".toList, "gripper".toList, "camera_mount".toList, "orbbec_camera".toList,
        "ecat_ft_hal_module_with_adapters_with_sim".toList], false⟩,
    ⟨"override_joint_names".toList,
      .stringArray ["shoulder_pan_joint".toList, "shoulder_lift_joint".toList, "elbow_joint".toList,
        "wrist_1_joint".toList, "wrist_2_joint".toList, "wrist_3_joint".toList], false⟩,
    ⟨"collision_objects_update_rate_hz".toList, .double (.finite 10), true⟩,
    ⟨"collision_objects_min_position_delta".toList, .double (.finite (1 / 1000)), true⟩,
    ⟨"collision_objects_min_rotation_delta".toList, .double (.finite (1 / 100)), true⟩,
    ⟨"world_sync_interval_sec".toList, .double (.finite 2), true⟩]

structure MoveItPlanningServiceConfig where
  intrinsicCoreIngressAddress : Name
  zenohRouterAddress : Name
  worldTfPrefix : Option Name
  stripTfPrefix : List Name
  excludedCollisionNamespaces : List Name
  robotBaseFrameId : Name
  publishWorldRootTf : Option Bool
  publishRobotBaseTf : Option Bool
  collisionObjectsUpdateRateHz : Option Double
  collisionObjectsMinPositionDelta : Option Double
  collisionObjectsMinRotationDelta : Option Double
  rosServiceCallTimeoutSec : Option Double
  addCollisionRetryIntervalSec : Option Double
  expectCollisionObjects : Option Bool
  useMockHardware : Option Bool
  worldSyncIntervalSec : Option Double

/-- A string or a repeated field that has something in it. -/
def nonEmpty {α : Type} : List α → Option (List α)
  | [] => none
  | x :: xs => some (x :: xs)

namespace MoveItPlanningServiceConfig

def empty : MoveItPlanningServiceConfig :=
  ⟨[], [], none, [], [], [], none, none, none, none, none, none, none, none, none, none⟩

/-- The parameters that `main` sets, with no value for those that it leaves as they are. -/
def settings (config : MoveItPlanningServiceConfig) : List (Name × Option NodeParameter) :=
  [("intrinsic_core_ingress_address".toList, (nonEmpty config.intrinsicCoreIngressAddress).map .string),
    ("zenoh_router_address".toList, (nonEmpty config.zenohRouterAddress).map .string),
    ("ros_service_call_timeout_sec".toList, config.rosServiceCallTimeoutSec.map .double),
    ("add_collision_retry_interval_sec".toList, config.addCollisionRetryIntervalSec.map .double),
    ("expect_collision_objects".toList, config.expectCollisionObjects.map .bool),
    ("use_mock_hardware".toList, config.useMockHardware.map .bool),
    ("publish_world_root_tf".toList, config.publishWorldRootTf.map .bool),
    ("publish_robot_base_tf".toList, config.publishRobotBaseTf.map .bool),
    ("world_tf_prefix".toList, config.worldTfPrefix.map .string),
    ("robot_base_frame_id".toList, (nonEmpty config.robotBaseFrameId).map .string),
    ("strip_tf_prefixes".toList, (nonEmpty config.stripTfPrefix).map .stringArray),
    ("excluded_collision_namespaces".toList, (nonEmpty config.excludedCollisionNamespaces).map .stringArray),
    ("collision_objects_update_rate_hz".toList, config.collisionObjectsUpdateRateHz.map .double),
    ("collision_objects_min_position_delta".toList, config.collisionObjectsMinPositionDelta.map .double),
    ("collision_objects_min_rotation_delta".toList, config.collisionObjectsMinRotationDelta.map .double),
    ("world_sync_interval_sec".toList, config.worldSyncIntervalSec.map .double)]

end MoveItPlanningServiceConfig

structure StaticTransformsConfig where
  publishWorldRootTf : Bool
  publishRobotBaseTf : Bool
  worldFrame : Name
  robotBaseFrame : Name

/-- `PublishStaticTransforms`, what it sends. -/
def publishStaticTransforms (config : StaticTransformsConfig) : List (TransformStamped Double) :=
  let worldFrame := if config.worldFrame = [] then "world".toList else config.worldFrame
  let robotBaseFrame :=
    if config.robotBaseFrame = [] then "ur_module/base_link".toList else config.robotBaseFrame
  (if config.publishWorldRootTf then
    [⟨worldFrame, "root".toList, ⟨0, 0, 0⟩, ⟨0, 0, 0, .finite 1⟩⟩] else []) ++
  -- a half turn about z
  if config.publishRobotBaseTf then
    [⟨robotBaseFrame, "base_link".toList, ⟨0, 0, 0⟩, ⟨0, 0, .finite 1, 0⟩⟩] else []

/-- What `main` starts with. -/
structure NodeSettings where
  staticTransforms : List (TransformStamped Double)
  /-- the address of the World and the configuration of the synchronizer -/
  synchronizer : Option (Name × Config Double)
  zenohRouter : Name
  serviceCallTimeoutSec : Double
  retryIntervalSec : Double
  expectCollisionObjects : Bool
  useMockHardware : Bool

namespace NodeParameters

variable (store : NodeParameters)

/-- `get_parameter`, which throws for a name that is not declared, and a reading function. -/
def read {α : Type} (acc : Accessor α) (name : Name) : Option α :=
  (store.lookup name).bind fun p => acc.as p.value

/-- `get_double_parameter`. -/
def seconds (fp : Rounding) (name : Name) (default : Double) : Double :=
  getDoubleParameter fp default ((store.lookup name).map fun p => p.value.toValue)

/-- The timeouts as the callback of an accepted goal finds them. -/
def timeouts : TimeoutParameters where
  rosServiceCallTimeoutSec := (store.lookup "ros_service_call_timeout_sec".toList).map fun p => p.value.toValue
  addCollisionRetryIntervalSec :=
    (store.lookup "add_collision_retry_interval_sec".toList).map fun p => p.value.toValue

/-- The addresses of the World and of the router, which are not read for mock hardware. -/
def addresses (useMockHardware : Bool) : Option (Option (Name × Name)) :=
  if useMockHardware then some none else do
    let ingress ← store.read .string "intrinsic_core_ingress_address".toList
    let router ← store.read .string "zenoh_router_address".toList
    some (some (if ingress = [] then "localhost:17080".toList else ingress,
      if router = [] then "tcp/localhost:7447".toList else router))

/-- The address of the router that `main` takes before it has a node. -/
def firstRouter (config : MoveItPlanningServiceConfig) : Name :=
  if config.zenohRouterAddress = [] then "tcp/localhost:7447".toList else config.zenohRouterAddress

/-- `main` after it has set the parameters. -/
def settings (fp : Rounding) (config : MoveItPlanningServiceConfig) : Option NodeSettings := do
  let publishWorldRootTf ← store.read .bool "publish_world_root_tf".toList
  let publishRobotBaseTf ← store.read .bool "publish_robot_base_tf".toList
  let worldPrefix ← store.read .string "world_tf_prefix".toList
  let robotBaseFrame ← store.read .string "robot_base_frame_id".toList
  let tfConfig : StaticTransformsConfig :=
    ⟨publishWorldRootTf, publishRobotBaseTf, if worldPrefix = [] then "world".toList else worldPrefix, robotBaseFrame⟩
  let tfPrefix ← store.read .string "tf_prefix".toList
  let stripTfPrefixes ← store.read .stringArray "strip_tf_prefixes".toList
  let excludedCollisionNamespaces ← store.read .stringArray "excluded_collision_namespaces".toList
  let syncConfig : Config Double :=
    { tfPrefix, stripTfPrefixes, excludedCollisionNamespaces
      collisionObjectsUpdateRateHz := store.seconds fp "collision_objects_update_rate_hz".toList (.finite 10)
      collisionObjectsMinPositionDelta :=
        store.seconds fp "collision_objects_min_position_delta".toList (.finite (1 / 1000))
      collisionObjectsMinRotationDelta :=
        store.seconds fp "collision_objects_min_rotation_delta".toList (.finite (1 / 100))
      worldSyncIntervalSec := store.seconds fp "world_sync_interval_sec".toList (.finite 2) }
  let useMockHardware ← store.read .bool "use_mock_hardware".toList
  let addresses ← store.addresses useMockHardware
  let expectCollisionObjects ← store.read .bool "expect_collision_objects".toList
  some
    { staticTransforms := if useMockHardware then [] else publishStaticTransforms tfConfig
      synchronizer := addresses.map fun (ingress, _) => (ingress, syncConfig)
      zenohRouter := addresses.elim (firstRouter config) Prod.snd
      serviceCallTimeoutSec := store.seconds fp "ros_service_call_timeout_sec".toList (.finite 5)
      retryIntervalSec := store.seconds fp "add_collision_retry_interval_sec".toList (.finite 2)
      expectCollisionObjects, useMockHardware }

end NodeParameters

structure PlanningNode where
  parameters : NodeParameters
  settings : NodeSettings

/-- `main` up to the spin, `none` when it throws; there may be no runtime configuration. -/
def startNode (fp : Rounding) (overrides : Name → Option NodeParameter)
    (config : Option MoveItPlanningServiceConfig) : Option PlanningNode := do
  let declared : NodeParameters ← declareAll overrides ∅ declarations
  let parameters := declared.setAll (present (config.elim [] MoveItPlanningServiceConfig.settings))
  let settings ← NodeParameters.settings parameters fp (config.getD .empty)
  some ⟨parameters, settings⟩

/-! ### Layers -/

/-- What the overrides must be for `main` to start. -/
def StaticallyTyped (overrides : Name → Option NodeParameter) : Prop :=
  ∀ d ∈ declarations, d.dynamicTyping = false → ∀ v ∈ overrides d.name, v.kind = d.default.kind

section Layers
variable (fp : Rounding) (overrides : Name → Option NodeParameter)

/-- A setting by its layers. -/
def layer {α : Type} (acc : Accessor α) (name : Name) (setting : Option α) (default : α) : α :=
  (setting.or ((overrides name).bind acc.as)).getD default

/-- A number by its layers; an override that is no number counts for nothing. -/
def secondsLayer (name : Name) (setting : Option Double) (default : Double) : Double :=
  setting.getD (getDoubleParameter fp default ((overrides name).map NodeParameter.toValue))

def syncLayers (config : MoveItPlanningServiceConfig) : Config Double where
  tfPrefix := layer overrides .string "tf_prefix".toList none []
  stripTfPrefixes := layer overrides .stringArray "strip_tf_prefixes".toList (nonEmpty config.stripTfPrefix) [[]]
  excludedCollisionNamespaces := layer overrides .stringArray "excluded_collision_namespaces".toList
    (nonEmpty config.excludedCollisionNamespaces)
    ["ur_module".toList, "gripper".toList, "camera_mount".toList, "orbbec_camera".toList,
      "ecat_ft_hal_module_with_adapters_with_sim".toList]
  collisionObjectsUpdateRateHz :=
    secondsLayer fp overrides "collision_objects_update_rate_hz".toList config.collisionObjectsUpdateRateHz (.finite 10)
  collisionObjectsMinPositionDelta := secondsLayer fp overrides "collision_objects_min_position_delta".toList
    config.collisionObjectsMinPositionDelta (.finite (1 / 1000))
  collisionObjectsMinRotationDelta := secondsLayer fp overrides "collision_objects_min_rotation_delta".toList
    config.collisionObjectsMinRotationDelta (.finite (1 / 100))
  worldSyncIntervalSec :=
    secondsLayer fp overrides "world_sync_interval_sec".toList config.worldSyncIntervalSec (.finite 2)

/-- An address by its layers, with the default in place of an empty one. -/
def addressLayer (name : Name) (setting default : Name) : Name :=
  ((nonEmpty (layer overrides .string name (nonEmpty setting) default))).getD default

def transformLayers (config : MoveItPlanningServiceConfig) : StaticTransformsConfig where
  publishWorldRootTf := layer overrides .bool "publish_world_root_tf".toList config.publishWorldRootTf true
  publishRobotBaseTf := layer overrides .bool "publish_robot_base_tf".toList config.publishRobotBaseTf true
  worldFrame := layer overrides .string "world_tf_prefix".toList config.worldTfPrefix "world".toList
  robotBaseFrame := layer overrides .string "robot_base_frame_id".toList (nonEmpty config.robotBaseFrameId)
    "ur_module/base_link".toList

/-- The settings by their layers. The router of a node with mock hardware has no override. -/
def settingsLayers (config : MoveItPlanningServiceConfig) : NodeSettings :=
  let useMockHardware := layer overrides .bool "use_mock_hardware".toList config.useMockHardware false
  { staticTransforms := if useMockHardware then [] else publishStaticTransforms (transformLayers overrides config)
    synchronizer := if useMockHardware then none else some
      (addressLayer overrides "intrinsic_core_ingress_address".toList config.intrinsicCoreIngressAddress
        "localhost:17080".toList, syncLayers fp overrides config)
    zenohRouter :=
      if useMockHardware then (nonEmpty config.zenohRouterAddress).getD "tcp/localhost:7447".toList
      else addressLayer overrides "zenoh_router_address".toList config.zenohRouterAddress "tcp/localhost:7447".toList
    serviceCallTimeoutSec :=
      secondsLayer fp overrides "ros_service_call_timeout_sec".toList config.rosServiceCallTimeoutSec (.finite 5)
    retryIntervalSec := secondsLayer fp overrides "add_collision_retry_interval_sec".toList
      config.addCollisionRetryIntervalSec (.finite 2)
    expectCollisionObjects :=
      layer overrides .bool "expect_collision_objects".toList config.expectCollisionObjects true
    useMockHardware }

/-- The values that others have set a parameter to, in their order. -/
def valuesSet (name : Name) (requests : List (Name × Option NodeParameter)) : List NodeParameter :=
  requests.filterMap fun r => if r.1 = name then r.2 else none

/-- What the callback of an accepted goal makes of the parameter: `none` for an exception, and
a fixed timeout once it is undeclared. -/
def timeoutOf : Option NodeParameter → Option Double
  | none => some (.finite 5)
  | some (.double sec) => some sec
  | some _ => none

/-- The timeout of a goal that is accepted after the requests. -/
def acceptedTimeoutLayer (config : MoveItPlanningServiceConfig)
    (requests : List (Name × Option NodeParameter)) : Option Double :=
  timeoutOf (if ("ros_service_call_timeout_sec".toList, none) ∈ requests then none else
    some ((valuesSet "ros_service_call_timeout_sec".toList requests).getLast?.getD
      (((config.rosServiceCallTimeoutSec.map .double).or (overrides "ros_service_call_timeout_sec".toList)).getD
        (.double (.finite 5)))))

end Layers

/-! ### What `main` starts with -/

theorem declarations_nodup : (declarations.map Declaration.name).Nodup := by decide +kernel

theorem settings_names (config : MoveItPlanningServiceConfig) :
    config.settings.map Prod.fst = MoveItPlanningServiceConfig.empty.settings.map Prod.fst := rfl

theorem settings_nodup (config : MoveItPlanningServiceConfig) : (config.settings.map Prod.fst).Nodup := by
  rw [settings_names]
  decide +kernel

theorem tfPrefix_not_set (config : MoveItPlanningServiceConfig) :
    "tf_prefix".toList ∉ config.settings.map Prod.fst := by
  rw [settings_names]
  decide +kernel

theorem staticallyTyped_iff {overrides : Name → Option NodeParameter} :
    StaticallyTyped overrides ↔ ∀ d ∈ declarations, d.Accepts NodeParameter.kind (d.initial overrides) := by
  refine forall₂_congr fun d _ => ?_
  rw [Declaration.Accepts, Declaration.initial]
  cases hoverride : overrides d.name with
  | none => simp
  | some v => cases hd : d.dynamicTyping <;> simp

/-- The setting of a parameter, `none` also for one that the runtime configuration has not. -/
def MoveItPlanningServiceConfig.Sets (config : MoveItPlanningServiceConfig) (name : Name)
    (setting : Option NodeParameter) : Prop :=
  (name, setting) ∈ config.settings ∨ setting = none ∧ name ∉ config.settings.map Prod.fst

theorem nonEmpty_getD {α : Type} (xs default : List α) :
    (nonEmpty xs).getD default = if xs = [] then default else xs := by
  cases xs <;> rfl

theorem replaced_once {α : Type} (xs default : List α) [Decidable (xs = [])]
    [∀ ys : List α, Decidable (ys = [])] :
    (if (if xs = [] then default else xs) = [] then default else if xs = [] then default else xs) =
      if xs = [] then default else xs := by
  by_cases hempty : xs = []
  · rw [if_pos hempty, ite_self]
  · rw [if_neg hempty, if_neg hempty]

theorem publish_worldFrame (publishWorldRootTf publishRobotBaseTf : Bool) (worldPrefix robotBaseFrame : Name) :
    publishStaticTransforms ⟨publishWorldRootTf, publishRobotBaseTf,
      if worldPrefix = [] then "world".toList else worldPrefix, robotBaseFrame⟩ =
    publishStaticTransforms ⟨publishWorldRootTf, publishRobotBaseTf, worldPrefix, robotBaseFrame⟩ := by
  simp only [publishStaticTransforms, replaced_once]

theorem valueAfter_of_dynamicTyping (name : Name) (default start : NodeParameter)
    (requests : List (Name × Option NodeParameter)) :
    Declaration.valueAfter NodeParameter.kind ⟨name, default, true⟩ start requests =
      if (name, none) ∈ requests then none else some ((valuesSet name requests).getLast?.getD start) := by
  rw [Declaration.valueAfter, accepted_of_dynamicTyping rfl]
  by_cases hundeclared : (name, none) ∈ requests
  · rw [if_pos ⟨rfl, hundeclared⟩, if_pos hundeclared]
  · rw [if_neg fun h => hundeclared h.2, if_neg hundeclared]
    rfl

theorem map_toValue (p : Option (Parameter NodeParameter.kind)) :
    (p.map fun p => p.value.toValue) = (p.map Parameter.value).map NodeParameter.toValue := by
  cases p <;> rfl

theorem valueAfter_nil (d : Declaration Name NodeParameter) (start : NodeParameter) :
    d.valueAfter NodeParameter.kind start [] = some start := by
  simp [Declaration.valueAfter, Declaration.accepted]

/-- Reading finds the last layer, when an override that counts is of the kind that is read. -/
theorem read_of_value {store : NodeParameters} {α : Type} {acc : Accessor α} {name : Name}
    {overrides : Name → Option NodeParameter} {setting : Option α} {default : α}
    (hkind : setting = none → ∀ v ∈ overrides name, v.kind = acc.kind)
    (hvalue : (store.lookup name).map Parameter.value =
      some (((setting.map acc.make).or (overrides name)).getD (acc.make default))) :
    store.read acc name = some (layer overrides acc name setting default) := by
  have hread : store.read acc name = ((store.lookup name).map Parameter.value).bind acc.as := by
    rw [NodeParameters.read]
    cases store.lookup name <;> rfl
  rw [hread, hvalue, Option.bind_some, layer]
  cases setting with
  | some a => exact acc.as_make a
  | none =>
    cases hoverride : overrides name with
    | none => exact acc.as_make default
    | some v =>
      obtain ⟨a, rfl⟩ := acc.exists_make v (hkind rfl v hoverride)
      simp [acc.as_make]

theorem acceptedTimeoutSec_map (value : Option NodeParameter) (retry : Option ParameterValue) :
    TimeoutParameters.acceptedTimeoutSec ⟨value.map NodeParameter.toValue, retry⟩ = timeoutOf value := by
  rcases value with _ | (_ | _ | _ | _ | _ | _)
  all_goals rfl

section Main
variable (fp : Rounding) {overrides : Name → Option NodeParameter} (config : MoveItPlanningServiceConfig)
  {declared : NodeParameters} (hdeclared : declareAll overrides ∅ declarations = some declared) {name : Name}
include hdeclared

theorem value_of_declared {d : Declaration Name NodeParameter} {setting : Option NodeParameter} (hd : d ∈ declarations)
    (hset : config.Sets d.name setting) (hkind : ∀ v ∈ setting, d.Accepts NodeParameter.kind v)
    (requests : List (Name × Option NodeParameter)) :
    ((declared.setAll (present config.settings ++ requests)).lookup d.name).map Parameter.value =
      d.valueAfter NodeParameter.kind ((setting.or (overrides d.name)).getD d.default) requests := by
  refine value_of_layers declarations_nodup hdeclared hd ?_ requests
  rcases hset with hmem | ⟨rfl, hname⟩
  · exact accepted_of_mem (settings_nodup config) hmem hkind
  · exact accepted_of_not_mem hname

theorem value_of_settings {d : Declaration Name NodeParameter} {setting : Option NodeParameter} (hd : d ∈ declarations)
    (hset : config.Sets d.name setting) (hkind : ∀ v ∈ setting, d.Accepts NodeParameter.kind v) :
    ((declared.setAll (present config.settings)).lookup d.name).map Parameter.value =
      some ((setting.or (overrides d.name)).getD d.default) := by
  have hvalue := value_of_declared config hdeclared hd hset hkind []
  rwa [List.append_nil, valueAfter_nil] at hvalue

theorem read_of_declared (hstatic : StaticallyTyped overrides) {α : Type} (acc : Accessor α) {setting : Option α}
    {default : α} (hd : ⟨name, acc.make default, false⟩ ∈ declarations)
    (hset : config.Sets name (setting.map acc.make)) :
    NodeParameters.read (declared.setAll (present config.settings)) acc name =
      some (layer overrides acc name setting default) := by
  have hkind : ∀ v ∈ overrides name, v.kind = acc.kind :=
    fun v hv => (hstatic _ hd rfl v hv).trans (acc.kind_make default)
  refine read_of_value (fun _ => hkind) (value_of_settings config hdeclared hd hset fun v hv => ?_)
  obtain ⟨a, -, rfl⟩ := Option.map_eq_some_iff.mp hv
  exact .inr ((acc.kind_make a).trans (acc.kind_make default).symm)

theorem seconds_of_declared {setting : Option Double} {default : Double}
    (hd : ⟨name, .double default, true⟩ ∈ declarations) (hset : config.Sets name (setting.map .double)) :
    NodeParameters.seconds (declared.setAll (present config.settings)) fp name default =
      secondsLayer fp overrides name setting default := by
  have hvalue := value_of_settings config hdeclared hd hset (fun _ _ => .inl rfl)
  rw [NodeParameters.seconds, map_toValue, hvalue, secondsLayer]
  cases setting with
  | some sec => rfl
  | none => cases overrides name <;> rfl

theorem acceptedTimeout_of_declared (requests : List (Name × Option NodeParameter)) :
    (NodeParameters.timeouts (declared.setAll (present config.settings ++ requests))).acceptedTimeoutSec =
      acceptedTimeoutLayer overrides config requests := by
  have hd : ⟨"ros_service_call_timeout_sec".toList, .double (.finite 5), true⟩ ∈ declarations :=
    List.mem_of_getElem? (i := 2) rfl
  have hset : config.Sets "ros_service_call_timeout_sec".toList (config.rosServiceCallTimeoutSec.map .double) :=
    .inl (List.mem_of_getElem? (i := 2) rfl)
  have hvalue := value_of_declared config hdeclared hd hset (fun _ _ => .inl rfl) requests
  rw [valueAfter_of_dynamicTyping] at hvalue
  rw [NodeParameters.timeouts, map_toValue, hvalue, acceptedTimeoutSec_map, acceptedTimeoutLayer]

theorem addresses_of_declared (hstatic : StaticallyTyped overrides) (useMockHardware : Bool) :
    NodeParameters.addresses (declared.setAll (present config.settings)) useMockHardware =
      some (if useMockHardware then none else some
        (addressLayer overrides "intrinsic_core_ingress_address".toList config.intrinsicCoreIngressAddress
          "localhost:17080".toList,
        addressLayer overrides "zenoh_router_address".toList config.zenohRouterAddress "tcp/localhost:7447".toList)) := by
  have hingress := read_of_declared config hdeclared hstatic .string
    (List.mem_of_getElem? (i := 0) rfl) (.inl (List.mem_of_getElem? (i := 0) rfl))
  have hrouter := read_of_declared config hdeclared hstatic .string
    (List.mem_of_getElem? (i := 1) rfl) (.inl (List.mem_of_getElem? (i := 1) rfl))
  cases useMockHardware with
  | true => rfl
  | false =>
    refine Option.bind_eq_some_iff.mpr ⟨_, hingress, Option.bind_eq_some_iff.mpr ⟨_, hrouter, ?_⟩⟩
    rw [← nonEmpty_getD, ← nonEmpty_getD]
    rfl

theorem syncConfig_of_declared : Config.mk
    (layer overrides .string "tf_prefix".toList none [])
    (layer overrides .stringArray "strip_tf_prefixes".toList (nonEmpty config.stripTfPrefix) [[]])
    (layer overrides .stringArray "excluded_collision_namespaces".toList
      (nonEmpty config.excludedCollisionNamespaces)
      ["ur_module".toList, "gripper".toList, "camera_mount".toList, "orbbec_camera".toList,
        "ecat_ft_hal_module_with_adapters_with_sim".toList])
    (NodeParameters.seconds (declared.setAll (present config.settings)) fp
      "collision_objects_update_rate_hz".toList (.finite 10))
    (NodeParameters.seconds (declared.setAll (present config.settings)) fp
      "collision_objects_min_position_delta".toList (.finite (1 / 1000)))
    (NodeParameters.seconds (declared.setAll (present config.settings)) fp
      "collision_objects_min_rotation_delta".toList (.finite (1 / 100)))
    (NodeParameters.seconds (declared.setAll (present config.settings)) fp
      "world_sync_interval_sec".toList (.finite 2)) = syncLayers fp overrides config := by
  have hrate := seconds_of_declared fp config hdeclared
    (List.mem_of_getElem? (i := 14) rfl) (.inl (List.mem_of_getElem? (i := 12) rfl))
  have hposition := seconds_of_declared fp config hdeclared
    (List.mem_of_getElem? (i := 15) rfl) (.inl (List.mem_of_getElem? (i := 13) rfl))
  have hrotation := seconds_of_declared fp config hdeclared
    (List.mem_of_getElem? (i := 16) rfl) (.inl (List.mem_of_getElem? (i := 14) rfl))
  have hinterval := seconds_of_declared fp config hdeclared
    (List.mem_of_getElem? (i := 17) rfl) (.inl (List.mem_of_getElem? (i := 15) rfl))
  rw [hrate, hposition, hrotation, hinterval]
  rfl

theorem settings_of_declared (hstatic : StaticallyTyped overrides) :
    NodeParameters.settings (declared.setAll (present config.settings)) fp config =
      some (settingsLayers fp overrides config) := by
  have hroot := read_of_declared config hdeclared hstatic .bool
    (List.mem_of_getElem? (i := 6) rfl) (.inl (List.mem_of_getElem? (i := 6) rfl))
  have hbase := read_of_declared config hdeclared hstatic .bool
    (List.mem_of_getElem? (i := 7) rfl) (.inl (List.mem_of_getElem? (i := 7) rfl))
  have hworld := read_of_declared config hdeclared hstatic .string
    (List.mem_of_getElem? (i := 8) rfl) (.inl (List.mem_of_getElem? (i := 8) rfl))
  have hframe := read_of_declared config hdeclared hstatic .string
    (List.mem_of_getElem? (i := 9) rfl) (.inl (List.mem_of_getElem? (i := 9) rfl))
  have hprefix : _ = some (layer overrides .string "tf_prefix".toList none []) :=
    read_of_declared config hdeclared hstatic .string
      (List.mem_of_getElem? (i := 10) rfl) (.inr ⟨rfl, tfPrefix_not_set config⟩)
  have hstrip := read_of_declared config hdeclared hstatic .stringArray
    (List.mem_of_getElem? (i := 11) rfl) (.inl (List.mem_of_getElem? (i := 10) rfl))
  have hexcluded := read_of_declared config hdeclared hstatic .stringArray
    (List.mem_of_getElem? (i := 12) rfl) (.inl (List.mem_of_getElem? (i := 11) rfl))
  have hexpect := read_of_declared config hdeclared hstatic .bool
    (List.mem_of_getElem? (i := 4) rfl) (.inl (List.mem_of_getElem? (i := 4) rfl))
  have hmock := read_of_declared config hdeclared hstatic .bool
    (List.mem_of_getElem? (i := 5) rfl) (.inl (List.mem_of_getElem? (i := 5) rfl))
  have hservice := seconds_of_declared fp config hdeclared
    (List.mem_of_getElem? (i := 2) rfl) (.inl (List.mem_of_getElem? (i := 2) rfl))
  have hretry := seconds_of_declared fp config hdeclared
    (List.mem_of_getElem? (i := 3) rfl) (.inl (List.mem_of_getElem? (i := 3) rfl))
  refine Option.bind_eq_some_iff.mpr ⟨_, hroot, Option.bind_eq_some_iff.mpr ⟨_, hbase, ?_⟩⟩
  refine Option.bind_eq_some_iff.mpr ⟨_, hworld, Option.bind_eq_some_iff.mpr ⟨_, hframe, ?_⟩⟩
  refine Option.bind_eq_some_iff.mpr ⟨_, hprefix, Option.bind_eq_some_iff.mpr ⟨_, hstrip, ?_⟩⟩
  refine Option.bind_eq_some_iff.mpr ⟨_, hexcluded, Option.bind_eq_some_iff.mpr ⟨_, hmock, ?_⟩⟩
  refine Option.bind_eq_some_iff.mpr ⟨_, addresses_of_declared config hdeclared hstatic _, ?_⟩
  refine Option.bind_eq_some_iff.mpr ⟨_, hexpect, congrArg some ?_⟩
  rw [hservice, hretry, syncConfig_of_declared fp config hdeclared, publish_worldFrame, settingsLayers]
  cases layer overrides .bool "use_mock_hardware".toList config.useMockHardware false with
  | true =>
    have hrouter : NodeParameters.firstRouter config =
        (nonEmpty config.zenohRouterAddress).getD "tcp/localhost:7447".toList := (nonEmpty_getD _ _).symm
    simp only [if_true, Option.map_none, Option.elim_none, hrouter]
  | false => rfl

end Main

theorem present_settings (config : Option MoveItPlanningServiceConfig) :
    present (config.elim [] MoveItPlanningServiceConfig.settings) = present (config.getD .empty).settings := by
  cases config <;> rfl

theorem declareAll_isSome {overrides : Name → Option NodeParameter} :
    (declareAll overrides ∅ declarations : Option NodeParameters).isSome ↔ StaticallyTyped overrides := by
  rw [staticallyTyped_iff]
  exact declareAll_isSome_iff declarations_nodup fun d _ => Finmap.notMem_empty

/-- A start is one with accepted overrides, and then has the layers. -/
theorem startNode_eq_some {fp : Rounding} {overrides : Name → Option NodeParameter}
    {config : Option MoveItPlanningServiceConfig} {node : PlanningNode} :
    startNode fp overrides config = some node ↔
      ∃ declared : NodeParameters, declareAll overrides ∅ declarations = some declared ∧
        node = ⟨declared.setAll (present (config.getD .empty).settings),
          settingsLayers fp overrides (config.getD .empty)⟩ := by
  unfold startNode
  rw [present_settings]
  cases hdeclared : (declareAll overrides ∅ declarations : Option NodeParameters) with
  | none => simp
  | some declared =>
    have hstatic : StaticallyTyped overrides := declareAll_isSome.mp (Option.isSome_iff_exists.mpr ⟨_, hdeclared⟩)
    have hsettings := settings_of_declared fp (config.getD .empty) hdeclared hstatic
    simp [hsettings, eq_comm]

/-- `main` starts the node exactly when every override of a statically typed parameter has its
type, and then with what the layers say, and whatever others set later, the callback of an
accepted goal finds the last value. -/
theorem main_configured (fp : Rounding) (overrides : Name → Option NodeParameter)
    (config : Option MoveItPlanningServiceConfig) :
    ((startNode fp overrides config).isSome ↔ StaticallyTyped overrides) ∧
      ∀ node ∈ startNode fp overrides config,
        node.settings = settingsLayers fp overrides (config.getD .empty) ∧
        ∀ requests, (NodeParameters.timeouts (node.parameters.setAll requests)).acceptedTimeoutSec =
          acceptedTimeoutLayer overrides (config.getD .empty) requests := by
  constructor
  · rw [← declareAll_isSome, Option.isSome_iff_exists, Option.isSome_iff_exists]
    constructor
    · rintro ⟨node, hnode⟩
      obtain ⟨declared, hdeclared, -⟩ := startNode_eq_some.mp hnode
      exact ⟨declared, hdeclared⟩
    · rintro ⟨declared, hdeclared⟩
      exact ⟨_, startNode_eq_some.mpr ⟨declared, hdeclared, rfl⟩⟩
  · intro node hnode
    obtain ⟨declared, hdeclared, rfl⟩ := startNode_eq_some.mp hnode
    refine ⟨rfl, fun requests => ?_⟩
    rw [← acceptedTimeout_of_declared _ hdeclared, setAll_append]

namespace Sample

/-- The service call timeout as a whole number of seconds. -/
def wholeSeconds (name : Name) : Option NodeParameter :=
  if name = "ros_service_call_timeout_sec".toList then some (.integer 5) else none

theorem wholeSeconds_typed : StaticallyTyped wholeSeconds := by
  intro d hd hstatic v hv
  have hname : d.name = "ros_service_call_timeout_sec".toList := by
    by_contra hother
    rw [wholeSeconds, if_neg hother] at hv
    cases hv
  have hdynamic : ∀ d ∈ declarations, d.name = "ros_service_call_timeout_sec".toList → d.dynamicTyping = true := by
    decide +kernel
  exact nomatch hstatic.symm.trans (hdynamic d hd hname)

end Sample

/-- The synchronization of such a node has its five seconds, while an accepted goal meets an
exception until somebody sets a double. -/
theorem main_configured_whole_seconds : ∃ node ∈ startNode .exact Sample.wholeSeconds none,
    node.settings.serviceCallTimeoutSec = .finite 5 ∧
      (NodeParameters.timeouts node.parameters).acceptedTimeoutSec = none ∧
      (NodeParameters.timeouts (node.parameters.setAll
        [("ros_service_call_timeout_sec".toList, some (.double (.finite 7)))])).acceptedTimeoutSec = some (.finite 7) := by
  have hmain := main_configured .exact Sample.wholeSeconds none
  obtain ⟨node, hnode⟩ := Option.isSome_iff_exists.mp (hmain.1.mpr Sample.wholeSeconds_typed)
  obtain ⟨hsettings, htimeouts⟩ := hmain.2 node hnode
  refine ⟨node, hnode, ?_, (htimeouts []).trans ?_, (htimeouts _).trans ?_⟩
  · rw [hsettings]
    decide +kernel
  · decide +kernel
  · decide +kernel

end MoveitPlanning.Service
