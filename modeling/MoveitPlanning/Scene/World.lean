import Mathlib.Data.Matrix.Basic
import Mathlib.Algebra.Field.Defs
import Mathlib.Data.Char
import Mathlib.Data.List.Lex
import MoveitPlanning.Foundation.Double
import MoveitPlanning.Foundation.HashMap

/-! What the synchronizer reads and what it sends: the objects of a World
response, the configuration, the names it derives for them, and the collision
object messages it publishes. A protobuf or hash map the code only iterates over
is the list of its entries in the order of that iteration. The coordinates are numbers
of an arbitrary type `R`; the rate of updates is a double, since it is compared with the
seconds between two readings of the clock. -/

namespace MoveitPlanning.Scene

open Foundation

/-- The characters of a `std::string`. -/
abbrev Name := List Char

abbrev Bytes := List UInt8

/-- `absl::StatusCode`, less `kOk`. -/
inductive StatusCode
  | cancelled | unknown | invalidArgument | deadlineExceeded | notFound | alreadyExists
  | permissionDenied | resourceExhausted | failedPrecondition | aborted | outOfRange
  | unimplemented | internal | unavailable | dataLoss | unauthenticated
  deriving DecidableEq, Repr

/-- A status that is not OK. -/
structure Failure where
  code : StatusCode
  message : Name
  deriving DecidableEq, Repr

/-- `absl::Status`; `absl::StatusOr<T>` is `Except Failure T`. -/
abbrev Status := Except Failure Unit

/-! ### Geometry messages -/

structure Vec3 (R : Type*) where
  x : R
  y : R
  z : R
  deriving DecidableEq, Repr

structure Quat (R : Type*) where
  x : R
  y : R
  z : R
  w : R
  deriving DecidableEq, Repr

/-- `geometry_msgs::msg::Pose`. -/
structure Pose (R : Type*) where
  position : Vec3 R
  orientation : Quat R
  deriving DecidableEq, Repr

def Pose.identity {R : Type*} [Zero R] [One R] : Pose R :=
  ⟨⟨0, 0, 0⟩, ⟨0, 0, 0, 1⟩⟩

/-- `geometry_msgs::msg::TransformStamped`, less the stamp, which nothing reads. -/
structure TransformStamped (R : Type*) where
  frameId : Name
  childFrameId : Name
  translation : Vec3 R
  rotation : Quat R
  deriving DecidableEq, Repr

/-- The types of `shape_msgs::msg::SolidPrimitive`, and what else the byte may be. -/
inductive SolidType
  | box | sphere | cylinder | cone | prism
  | other (type : UInt8)
  deriving DecidableEq, Repr

/-- `shape_msgs::msg::SolidPrimitive`. -/
structure SolidPrimitive (R : Type*) where
  type : SolidType
  dimensions : List R
  deriving DecidableEq, Repr

/-- `shape_msgs::msg::Mesh`. -/
structure Mesh (R : Type*) where
  vertices : List (Vec3 R)
  triangles : List (ℕ × ℕ × ℕ)
  deriving DecidableEq, Repr

inductive Operation
  | add | remove | move
  deriving DecidableEq, Repr

/-- `moveit_msgs::msg::CollisionObject`. -/
structure CollisionObject (R : Type*) where
  stamp : ℤ
  frameId : Name
  id : Name
  operation : Operation
  pose : Pose R
  meshes : List (Mesh R)
  meshPoses : List (Pose R)
  primitives : List (SolidPrimitive R)
  primitivePoses : List (Pose R)
  deriving DecidableEq, Repr

/-! ### World objects -/

/-- The two storage references `GetGltf` is called with. -/
structure GeoRef where
  exactGeometryRef : Name
  renderableRef : Name
  deriving DecidableEq, Repr

inductive PrimitiveShape (R : Type*)
  | box (size : Vec3 R)
  | cylinder (length radius : R)
  | sphere (radius : R)
  | capsule (length radius : R)
  /-- any other alternative of the message -/
  | other

structure TransformedPrimitive (R : Type*) where
  shape : Option (PrimitiveShape R)

inductive ExactGeometry (R : Type*)
  | primitiveSet (primitives : List (TransformedPrimitive R))
  | other

inductive Geometry (R : Type*)
  | geoRef (ref : GeoRef)
  | inlineGeometryData (exactGeometry : Option (ExactGeometry R))
  | notSet

structure MatrixXd (R : Type*) where
  rows : ℕ
  cols : ℕ
  coeff : ℕ → ℕ → R

/-- `refTShape` is `none` without a `matrix4d`, and otherwise what `FromProto`
makes of the `matrix4d`, with `none` for an error status. -/
structure TransformedGeometry (R : Type*) where
  refTShape : Option (Option (MatrixXd R))
  geometry : Geometry R

structure Entity (R : Type*) where
  name : Name
  /-- `geometry_component().named_geometries()`, each entry with its own
  `named_geometries()` -/
  geometryComponent : Option (List (Name × List (Name × TransformedGeometry R)))

structure WorldObject (R : Type*) where
  name : Name
  entities : List (Entity R)

/-- `shapes::Mesh`: flat arrays of three entries a vertex and three a triangle. -/
structure ShapesMesh (R : Type*) where
  vertexCount : ℕ
  vertices : ℕ → R
  triangleCount : ℕ
  triangles : ℕ → ℕ

/-- The calls into libraries outside this repository, and the rounding of doubles. -/
structure Library (R : Type*) where
  /-- the quaternion of `AffineTransform3d(mat4).rotation()` -/
  rotationQuaternion : Matrix (Fin 4) (Fin 4) R → Quat R
  /-- `shapes::createMeshFromBinary(.., "glb")`, `none` for a null pointer -/
  createMeshFromBinary : Bytes → Option (ShapesMesh R)
  sqrt : R → R
  acos : R → R
  rounding : Rounding

/-- The World client. `getGltf` also takes the position of the geometry among
those the fetch visits, so that calls with equal references may end differently. -/
structure WorldClient (R : Type*) where
  getObjects : Option (List Name) → Except Failure (List (WorldObject R))
  getGltf : ℕ → GeoRef → Except Failure Bytes

/-- `MoveitSceneSynchronizerConfig`. -/
structure Config (R : Type*) where
  tfPrefix : Name
  stripTfPrefixes : List Name
  excludedCollisionNamespaces : List Name
  collisionObjectsUpdateRateHz : Double
  collisionObjectsMinPositionDelta : R
  collisionObjectsMinRotationDelta : R
  worldSyncIntervalSec : R

def Config.default {R : Type*} [DivisionRing R] : Config R where
  tfPrefix := []
  stripTfPrefixes := [[]]
  excludedCollisionNamespaces :=
    ["ur_module".toList, "gripper".toList, "camera_mount".toList, "orbbec_camera".toList,
      "ecat_ft_hal_module_with_adapters_with_sim".toList]
  collisionObjectsUpdateRateHz := .finite 10
  collisionObjectsMinPositionDelta := 1 / 1000
  collisionObjectsMinRotationDelta := 1 / 100
  worldSyncIntervalSec := 2

/-! ### Names -/

variable {R : Type*}

/-- Strips the first non-empty prefix that applies. -/
def stripTfPrefixes (frame : Name) : List Name → Name
  | [] => frame
  | p :: ps => if p ≠ [] ∧ p <+: frame then frame.drop p.length else stripTfPrefixes frame ps

/-- The last component of an object's stripped name. -/
def Config.shortName (cfg : Config R) (objectName : Name) : Name :=
  ((Scene.stripTfPrefixes objectName cfg.stripTfPrefixes).splitOn '/').getLastD []

def Config.isExcluded (cfg : Config R) (shortName : Name) : Bool :=
  cfg.excludedCollisionNamespaces.contains shortName

/-- `"%s%s/%s"`. -/
def Config.tfFrameName (cfg : Config R) (shortName entityName : Name) : Name :=
  cfg.tfPrefix ++ shortName ++ '/' :: entityName

def collisionMeshId (tfFrameName innerName : Name) : Name :=
  '/' :: tfFrameName ++ '/' :: innerName

/-- `"%s_prim_%d"`, used only in a set of several primitives. -/
def primId (collisionMeshId : Name) (primitivesSize i : ℕ) : Name :=
  if primitivesSize > 1 then collisionMeshId ++ "_prim_".toList ++ Nat.toDigits 10 i
  else collisionMeshId

/-- A child frame of TF as the callback renames it. -/
def Config.rosFrame (cfg : Config R) (frame : Name) : Name :=
  cfg.tfPrefix ++ Scene.stripTfPrefixes frame cfg.stripTfPrefixes

/-- The object name the TF callback queues for a child frame: up to the first slash. -/
def Config.tfObjectName (cfg : Config R) (childFrame : Name) : Name :=
  (Scene.stripTfPrefixes childFrame cfg.stripTfPrefixes).takeWhile (· ≠ '/')

example : stripTfPrefixes "/intrinsic/table/surface".toList
    ["/flowstate/".toList, "/intrinsic/".toList, []] = "table/surface".toList := by decide

end MoveitPlanning.Scene
