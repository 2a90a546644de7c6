import MoveitPlanning.Foundation.DurationSeconds
import MoveitPlanning.Scene.Fetch
import Mathlib.Algebra.Order.Field.Basic

/-! The three operations that publish on `/collision_object`. An ADD is built from a
snapshot taken under the mutex and decodes its meshes after the mutex is released; a
REMOVE follows the section that forgets the frame; a MOVE is built in one section,
which also keeps the pose and time it was last published with. Each pass over a hash
table is given the order in which it sees the table. -/

namespace MoveitPlanning.Scene

open Foundation

variable {R : Type*}

/-! ### ADD -/

/-- What the snapshot takes for one mesh id. -/
inductive ShapeEntry (R : Type*)
  | gltfMesh (data : Bytes) (pose : Pose R)
  | primitive (solid : SolidPrimitive R) (pose : Pose R)
  deriving DecidableEq

def ShapeEntry.gltfMesh? : ShapeEntry R → Option (Bytes × Pose R)
  | .gltfMesh data pose => some (data, pose)
  | .primitive _ _ => none

def ShapeEntry.primitive? : ShapeEntry R → Option (SolidPrimitive R × Pose R)
  | .gltfMesh _ _ => none
  | .primitive solid pose => some (solid, pose)

/-- A mesh id without a pose is skipped, and a mesh hides a primitive of its id. -/
def shapeEntry (σ : Data R) (meshId : Name) : Option (ShapeEntry R) :=
  (σ.relativeMeshPose.lookup meshId).bind fun pose =>
    match σ.renderablesCollision.lookup meshId with
    | some data => some (.gltfMesh data pose)
    | none => (σ.primitivesCollision.lookup meshId).map fun solid => .primitive solid pose

structure ObjectCollisionData (R : Type*) where
  tfFrameName : Name
  gltfMeshes : List (Bytes × Pose R)
  primitives : List (SolidPrimitive R × Pose R)

/-- The snapshot of one frame, `none` if it is not tracked. -/
def objectCollisionData (ord : IterOrder Name) (σ : Data R) (tfFrameName : Name) :
    Option (ObjectCollisionData R) :=
  (σ.collisionTfFrameToMeshIds.lookup tfFrameName).map fun meshIds =>
    let entries := (ord.visit meshIds).filterMap (shapeEntry σ)
    { tfFrameName
      gltfMeshes := entries.filterMap ShapeEntry.gltfMesh?
      primitives := entries.filterMap ShapeEntry.primitive? }

/-- The frames an ADD pass looks at: all tracked ones without a list. -/
def framesToAdd (ord : IterOrder Name) (σ : Data R) : Option (List Name) → List Name
  | none => ord.visit σ.collisionTfFrameToMeshIds.keys
  | some frames => frames

/-- The section of `addCollisionObjectsToScene`. -/
def snapshot (ord : IterOrder Name) (σ : Data R) (objectFrames : Option (List Name)) :
    List (ObjectCollisionData R) :=
  (framesToAdd ord σ objectFrames).filterMap (objectCollisionData ord σ)

def ShapesMesh.toMesh (m : ShapesMesh R) : Mesh R where
  vertices := (List.range m.vertexCount).map fun i =>
    ⟨m.vertices (3 * i), m.vertices (3 * i + 1), m.vertices (3 * i + 2)⟩
  triangles := (List.range m.triangleCount).map fun i =>
    (m.triangles (3 * i), m.triangles (3 * i + 1), m.triangles (3 * i + 2))

/-- A mesh that does not decode is logged and left out, its pose with it. -/
def decodedMesh (lib : Library R) (mesh : Bytes × Pose R) : Option (Mesh R × Pose R) :=
  (lib.createMeshFromBinary mesh.1).map fun shapeMesh => (shapeMesh.toMesh, mesh.2)

section Publish
variable [Zero R] [One R] (lib : Library R) (ord : IterOrder Name) (now : ℤ)

/-- The ADD built from a snapshot, outside the mutex. -/
def toCollisionObject (d : ObjectCollisionData R) : CollisionObject R :=
  let meshes := d.gltfMeshes.filterMap (decodedMesh lib)
  { stamp := now
    frameId := d.tfFrameName
    id := d.tfFrameName
    operation := .add
    pose := Pose.identity
    meshes := meshes.map Prod.fst
    meshPoses := meshes.map Prod.snd
    primitives := d.primitives.map Prod.fst
    primitivePoses := d.primitives.map Prod.snd }

/-- `Data::addCollisionObjectsToScene`: the messages it publishes. -/
def addCollisionObjectsToScene (σ : Data R) (objectFrames : Option (List Name)) :
    List (CollisionObject R) :=
  (snapshot ord σ objectFrames).map (toCollisionObject lib now)

/-- `MoveitSceneSynchronizer::fetchAndSynchronizeCollisionObjects`; an iteration of
the sync thread does the same with the request it has taken. -/
def fetchAndSynchronizeCollisionObjects (cfg : Config R) (world : WorldClient R)
    (objectFrames : Option (List Name)) (σ : Data R) : Status × Data R × List (CollisionObject R) :=
  match fetchAndSynchronize lib cfg world objectFrames σ with
  | (.error e, σ') => (.error e, σ', [])
  | (.ok (), σ') => (.ok (), σ', addCollisionObjectsToScene lib ord now σ' objectFrames)

/-! ### REMOVE -/

/-- The message of `removeCollisionObject`; its section is `Data.erase`. -/
def removeMessage (tfFrameName : Name) : CollisionObject R where
  stamp := now
  frameId := []
  id := tfFrameName
  operation := .remove
  pose := Pose.identity
  meshes := []
  meshPoses := []
  primitives := []
  primitivePoses := []

end Publish

/-! ### MOVE -/

section Rate
variable (lib : Library R) (cfg : Config R) (now : ℤ)

/-- There is a rate, and the time is shorter than its period. -/
def withinPeriod (nanoseconds : ℤ) : Bool :=
  Double.lt 0 cfg.collisionObjectsUpdateRateHz &&
    (durationSeconds lib.rounding nanoseconds).lt (lib.rounding.div 1 cfg.collisionObjectsUpdateRateHz)

/-- Held back because the last MOVE of the frame is less than a period ago. -/
def rateLimited (σ : Data R) (frame : Name) : Bool :=
  match σ.lastPublishedCollisionTime.lookup frame with
  | some time => withinPeriod lib cfg (now - time)
  | none => false

end Rate

section Update
variable [Field R] [LinearOrder R] (lib : Library R) (cfg : Config R) (ord : IterOrder Name) (now : ℤ)

def TransformStamped.pose (ts : TransformStamped R) : Pose R := ⟨ts.translation, ts.rotation⟩

def posDelta (old new : Pose R) : R :=
  let dx := new.position.x - old.position.x
  let dy := new.position.y - old.position.y
  let dz := new.position.z - old.position.z
  lib.sqrt (dx * dx + dy * dy + dz * dz)

def rotDelta (old new : Pose R) : R :=
  let q1 := old.orientation
  let q2 := new.orientation
  ((2 : ℕ) : R) * lib.acos (min 1 |q1.w * q2.w + q1.x * q2.x + q1.y * q2.y + q1.z * q2.z|)

/-- Held back because the pose has hardly changed since the last MOVE. -/
def withinDeadband (σ : Data R) (frame : Name) (newPose : Pose R) : Bool :=
  match σ.lastPublishedCollisionPose.lookup frame with
  | some oldPose =>
    decide (posDelta lib oldPose newPose < cfg.collisionObjectsMinPositionDelta ∧
      rotDelta lib oldPose newPose < cfg.collisionObjectsMinRotationDelta)
  | none => false

/-- Which list of a MOVE the pose of a mesh id goes to. -/
inductive MovePose (R : Type*)
  | mesh (pose : Pose R)
  | primitive (pose : Pose R)

def MovePose.mesh? : MovePose R → Option (Pose R)
  | .mesh pose => some pose
  | .primitive _ => none

def MovePose.primitive? : MovePose R → Option (Pose R)
  | .mesh _ => none
  | .primitive pose => some pose

def movePose (σ : Data R) (meshId : Name) : Option (MovePose R) :=
  (σ.relativeMeshPose.lookup meshId).bind fun pose =>
    if meshId ∈ σ.renderablesCollision then some (.mesh pose)
    else if meshId ∈ σ.primitivesCollision then some (.primitive pose)
    else none

def moveMessage (σ : Data R) (frame : Name) (ts : TransformStamped R) : CollisionObject R :=
  let poses := (ord.visit (σ.meshIds frame)).filterMap (movePose σ)
  { stamp := now
    frameId := ts.frameId
    id := frame
    operation := .move
    pose := ts.pose
    meshes := []
    meshPoses := poses.filterMap MovePose.mesh?
    primitives := []
    primitivePoses := poses.filterMap MovePose.primitive? }

/-- One tracked frame: the first transform with its name decides. -/
def updateFrame (transforms : List (TransformStamped R)) (acc : Data R × List (CollisionObject R))
    (frame : Name) : Data R × List (CollisionObject R) :=
  match transforms.find? fun ts => ts.childFrameId = frame with
  | none => acc
  | some ts =>
    if rateLimited lib cfg now acc.1 frame then acc
    else if withinDeadband lib cfg acc.1 frame ts.pose then acc
    else
      ({ acc.1 with
          lastPublishedCollisionPose := acc.1.lastPublishedCollisionPose.insert frame ts.pose
          lastPublishedCollisionTime := acc.1.lastPublishedCollisionTime.insert frame now },
        acc.2 ++ [moveMessage ord now acc.1 frame ts])

/-- `Data::updateCollisionObjects`: the state after its section and what it publishes. -/
def updateCollisionObjects (transforms : List (TransformStamped R)) (σ : Data R) :
    Data R × List (CollisionObject R) :=
  (ord.visit σ.collisionTfFrameToMeshIds.keys).foldl
    (updateFrame lib cfg ord now transforms) (σ, [])

theorem updateCollisionObjects_data (transforms : List (TransformStamped R)) (σ : Data R) :
    ∃ poses times, (updateCollisionObjects lib cfg ord now transforms σ).1 = { σ with
      lastPublishedCollisionPose := poses
      lastPublishedCollisionTime := times } := by
  have pass : ∀ (frames : List Name) (acc : Data R × List (CollisionObject R)), ∃ poses times,
      (frames.foldl (updateFrame lib cfg ord now transforms) acc).1 = { acc.1 with
        lastPublishedCollisionPose := poses
        lastPublishedCollisionTime := times } := by
    intro frames
    induction frames with
    | nil => exact fun acc => ⟨_, _, rfl⟩
    | cons f frames ih =>
      intro acc
      obtain ⟨poses, times, h⟩ := ih (updateFrame lib cfg ord now transforms acc f)
      refine ⟨poses, times, ?_⟩
      rw [List.foldl_cons, h]
      unfold updateFrame
      split
      · rfl
      · split_ifs <;> rfl
  exact pass _ (σ, [])

end Update

/-! ### What an ADD pass publishes -/

section Add
variable {ord : IterOrder Name} {σ : Data R}

theorem objectCollisionData_of_tracked {f : Name} (h : σ.Tracked f) :
    objectCollisionData ord σ f = some {
      tfFrameName := f
      gltfMeshes := ((ord.visit (σ.meshIds f)).filterMap (shapeEntry σ)).filterMap ShapeEntry.gltfMesh?
      primitives := ((ord.visit (σ.meshIds f)).filterMap (shapeEntry σ)).filterMap ShapeEntry.primitive? } := by
  obtain ⟨ids, hids⟩ := (σ.tracked_iff_lookup f).mp h
  simp only [objectCollisionData, Data.meshIds, hids, Option.map_some, Option.getD_some]

theorem objectCollisionData_eq_some {f : Name} {d : ObjectCollisionData R}
    (h : objectCollisionData ord σ f = some d) : σ.Tracked f ∧ d.tfFrameName = f := by
  simp only [objectCollisionData, Option.map_eq_some_iff] at h
  obtain ⟨ids, hids, rfl⟩ := h
  exact ⟨(σ.tracked_iff_lookup f).mpr ⟨ids, hids⟩, rfl⟩

theorem mem_framesToAdd (ord : IterOrder Name) (f : Name) (objectFrames : Option (List Name)) (h : σ.Tracked f) :
    f ∈ framesToAdd ord σ objectFrames ↔ ∀ frames, objectFrames = some frames → f ∈ frames := by
  cases objectFrames with
  | none => simpa [framesToAdd, σ.tracked_iff_mem_keys] using h
  | some frames => simp [framesToAdd]

variable [Zero R] [One R] (lib : Library R) (now : ℤ)

/-- The ADD of a tracked frame. -/
def addMessage (ord : IterOrder Name) (σ : Data R) (f : Name) : CollisionObject R :=
  toCollisionObject lib now {
    tfFrameName := f
    gltfMeshes := ((ord.visit (σ.meshIds f)).filterMap (shapeEntry σ)).filterMap ShapeEntry.gltfMesh?
    primitives := ((ord.visit (σ.meshIds f)).filterMap (shapeEntry σ)).filterMap ShapeEntry.primitive? }

/-- An ADD pass publishes one message for each frame it looks at that is tracked. -/
theorem mem_addCollisionObjectsToScene (objectFrames : Option (List Name)) (msg : CollisionObject R) :
    msg ∈ addCollisionObjectsToScene lib ord now σ objectFrames ↔
      ∃ f ∈ framesToAdd ord σ objectFrames, σ.Tracked f ∧ msg = addMessage lib now ord σ f := by
  simp only [addCollisionObjectsToScene, snapshot, List.mem_map, List.mem_filterMap]
  constructor
  · rintro ⟨d, ⟨f, hf, hd⟩, rfl⟩
    have ht := (objectCollisionData_eq_some hd).1
    rw [objectCollisionData_of_tracked ht] at hd
    exact ⟨f, hf, ht, by rw [← Option.some.inj hd]; rfl⟩
  · rintro ⟨f, hf, ht, rfl⟩
    exact ⟨_, ⟨f, hf, objectCollisionData_of_tracked ht⟩, rfl⟩

theorem exists_add_iff (objectFrames : Option (List Name)) {f : Name} (h : σ.Tracked f) :
    (∃ msg ∈ addCollisionObjectsToScene lib ord now σ objectFrames,
        msg.operation = .add ∧ msg.id = f) ↔
      ∀ frames, objectFrames = some frames → f ∈ frames := by
  rw [← mem_framesToAdd ord f objectFrames h]
  constructor
  · rintro ⟨msg, hmsg, -, hid⟩
    obtain ⟨g, hg, -, rfl⟩ := (mem_addCollisionObjectsToScene lib now _ _).mp hmsg
    obtain rfl : g = f := hid
    exact hg
  · intro hf
    exact ⟨addMessage lib now ord σ f,
      (mem_addCollisionObjectsToScene lib now _ _).mpr ⟨f, hf, h, rfl⟩, rfl, rfl⟩

end Add

theorem shapeEntry_fetchItems {σ : Data R} {xs : List (FetchItem R)} (hr : Retrieved σ xs) (m : Name) :
    shapeEntry (fetchItems σ xs) m =
      ((lastPose xs m).or (σ.relativeMeshPose.lookup m)).bind fun pose =>
        match heldGltf σ xs m with
        | some data => some (.gltfMesh data pose)
        | none => ((lastSolid xs m).or (σ.primitivesCollision.lookup m)).map fun solid =>
            .primitive solid pose := by
  rw [shapeEntry, fetchItems_pose hr, fetchItems_renderables, fetchItems_primitives]

end MoveitPlanning.Scene
