import MoveitPlanning.Scene.World

/-! The synchronizer's state and the sections that change it. Each function here
is the body of one section under the mutex, so that interleavings of threads are
interleavings of these functions. The lookup lemmas say what each section does to
each map; later proofs use them and do not unfold the sections. -/

namespace MoveitPlanning.Scene

open Foundation

variable {R : Type*}

/-- `MoveitSceneSynchronizer::Data`, its mutable part. -/
structure Data (R : Type*) where
  /-- mesh id to glTF bytes -/
  renderablesCollision : HashMap Name Bytes
  /-- mesh id to primitive -/
  primitivesCollision : HashMap Name (SolidPrimitive R)
  /-- TF frame of an object to its mesh ids -/
  collisionTfFrameToMeshIds : HashMap Name (Finset Name)
  /-- mesh id to the pose of the shape in its TF frame -/
  relativeMeshPose : HashMap Name (Pose R)
  tfFrameNames : Finset Name
  syncObjectNames : Option (List Name)
  syncNewObjects : Bool
  shutdown : Bool
  lastPublishedCollisionPose : HashMap Name (Pose R)
  lastPublishedCollisionTime : HashMap Name ℤ

namespace Data

def init : Data R where
  renderablesCollision := ∅
  primitivesCollision := ∅
  collisionTfFrameToMeshIds := ∅
  relativeMeshPose := ∅
  tfFrameNames := ∅
  syncObjectNames := none
  syncNewObjects := true
  shutdown := false
  lastPublishedCollisionPose := ∅
  lastPublishedCollisionTime := ∅

/-- The mesh ids of a frame, none for a frame that is not tracked. -/
def meshIds (σ : Data R) (frame : Name) : Finset Name :=
  (σ.collisionTfFrameToMeshIds.lookup frame).getD ∅

/-- A tracked frame is a key of `collision_tf_frame_to_mesh_ids_`. -/
def Tracked (σ : Data R) (frame : Name) : Prop := frame ∈ σ.collisionTfFrameToMeshIds

instance (σ : Data R) (frame : Name) : Decidable (σ.Tracked frame) :=
  inferInstanceAs (Decidable (frame ∈ σ.collisionTfFrameToMeshIds))

/-- `relative_mesh_pose_[id] = pose`, then the id joins the set of its frame. -/
def record (σ : Data R) (frame id : Name) (pose : Pose R) : Data R :=
  { σ with
    relativeMeshPose := σ.relativeMeshPose.insert id pose
    collisionTfFrameToMeshIds :=
      σ.collisionTfFrameToMeshIds.insert frame (insert id (σ.meshIds frame)) }

/-- `renderables_collision_.emplace`, which keeps an entry that is there. -/
def emplace (σ : Data R) (id : Name) (gltf : Bytes) : Data R :=
  if id ∈ σ.renderablesCollision then σ
  else { σ with renderablesCollision := σ.renderablesCollision.insert id gltf }

/-- The one section of a converted primitive. -/
def recordPrimitive (σ : Data R) (frame id : Name) (pose : Pose R) (solid : SolidPrimitive R) :
    Data R :=
  { σ with primitivesCollision := σ.primitivesCollision.insert id solid }.record frame id pose

/-- The section of `removeCollisionObject`. -/
def erase (σ : Data R) (frame : Name) : Data R :=
  { σ with
    collisionTfFrameToMeshIds := σ.collisionTfFrameToMeshIds.erase frame
    lastPublishedCollisionPose := σ.lastPublishedCollisionPose.erase frame
    lastPublishedCollisionTime := σ.lastPublishedCollisionTime.erase frame }

/-- The section in which the TF callback queues newly discovered objects. -/
def queueObjects (σ : Data R) (newObjectNames : List Name) : Data R :=
  if newObjectNames = [] then σ
  else
    { σ with
      syncObjectNames := some (σ.syncObjectNames.getD [] ++ newObjectNames)
      syncNewObjects := true }

/-- The section in which the sync thread takes the pending request. -/
def takeRequest (σ : Data R) : Data R :=
  { σ with syncObjectNames := none, syncNewObjects := false }

/-! ### What the sections do -/

theorem tracked_iff_mem_keys (σ : Data R) (frame : Name) :
    σ.Tracked frame ↔ frame ∈ σ.collisionTfFrameToMeshIds.keys := Finmap.mem_keys.symm

theorem tracked_iff_lookup (σ : Data R) (frame : Name) :
    σ.Tracked frame ↔ ∃ ids, σ.collisionTfFrameToMeshIds.lookup frame = some ids := by
  rw [Tracked, Finmap.mem_iff]

theorem tracked_of_mem_meshIds {σ : Data R} {frame id : Name} (h : id ∈ σ.meshIds frame) :
    σ.Tracked frame := by
  rw [tracked_iff_lookup]
  cases hl : σ.collisionTfFrameToMeshIds.lookup frame with
  | none => simp [meshIds, hl] at h
  | some ids => exact ⟨ids, rfl⟩

section record
variable (σ : Data R) (frame id : Name) (pose : Pose R) (solid : SolidPrimitive R)

@[simp] theorem record_renderables : (σ.record frame id pose).renderablesCollision = σ.renderablesCollision := rfl

@[simp] theorem record_primitives : (σ.record frame id pose).primitivesCollision = σ.primitivesCollision := rfl

theorem record_pose (m : Name) : (σ.record frame id pose).relativeMeshPose.lookup m =
    if m = id then some pose else σ.relativeMeshPose.lookup m :=
  HashMap.lookup_insert_eq _ _ _ _

theorem record_tracked (f : Name) : (σ.record frame id pose).Tracked f ↔ f = frame ∨ σ.Tracked f :=
  Finmap.mem_insert

theorem record_meshIds (f : Name) : (σ.record frame id pose).meshIds f =
    if f = frame then insert id (σ.meshIds f) else σ.meshIds f := by
  simp only [meshIds, record, HashMap.lookup_insert_eq]
  split_ifs with h
  · subst h; rfl
  · rfl

@[simp] theorem emplace_primitives (gltf : Bytes) :
    (σ.emplace id gltf).primitivesCollision = σ.primitivesCollision := by
  unfold emplace; split_ifs <;> rfl

@[simp] theorem emplace_pose (gltf : Bytes) :
    (σ.emplace id gltf).relativeMeshPose = σ.relativeMeshPose := by
  unfold emplace; split_ifs <;> rfl

@[simp] theorem emplace_frames (gltf : Bytes) :
    (σ.emplace id gltf).collisionTfFrameToMeshIds = σ.collisionTfFrameToMeshIds := by
  unfold emplace; split_ifs <;> rfl

@[simp] theorem emplace_tracked (gltf : Bytes) (f : Name) :
    (σ.emplace id gltf).Tracked f ↔ σ.Tracked f := by
  rw [Tracked, emplace_frames, Tracked]

theorem emplace_renderables (gltf : Bytes) (m : Name) :
    (σ.emplace id gltf).renderablesCollision.lookup m =
      (σ.renderablesCollision.lookup m).or (if m = id then some gltf else none) := by
  unfold emplace
  split_ifs with hid hm hm
  · subst hm
    obtain ⟨b, hb⟩ := Finmap.mem_iff.mp hid
    simp [hb]
  · simp
  · subst hm
    simp [Finmap.lookup_eq_none.mpr hid]
  · simp [Finmap.lookup_insert_of_ne _ hm]

@[simp] theorem recordPrimitive_renderables :
    (σ.recordPrimitive frame id pose solid).renderablesCollision = σ.renderablesCollision := rfl

theorem recordPrimitive_primitives (m : Name) :
    (σ.recordPrimitive frame id pose solid).primitivesCollision.lookup m =
      if m = id then some solid else σ.primitivesCollision.lookup m :=
  HashMap.lookup_insert_eq _ _ _ _

theorem recordPrimitive_tracked (f : Name) :
    (σ.recordPrimitive frame id pose solid).Tracked f ↔ f = frame ∨ σ.Tracked f :=
  record_tracked _ _ _ _ _

end record

theorem erase_tracked (σ : Data R) (frame f : Name) :
    (σ.erase frame).Tracked f ↔ f ≠ frame ∧ σ.Tracked f :=
  Finmap.mem_erase

@[simp] theorem queueObjects_frames (σ : Data R) (names : List Name) :
    (σ.queueObjects names).collisionTfFrameToMeshIds = σ.collisionTfFrameToMeshIds := by
  unfold queueObjects; split_ifs <;> rfl

theorem queueObjects_keeps (σ : Data R) (names : List Name) :
    (σ.queueObjects names).lastPublishedCollisionPose = σ.lastPublishedCollisionPose ∧
      (σ.queueObjects names).lastPublishedCollisionTime = σ.lastPublishedCollisionTime := by
  unfold queueObjects; split_ifs <;> exact ⟨rfl, rfl⟩

end Data

end MoveitPlanning.Scene
