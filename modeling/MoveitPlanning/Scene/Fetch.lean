import MoveitPlanning.Foundation.NearestEven
import MoveitPlanning.Scene.State
import Mathlib.Algebra.Field.Rat

/-! `FetchAndSynchronizeCollisionObjects`. The nested loops over objects, entities
and geometries have no effect but their innermost sections, so they are written as
the list of geometries they reach, in order, and then as the list of items that
have a section: one for a mesh, one for each supported primitive. A fetch runs the
items one after another. The second half says what a whole fetch does to each map:
bytes go to the first mesh retrieved under an id, shapes and poses to the last, and
nothing that was in a map before is taken out. -/

namespace MoveitPlanning.Scene

open Foundation

variable {R : Type*}

/-! ### The geometries of a World response -/

/-- What the innermost loop has computed where it looks at the geometry itself. -/
structure CollisionGeometry (R : Type*) where
  tfFrameName : Name
  collisionMeshId : Name
  meshPose : Pose R
  geometry : Geometry R

/-- The pose in `ref_t_shape`; the identity unless it is a 4 by 4 matrix. -/
def meshPose [Zero R] [One R] (lib : Library R) (refTShape : Option (Option (MatrixXd R))) : Pose R :=
  match refTShape with
  | some (some m) =>
    if m.rows = 4 ∧ m.cols = 4 then
      ⟨⟨m.coeff 0 3, m.coeff 1 3, m.coeff 2 3⟩, lib.rotationQuaternion fun i j => m.coeff i j⟩
    else Pose.identity
  | _ => Pose.identity

section Loops
variable [Zero R] [One R] (lib : Library R) (cfg : Config R)

/-- The names and the pose of one geometry of an entity. -/
def collisionGeometry (object : WorldObject R) (entity : Entity R) (innerName : Name)
    (transformedGeometry : TransformedGeometry R) : CollisionGeometry R :=
  let tfFrameName := cfg.tfFrameName (cfg.shortName object.name) entity.name
  { tfFrameName
    collisionMeshId := collisionMeshId tfFrameName innerName
    meshPose := meshPose lib transformedGeometry.refTShape
    geometry := transformedGeometry.geometry }

/-- The name under which an entity's collision geometries are stored. -/
def intrinsicCollision : Name := "Intrinsic_Collision".toList

/-- The two innermost loops. The test for an excluded object is made again for each
geometry. -/
def entityGeometries (object : WorldObject R) (entity : Entity R) : List (CollisionGeometry R) :=
  match entity.geometryComponent with
  | none => []
  | some namedGeometries => namedGeometries.flatMap fun namedGeometry =>
    if namedGeometry.1 ≠ intrinsicCollision then []
    else namedGeometry.2.filterMap fun (innerName, transformedGeometry) =>
      if cfg.isExcluded (cfg.shortName object.name) then none
      else some (collisionGeometry lib cfg object entity innerName transformedGeometry)

def objectGeometries (object : WorldObject R) : List (CollisionGeometry R) :=
  if object.name = [] then [] else object.entities.flatMap (entityGeometries lib cfg object)

def collisionGeometries (objects : List (WorldObject R)) : List (CollisionGeometry R) :=
  objects.flatMap (objectGeometries lib cfg)

end Loops

/-- The conversion of a primitive; `none` is the unsupported shape that is skipped. -/
def toSolidPrimitive : PrimitiveShape R → Option (SolidPrimitive R)
  | .box size => some ⟨.box, [size.x, size.y, size.z]⟩
  | .cylinder length radius => some ⟨.cylinder, [length, radius]⟩
  | .sphere radius => some ⟨.sphere, [radius]⟩
  | .capsule length radius => some ⟨.cylinder, [length, radius]⟩
  | .other => none

def TransformedPrimitive.solid (p : TransformedPrimitive R) : Option (SolidPrimitive R) :=
  p.shape.bind toSolidPrimitive

/-! ### Items -/

inductive ItemShape (R : Type*)
  /-- a mesh, with what `GetGltf` answers if the fetch asks for it -/
  | mesh (ref : GeoRef) (gltf : Except Failure Bytes)
  | primitive (solid : SolidPrimitive R)

def ItemShape.isMesh : ItemShape R → Prop
  | .mesh _ _ => True
  | .primitive _ => False

/-- One geometry or primitive for which the fetch enters the mutex. -/
structure FetchItem (R : Type*) where
  frame : Name
  id : Name
  pose : Pose R
  shape : ItemShape R

/-- The supported primitives of a set, under the ids of their positions. -/
def primitiveItems (g : CollisionGeometry R) (primitives : List (TransformedPrimitive R)) :
    List (FetchItem R) :=
  primitives.zipIdx.filterMap fun (p, i) => p.solid.map fun solid =>
    ⟨g.tfFrameName, primId g.collisionMeshId primitives.length i, g.meshPose, .primitive solid⟩

def CollisionGeometry.items (g : CollisionGeometry R) (getGltf : GeoRef → Except Failure Bytes) :
    List (FetchItem R) :=
  match g.geometry with
  | .geoRef ref => [⟨g.tfFrameName, g.collisionMeshId, g.meshPose, .mesh ref (getGltf ref)⟩]
  | .inlineGeometryData (some (.primitiveSet primitives)) => primitiveItems g primitives
  | .inlineGeometryData _ => []
  | .notSet => []

/-- Everything a fetch of `objects` does under the mutex, in order. -/
def fetchPlan [Zero R] [One R] (lib : Library R) (cfg : Config R)
    (getGltf : ℕ → GeoRef → Except Failure Bytes) (objects : List (WorldObject R)) : List (FetchItem R) :=
  (collisionGeometries lib cfg objects).zipIdx.flatMap fun (g, k) => g.items (getGltf k)

/-- One item. A mesh whose id has bytes is not fetched again; one that cannot be
fetched is logged and left out. -/
def fetchItem (σ : Data R) (x : FetchItem R) : Data R :=
  match x.shape with
  | .mesh _ gltf =>
    if x.id ∈ σ.renderablesCollision then σ.record x.frame x.id x.pose
    else
      match gltf with
      | .error _ => σ
      | .ok data => (σ.emplace x.id data).record x.frame x.id x.pose
  | .primitive solid => σ.recordPrimitive x.frame x.id x.pose solid

def fetchItems (σ : Data R) (xs : List (FetchItem R)) : Data R := xs.foldl fetchItem σ

/-- The argument of `GetObjects`: an empty list asks for everything, as `nullopt` does. -/
def requestNames : Option (List Name) → Option (List Name)
  | some [] => none
  | names => names

/-- `Data::FetchAndSynchronizeCollisionObjects`. -/
def fetchAndSynchronize [Zero R] [One R] (lib : Library R) (cfg : Config R) (world : WorldClient R)
    (objectNames : Option (List Name)) (σ : Data R) : Status × Data R :=
  match world.getObjects (requestNames objectNames) with
  | .error e => (.error e, σ)
  | .ok objects => (.ok (), fetchItems σ (fetchPlan lib cfg world.getGltf objects))

theorem fetchAndSynchronize_ok [Zero R] [One R] {lib : Library R} {cfg : Config R} {world : WorldClient R}
    {objectNames : Option (List Name)} {objects : List (WorldObject R)} {σ : Data R}
    (hresp : world.getObjects (requestNames objectNames) = .ok objects) :
    fetchAndSynchronize lib cfg world objectNames σ =
      (.ok (), fetchItems σ (fetchPlan lib cfg world.getGltf objects)) := by
  simp only [fetchAndSynchronize, hresp]

/-! ### What an item does -/

namespace FetchItem

/-- The bytes an item brings for an id. -/
def suppliedGltf (id : Name) (x : FetchItem R) : Option Bytes :=
  match x.shape with
  | .mesh _ (.ok data) => if x.id = id then some data else none
  | _ => none

/-- The primitive an item brings for an id. -/
def suppliedSolid (id : Name) (x : FetchItem R) : Option (SolidPrimitive R) :=
  match x.shape with
  | .primitive solid => if x.id = id then some solid else none
  | _ => none

def suppliedPose (id : Name) (x : FetchItem R) : Option (Pose R) :=
  if x.id = id then some x.pose else none

/-- `GetGltf` has no error for the item. -/
def Answered (x : FetchItem R) : Prop :=
  match x.shape with
  | .mesh _ (.error _) => False
  | _ => True

instance (x : FetchItem R) : Decidable x.Answered := by
  unfold Answered; split <;> infer_instance

/-- The item gets as far as recording its id: its mesh is there or can be fetched. -/
def Records (σ : Data R) (x : FetchItem R) : Prop :=
  match x.shape with
  | .mesh _ _ => x.id ∈ σ.renderablesCollision ∨ (x.suppliedGltf x.id).isSome
  | .primitive _ => True

theorem records_of_not_isMesh (σ : Data R) {x : FetchItem R} (h : ¬x.shape.isMesh) : x.Records σ := by
  rcases x with ⟨frame, id, pose, ⟨ref, gltf⟩ | solid⟩
  · exact absurd trivial h
  · trivial

theorem Answered.records (σ : Data R) {x : FetchItem R} (h : x.Answered) : x.Records σ := by
  rcases x with ⟨frame, id, pose, ⟨ref, _ | data⟩ | solid⟩
  · exact h.elim
  · exact .inr (by simp [suppliedGltf])
  · trivial

end FetchItem

theorem fetchItem_renderables (σ : Data R) (x : FetchItem R) (m : Name) :
    (fetchItem σ x).renderablesCollision.lookup m =
      (σ.renderablesCollision.lookup m).or (x.suppliedGltf m) := by
  rcases x with ⟨frame, id, pose, ⟨ref, _ | data⟩ | solid⟩
  · simp only [fetchItem, FetchItem.suppliedGltf, Option.or_none]
    split_ifs <;> rfl
  · simp only [fetchItem, FetchItem.suppliedGltf]
    split_ifs with hid hm hm
    · obtain ⟨b, hb⟩ := Finmap.mem_iff.mp hid
      subst hm
      simp [hb]
    · simp
    · simp [Data.emplace_renderables, hm]
    · simp [Data.emplace_renderables, Ne.symm hm]
  · simp [fetchItem, FetchItem.suppliedGltf]

theorem fetchItem_primitives (σ : Data R) (x : FetchItem R) (m : Name) :
    (fetchItem σ x).primitivesCollision.lookup m =
      (x.suppliedSolid m).or (σ.primitivesCollision.lookup m) := by
  rcases x with ⟨frame, id, pose, ⟨ref, _ | data⟩ | solid⟩
  · simp only [fetchItem, FetchItem.suppliedSolid, Option.none_or]
    split_ifs <;> rfl
  · simp only [fetchItem, FetchItem.suppliedSolid, Option.none_or]
    split_ifs <;> simp
  · simp only [fetchItem, FetchItem.suppliedSolid, Data.recordPrimitive_primitives]
    by_cases hm : m = id
    · simp [hm]
    · simp [hm, Ne.symm hm]

/-- An item that records is a `record` on a state with the same frames and poses. -/
theorem fetchItem_eq_record {σ : Data R} {x : FetchItem R} (h : x.Records σ) :
    ∃ τ : Data R, τ.collisionTfFrameToMeshIds = σ.collisionTfFrameToMeshIds ∧
      τ.relativeMeshPose = σ.relativeMeshPose ∧ fetchItem σ x = τ.record x.frame x.id x.pose := by
  rcases x with ⟨frame, id, pose, ⟨ref, gltf⟩ | solid⟩
  · by_cases hid : id ∈ σ.renderablesCollision
    · exact ⟨σ, rfl, rfl, by simp [fetchItem, hid]⟩
    · rcases gltf with e | data
      · simp [FetchItem.Records, FetchItem.suppliedGltf, hid] at h
      · exact ⟨σ.emplace id data, by simp, by simp, by simp [fetchItem, hid]⟩
  · exact ⟨{ σ with primitivesCollision := σ.primitivesCollision.insert id solid }, rfl, rfl, rfl⟩

theorem fetchItem_pose {σ : Data R} {x : FetchItem R} (h : x.Records σ) (m : Name) :
    (fetchItem σ x).relativeMeshPose.lookup m =
      (x.suppliedPose m).or (σ.relativeMeshPose.lookup m) := by
  obtain ⟨τ, -, hp, he⟩ := fetchItem_eq_record h
  rw [he, Data.record_pose, hp, FetchItem.suppliedPose]
  by_cases hm : m = x.id
  · simp [hm]
  · simp [hm, Ne.symm hm]

theorem fetchItem_tracked {σ : Data R} {x : FetchItem R} (h : x.Records σ) (f : Name) :
    (fetchItem σ x).Tracked f ↔ x.frame = f ∨ σ.Tracked f := by
  obtain ⟨τ, hf, -, he⟩ := fetchItem_eq_record h
  rw [he, Data.record_tracked, Data.Tracked, hf, Data.Tracked, eq_comm (a := f)]

theorem fetchItem_meshIds {σ : Data R} {x : FetchItem R} (h : x.Records σ) (f m : Name) :
    m ∈ (fetchItem σ x).meshIds f ↔ (x.frame = f ∧ x.id = m) ∨ m ∈ σ.meshIds f := by
  obtain ⟨τ, hf, -, he⟩ := fetchItem_eq_record h
  have hids : τ.meshIds f = σ.meshIds f := by rw [Data.meshIds, hf, Data.meshIds]
  rw [he, Data.record_meshIds, hids]
  split_ifs with h1
  · simp [h1, eq_comm]
  · simp [Ne.symm h1]

/-! ### What a whole fetch does -/

/-- No `GetGltf` call of the fetch fails: a mesh has bytes from before, or is
fetched, or an earlier item has brought bytes for its id. -/
def Retrieved (σ : Data R) (xs : List (FetchItem R)) : Prop :=
  ∀ pre x post, xs = pre ++ x :: post →
    x.Records σ ∨ ∃ y ∈ pre, (y.suppliedGltf x.id).isSome

theorem records_fetchItem (σ : Data R) (x y : FetchItem R) :
    y.Records (fetchItem σ x) ↔ y.Records σ ∨ (y.shape.isMesh ∧ (x.suppliedGltf y.id).isSome) := by
  rcases y with ⟨frame, id, pose, ⟨ref, gltf⟩ | solid⟩
  · simp only [FetchItem.Records, ItemShape.isMesh, true_and, ← Finmap.lookup_isSome,
      fetchItem_renderables, Option.isSome_or, Bool.or_eq_true]
    tauto
  · simp [FetchItem.Records]

theorem retrieved_cons (σ : Data R) (x : FetchItem R) (xs : List (FetchItem R)) :
    Retrieved σ (x :: xs) ↔ x.Records σ ∧ Retrieved (fetchItem σ x) xs := by
  constructor
  · intro h
    refine ⟨by simpa using h [] x xs rfl, fun pre y post he => ?_⟩
    rw [records_fetchItem]
    rcases h (x :: pre) y post (by rw [he]; rfl) with hy | ⟨z, hz, hs⟩
    · exact .inl (.inl hy)
    · rcases List.mem_cons.mp hz with rfl | hz
      · by_cases hm : y.shape.isMesh
        · exact .inl (.inr ⟨hm, hs⟩)
        · exact .inl (.inl (FetchItem.records_of_not_isMesh σ hm))
      · exact .inr ⟨z, hz, hs⟩
  · rintro ⟨hx, hxs⟩ pre y post he
    cases pre with
    | nil =>
      obtain ⟨rfl, rfl⟩ : x = y ∧ xs = post := by simpa using he
      exact .inl hx
    | cons z pre =>
      obtain ⟨rfl, rfl⟩ : x = z ∧ xs = pre ++ y :: post := by simpa using he
      rcases hxs pre y post rfl with hy | ⟨w, hw, hs⟩
      · rcases (records_fetchItem σ x y).mp hy with hy | ⟨-, hs⟩
        · exact .inl hy
        · exact .inr ⟨x, by simp, hs⟩
      · exact .inr ⟨w, by simp [hw], hs⟩

theorem retrieved_of_answered (σ : Data R) {xs : List (FetchItem R)} (h : ∀ x ∈ xs, x.Answered) :
    Retrieved σ xs :=
  fun pre x post he => .inl ((h x (by simp [he])).records σ)

/-- The bytes under an id after a fetch: those from before, or the first retrieved. -/
def heldGltf (σ : Data R) (xs : List (FetchItem R)) (m : Name) : Option Bytes :=
  (σ.renderablesCollision.lookup m).or (xs.findSome? (·.suppliedGltf m))

/-- The last primitive the items bring for an id. -/
def lastSolid (xs : List (FetchItem R)) (m : Name) : Option (SolidPrimitive R) :=
  xs.reverse.findSome? (·.suppliedSolid m)

/-- The last pose the items bring for an id. -/
def lastPose (xs : List (FetchItem R)) (m : Name) : Option (Pose R) :=
  xs.reverse.findSome? (·.suppliedPose m)

theorem lastSolid_cons (x : FetchItem R) (xs : List (FetchItem R)) (m : Name) :
    lastSolid (x :: xs) m = (lastSolid xs m).or (x.suppliedSolid m) := by
  simp only [lastSolid, List.reverse_cons, List.findSome?_append, List.findSome?_singleton]

theorem lastPose_cons (x : FetchItem R) (xs : List (FetchItem R)) (m : Name) :
    lastPose (x :: xs) m = (lastPose xs m).or (x.suppliedPose m) := by
  simp only [lastPose, List.reverse_cons, List.findSome?_append, List.findSome?_singleton]

theorem fetchItems_renderables (σ : Data R) (xs : List (FetchItem R)) (m : Name) :
    (fetchItems σ xs).renderablesCollision.lookup m = heldGltf σ xs m := by
  induction xs generalizing σ with
  | nil => simp [fetchItems, heldGltf]
  | cons x xs ih =>
    rw [show fetchItems σ (x :: xs) = fetchItems (fetchItem σ x) xs from rfl, ih, heldGltf,
      fetchItem_renderables, Option.or_assoc, heldGltf, List.findSome?_cons]
    cases x.suppliedGltf m <;> simp

theorem fetchItems_primitives (σ : Data R) (xs : List (FetchItem R)) (m : Name) :
    (fetchItems σ xs).primitivesCollision.lookup m =
      (lastSolid xs m).or (σ.primitivesCollision.lookup m) := by
  induction xs generalizing σ with
  | nil => simp [fetchItems, lastSolid]
  | cons x xs ih =>
    rw [show fetchItems σ (x :: xs) = fetchItems (fetchItem σ x) xs from rfl, ih,
      fetchItem_primitives, lastSolid_cons, Option.or_assoc]

section Retrieved
variable {σ : Data R} {xs : List (FetchItem R)} (h : Retrieved σ xs)
include h

theorem fetchItems_pose (m : Name) : (fetchItems σ xs).relativeMeshPose.lookup m =
    (lastPose xs m).or (σ.relativeMeshPose.lookup m) := by
  induction xs generalizing σ with
  | nil => simp [fetchItems, lastPose]
  | cons x xs ih =>
    obtain ⟨hx, hxs⟩ := (retrieved_cons σ x xs).mp h
    rw [show fetchItems σ (x :: xs) = fetchItems (fetchItem σ x) xs from rfl, ih hxs,
      fetchItem_pose hx, lastPose_cons, Option.or_assoc]

theorem fetchItems_tracked (f : Name) :
    (fetchItems σ xs).Tracked f ↔ σ.Tracked f ∨ ∃ x ∈ xs, x.frame = f := by
  induction xs generalizing σ with
  | nil => simp [fetchItems]
  | cons x xs ih =>
    obtain ⟨hx, hxs⟩ := (retrieved_cons σ x xs).mp h
    rw [show fetchItems σ (x :: xs) = fetchItems (fetchItem σ x) xs from rfl, ih hxs,
      fetchItem_tracked hx]
    simp only [List.mem_cons, exists_eq_or_imp]
    tauto

theorem fetchItems_meshIds (f m : Name) :
    m ∈ (fetchItems σ xs).meshIds f ↔ m ∈ σ.meshIds f ∨ ∃ x ∈ xs, x.frame = f ∧ x.id = m := by
  induction xs generalizing σ with
  | nil => simp [fetchItems]
  | cons x xs ih =>
    obtain ⟨hx, hxs⟩ := (retrieved_cons σ x xs).mp h
    rw [show fetchItems σ (x :: xs) = fetchItems (fetchItem σ x) xs from rfl, ih hxs,
      fetchItem_meshIds hx]
    simp only [List.mem_cons, exists_eq_or_imp]
    tauto

end Retrieved

/-! ### A small World for concrete cases -/

namespace Sample

/-- Every nonempty file decodes to one triangle; `sqrt` and `acos` are right at the
ends of their ranges. -/
def library : Library ℚ where
  rotationQuaternion _ := ⟨0, 0, 0, 1⟩
  createMeshFromBinary data :=
    if data = [] then none else some ⟨3, fun i => i, 1, fun i => i⟩
  sqrt x := x
  acos x := 1 - x
  rounding := .nearestEven

/-- An object with one entity, `whole`, that has one geometry, `inner`. -/
def object (name : Name) (geometry : Geometry ℚ) : WorldObject ℚ where
  name
  entities := [{
    name := "whole".toList
    geometryComponent :=
      some [(intrinsicCollision, [("inner".toList, ⟨none, geometry⟩)])] }]

def boxGeometry (size : ℚ) : Geometry ℚ :=
  .inlineGeometryData (some (.primitiveSet [⟨some (.box ⟨size, size, size⟩)⟩]))

def meshGeometry (ref : Name) : Geometry ℚ := .geoRef ⟨ref, ref⟩

/-- A World that holds `objects`, and for which every reference is its own file. -/
def client (objects : List (WorldObject ℚ)) : WorldClient ℚ where
  getObjects
    | none => .ok objects
    | some names => .ok (objects.filter fun o => names.contains o.name)
  getGltf _ ref := .ok (ref.exactGeometryRef.map fun c => c.toNat.toUInt8)

/-- A transform with the given child frame. -/
def transform (frame : Name) : TransformStamped ℚ :=
  ⟨"world".toList, frame, ⟨0, 0, 0⟩, ⟨0, 0, 0, 1⟩⟩

end Sample

end MoveitPlanning.Scene
