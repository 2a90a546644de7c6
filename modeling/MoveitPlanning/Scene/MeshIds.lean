import MoveitPlanning.Scene.Refetch
import MoveitPlanning.Scene.FrameIds

/-! What a first fetch makes of the geometries of the World. Bytes, primitives and poses
are kept under a string made of the frame and the inner name, and of the position of a
primitive in a set of several. The string does not always tell two geometries apart: a
name may look like that of a primitive of another set, and a slash in a name may move
from the entity to the geometry. Each frame is published with exactly its own shapes when
geometries with one string belong to different frames and have the same shape. -/

namespace MoveitPlanning.Scene

open Foundation
open scoped List

variable {R : Type*}

/-! ### Shapes -/

/-- The bytes of a mesh, or a primitive with its dimensions. -/
inductive GeometryShape (R : Type*)
  | mesh (gltf : Bytes)
  | primitive (solid : SolidPrimitive R)
  deriving DecidableEq

def GeometryShape.gltf? : GeometryShape R → Option Bytes
  | .mesh gltf => some gltf
  | .primitive _ => none

def GeometryShape.solid? : GeometryShape R → Option (SolidPrimitive R)
  | .mesh _ => none
  | .primitive solid => some solid

def ShapeEntry.shape : ShapeEntry R → GeometryShape R
  | .gltfMesh data _ => .mesh data
  | .primitive solid _ => .primitive solid

/-- The shape the World has for the item, `none` where `GetGltf` fails. -/
def FetchItem.ownShape (x : FetchItem R) : Option (GeometryShape R) :=
  match x.shape with
  | .mesh _ (.ok gltf) => some (.mesh gltf)
  | .mesh _ (.error _) => none
  | .primitive solid => some (.primitive solid)

/-- The shape the snapshot takes under an id. -/
def entryShape (σ : Data R) (m : Name) : Option (GeometryShape R) := (shapeEntry σ m).map ShapeEntry.shape

/-- The shapes of the frame's ADD, each with the id it is taken under. -/
def publishedShapes (ord : IterOrder Name) (σ : Data R) (f : Name) : List (Name × GeometryShape R) :=
  (ord.visit (σ.meshIds f)).filterMap fun m => (entryShape σ m).map fun shape => (m, shape)

/-- The shapes the World has for the frame, each with the id of its geometry. -/
def ownShapes (xs : List (FetchItem R)) (f : Name) : List (Name × GeometryShape R) :=
  (xs.filter fun x => x.frame = f).filterMap fun x => x.ownShape.map fun shape => (x.id, shape)

/-- Nothing is tracked and no shape is kept. -/
structure Data.Empty (σ : Data R) : Prop where
  frames : σ.collisionTfFrameToMeshIds = ∅
  renderables : σ.renderablesCollision = ∅
  primitives : σ.primitivesCollision = ∅

/-- The frame's ADD has a shape for each geometry of the frame, that of the geometry, and
no other: every mesh decodes, and the shapes are the World's. -/
structure PublishesOwn (lib : Library R) (ord : IterOrder Name) (σ' : Data R) (xs : List (FetchItem R))
    (f : Name) (msg : CollisionObject R) : Prop where
  add : msg.operation = .add
  meshes : msg.meshes.map some = ((publishedShapes ord σ' f).filterMap fun p => p.2.gltf?).map fun gltf =>
    (lib.createMeshFromBinary gltf).map ShapesMesh.toMesh
  primitives : msg.primitives = (publishedShapes ord σ' f).filterMap fun p => p.2.solid?
  own : publishedShapes ord σ' f ~ ownShapes xs f

/-- Geometries that share a mesh id are in different frames, and have the same shape. -/
def SeparateIds (xs : List (FetchItem R)) : Prop :=
  xs.Pairwise fun x y => x.id = y.id → x.frame ≠ y.frame ∧ x.ownShape = y.ownShape

/-- Every mesh the World has decodes. -/
def Decodes (lib : Library R) (xs : List (FetchItem R)) : Prop :=
  ∀ x ∈ xs, ∀ gltf ∈ x.ownShape.bind GeometryShape.gltf?, (lib.createMeshFromBinary gltf).isSome

/-! ### Mesh ids -/

/-- What the id of a primitive adds to the inner name. -/
def primSuffix (primitivesSize i : ℕ) : Name :=
  if primitivesSize > 1 then "_prim_".toList ++ Nat.toDigits 10 i else []

theorem primId_collisionMeshId (frame innerName : Name) (primitivesSize i : ℕ) :
    primId (collisionMeshId frame innerName) primitivesSize i =
      collisionMeshId frame (innerName ++ primSuffix primitivesSize i) := by
  unfold primId primSuffix
  split_ifs <;> simp [collisionMeshId]

/-- Which names share an id: the short name of the object is read off, but not where the
entity ends and the geometry begins. -/
theorem collisionMeshId_eq_iff (cfg : Config R) {s s' : Name} (hs : '/' ∉ s) (hs' : '/' ∉ s')
    (e e' label label' : Name) :
    collisionMeshId (cfg.tfFrameName s e) label = collisionMeshId (cfg.tfFrameName s' e') label' ↔
      s = s' ∧ e ++ '/' :: label = e' ++ '/' :: label' := by
  have hframe : ∀ s e label, collisionMeshId (cfg.tfFrameName s e) label =
      '/' :: cfg.tfFrameName s (e ++ '/' :: label) := fun s e label => by
    simp [collisionMeshId, Config.tfFrameName]
  rw [hframe, hframe, List.cons_inj_right]
  constructor
  · intro h
    have hparse : Parses cfg (cfg.tfFrameName s (e ++ '/' :: label)) s (e ++ '/' :: label) := ⟨rfl, hs⟩
    exact hparse.unique ⟨h, hs'⟩
  · rintro ⟨rfl, hname⟩
    rw [hname]

/-! ### What is kept under an id -/

theorem FetchItem.suppliedGltf_eq_some {x : FetchItem R} {m : Name} {gltf : Bytes} :
    x.suppliedGltf m = some gltf ↔ x.id = m ∧ x.ownShape = some (.mesh gltf) := by
  rcases x with ⟨frame, id, pose, ⟨ref, _ | data⟩ | solid⟩ <;>
    simp [FetchItem.suppliedGltf, FetchItem.ownShape]

theorem FetchItem.suppliedSolid_eq_some {x : FetchItem R} {m : Name} {solid : SolidPrimitive R} :
    x.suppliedSolid m = some solid ↔ x.id = m ∧ x.ownShape = some (.primitive solid) := by
  rcases x with ⟨frame, id, pose, ⟨ref, _ | data⟩ | solid'⟩ <;>
    simp [FetchItem.suppliedSolid, FetchItem.ownShape]

theorem FetchItem.Answered.exists_ownShape {x : FetchItem R} (h : x.Answered) :
    ∃ shape, x.ownShape = some shape := by
  rcases x with ⟨frame, id, pose, ⟨ref, _ | data⟩ | solid⟩
  · exact h.elim
  · exact ⟨_, rfl⟩
  · exact ⟨_, rfl⟩

section Kept
variable {σ : Data R} {xs : List (FetchItem R)}

/-- Under the id of an item the bytes that came first hide the primitive that came last. -/
theorem entryShape_fetchItems (hempty : σ.Empty) (hr : Retrieved σ xs) {x : FetchItem R} (hx : x ∈ xs) :
    entryShape (fetchItems σ xs) x.id =
      ((xs.findSome? (·.suppliedGltf x.id)).map GeometryShape.mesh).or
        ((lastSolid xs x.id).map GeometryShape.primitive) := by
  obtain ⟨pose, hpose⟩ : ∃ pose, lastPose xs x.id = some pose := by
    rw [← Option.isSome_iff_exists, lastPose, List.findSome?_isSome_iff]
    exact ⟨x, List.mem_reverse.mpr hx, by simp [FetchItem.suppliedPose]⟩
  rw [entryShape, shapeEntry_fetchItems hr, hpose, heldGltf, hempty.renderables, hempty.primitives,
    Finmap.lookup_empty, Finmap.lookup_empty, Option.none_or, Option.or_none]
  cases xs.findSome? (·.suppliedGltf x.id) with
  | some gltf => rfl
  | none => cases lastSolid xs x.id <;> rfl

/-- What is kept under an id is the shape of one of its geometries. -/
theorem exists_ownShape_of_entryShape (hempty : σ.Empty) (hr : Retrieved σ xs) {x : FetchItem R} (hx : x ∈ xs)
    {shape : GeometryShape R} (h : entryShape (fetchItems σ xs) x.id = some shape) :
    ∃ y ∈ xs, y.id = x.id ∧ y.ownShape = some shape := by
  rw [entryShape_fetchItems hempty hr hx, Option.or_eq_some_iff, Option.map_eq_some_iff] at h
  rcases h with ⟨gltf, hfind, rfl⟩ | ⟨-, h⟩
  · obtain ⟨y, hy, hsupplied⟩ := List.exists_of_findSome?_eq_some hfind
    exact ⟨y, hy, FetchItem.suppliedGltf_eq_some.mp hsupplied⟩
  · obtain ⟨solid, hfind, rfl⟩ := Option.map_eq_some_iff.mp h
    obtain ⟨y, hy, hsupplied⟩ := List.exists_of_findSome?_eq_some hfind
    exact ⟨y, List.mem_reverse.mp hy, FetchItem.suppliedSolid_eq_some.mp hsupplied⟩

/-- Where the geometries of an id agree on the shape, it is what is kept. -/
theorem entryShape_of_agree (hempty : σ.Empty) (hr : Retrieved σ xs) {x : FetchItem R} (hx : x ∈ xs)
    {shape : GeometryShape R} (hshape : x.ownShape = some shape)
    (hagree : ∀ y ∈ xs, y.id = x.id → y.ownShape = x.ownShape) :
    entryShape (fetchItems σ xs) x.id = some shape := by
  have hsome : (entryShape (fetchItems σ xs) x.id).isSome := by
    rw [entryShape_fetchItems hempty hr hx, Option.isSome_or, Bool.or_eq_true, Option.isSome_map,
      Option.isSome_map, lastSolid, List.findSome?_isSome_iff, List.findSome?_isSome_iff]
    cases shape with
    | mesh gltf =>
      exact .inl ⟨x, hx, by rw [FetchItem.suppliedGltf_eq_some.mpr ⟨rfl, hshape⟩]; rfl⟩
    | primitive solid =>
      exact .inr ⟨x, List.mem_reverse.mpr hx, by rw [FetchItem.suppliedSolid_eq_some.mpr ⟨rfl, hshape⟩]; rfl⟩
  obtain ⟨kept, hkept⟩ := Option.isSome_iff_exists.mp hsome
  obtain ⟨y, hy, hid, hown⟩ := exists_ownShape_of_entryShape hempty hr hx hkept
  rw [hkept, ← hown, hagree y hy hid, hshape]

end Kept

/-! ### What an ADD has -/

section Message
variable (lib : Library R) (ord : IterOrder Name) (now : ℤ) (σ : Data R) (f : Name)

theorem addMessage_primitives [Zero R] [One R] : (addMessage lib now ord σ f).primitives =
    (publishedShapes ord σ f).filterMap fun p => p.2.solid? := by
  show (((ord.visit (σ.meshIds f)).filterMap (shapeEntry σ)).filterMap ShapeEntry.primitive?).map Prod.fst = _
  rw [publishedShapes, List.filterMap_filterMap, List.filterMap_filterMap, List.map_filterMap]
  refine List.filterMap_congr fun m _ => ?_
  rw [entryShape]
  rcases shapeEntry σ m with _ | (_ | _) <;> rfl

theorem addMessage_meshes [Zero R] [One R] : (addMessage lib now ord σ f).meshes =
    ((publishedShapes ord σ f).filterMap fun p => p.2.gltf?).filterMap fun gltf =>
      (lib.createMeshFromBinary gltf).map ShapesMesh.toMesh := by
  show ((((ord.visit (σ.meshIds f)).filterMap (shapeEntry σ)).filterMap ShapeEntry.gltfMesh?).filterMap
    (decodedMesh lib)).map Prod.fst = _
  rw [publishedShapes, List.filterMap_filterMap, List.filterMap_filterMap, List.filterMap_filterMap,
    List.filterMap_filterMap, List.map_filterMap]
  refine List.filterMap_congr fun m _ => ?_
  rw [entryShape]
  rcases shapeEntry σ m with _ | (⟨data, pose⟩ | _)
  · rfl
  · simp only [ShapeEntry.gltfMesh?, ShapeEntry.shape, GeometryShape.gltf?, decodedMesh, Option.map_some,
      Option.bind_some]
    cases lib.createMeshFromBinary data <;> rfl
  · rfl

theorem publishedShapes_nodup : ((publishedShapes ord σ f).map Prod.fst).Nodup := by
  refine (ord.nodup (σ.meshIds f)).sublist ?_
  rw [publishedShapes, List.map_filterMap]
  have hself : ∀ m : Name, (((entryShape σ m).map fun shape => (m, shape)).map Prod.fst) =
      Option.guard (fun m => (entryShape σ m).isSome) m := fun m => by
    cases h : entryShape σ m <;> simp [Option.guard, h]
  simp only [hself]
  rw [List.filterMap_eq_filter]
  exact List.filter_sublist

theorem mem_publishedShapes {m : Name} {shape : GeometryShape R} :
    (m, shape) ∈ publishedShapes ord σ f ↔ m ∈ σ.meshIds f ∧ entryShape σ m = some shape := by
  simp [publishedShapes]

end Message

/-! ### One shape for each geometry -/

section Own
variable {ord : IterOrder Name} {σ : Data R} {xs : List (FetchItem R)}

theorem Data.Empty.not_mem_meshIds (hempty : σ.Empty) (f m : Name) : m ∉ σ.meshIds f := by
  rw [Data.meshIds, hempty.frames, Finmap.lookup_empty]
  exact Finset.notMem_empty m

theorem mem_ownShapes {f m : Name} {shape : GeometryShape R} :
    (m, shape) ∈ ownShapes xs f ↔ ∃ x ∈ xs, x.frame = f ∧ x.id = m ∧ x.ownShape = some shape := by
  simp only [ownShapes, List.mem_filterMap, List.mem_filter, decide_eq_true_eq, Option.map_eq_some_iff,
    Prod.mk.injEq, and_assoc]
  constructor
  · rintro ⟨x, hx, hframe, shape', hshape, hid, rfl⟩
    exact ⟨x, hx, hframe, hid, hshape⟩
  · rintro ⟨x, hx, hframe, hid, hshape⟩
    exact ⟨x, hx, hframe, shape, hshape, hid, rfl⟩

theorem ownShapes_map_fst (hget : ∀ x ∈ xs, x.Answered) (f : Name) :
    (ownShapes xs f).map Prod.fst = (xs.filter fun x => x.frame = f).map fun x => x.id := by
  rw [ownShapes, List.map_filterMap, ← List.filterMap_eq_map]
  refine List.filterMap_congr fun x hx => ?_
  obtain ⟨shape, hshape⟩ := (hget x (List.mem_of_mem_filter hx)).exists_ownShape
  rw [hshape]
  rfl

theorem SeparateIds.agree (h : SeparateIds xs) {x y : FetchItem R} (hx : x ∈ xs) (hy : y ∈ xs)
    (hid : y.id = x.id) : y.ownShape = x.ownShape := by
  have hagree : xs.Pairwise fun x y => x.id = y.id → x.ownShape = y.ownShape :=
    h.imp fun hxy hid => (hxy hid).2
  have hsymm : Std.Symm fun x y : FetchItem R => x.id = y.id → x.ownShape = y.ownShape :=
    ⟨fun x y hxy hid => (hxy hid.symm).symm⟩
  exact List.Pairwise.forall_of_forall (fun _ _ _ => rfl) hagree hy hx hid

variable (ord) in
/-- The frames of the items are published with their own shapes exactly when the ids are
separate. -/
theorem published_perm_own_iff (hempty : σ.Empty) (hget : ∀ x ∈ xs, x.Answered) :
    (∀ x ∈ xs, publishedShapes ord (fetchItems σ xs) x.frame ~ ownShapes xs x.frame) ↔ SeparateIds xs := by
  have hr : Retrieved σ xs := retrieved_of_answered σ hget
  have hids : ∀ f m, m ∈ (fetchItems σ xs).meshIds f ↔ ∃ x ∈ xs, x.frame = f ∧ x.id = m := fun f m => by
    rw [fetchItems_meshIds hr, or_iff_right (hempty.not_mem_meshIds f m)]
  constructor
  · intro hperm
    have hentry : ∀ x ∈ xs, entryShape (fetchItems σ xs) x.id = x.ownShape := fun x hx => by
      obtain ⟨shape, hshape⟩ := (hget x hx).exists_ownShape
      have hmem := (hperm x hx).mem_iff.mpr (mem_ownShapes.mpr ⟨x, hx, rfl, rfl, hshape⟩)
      rw [hshape, ((mem_publishedShapes ord _ _).mp hmem).2]
    refine List.pairwise_iff_forall_sublist.mpr fun {x y} hsub hid => ?_
    have hx : x ∈ xs := hsub.subset (by simp)
    have hy : y ∈ xs := hsub.subset (by simp)
    refine ⟨fun hframe => ?_, by rw [← hentry x hx, hid, hentry y hy]⟩
    -- the ids of one frame are published once each
    have hnodup : ((xs.filter fun z => z.frame = x.frame).map fun z => z.id).Nodup := by
      rw [← ownShapes_map_fst hget]
      exact ((hperm x hx).map Prod.fst).nodup (publishedShapes_nodup ord _ _)
    have hpair : [x, y] <+ xs.filter fun z => z.frame = x.frame := by
      simpa [hframe] using hsub.filter fun z => decide (z.frame = x.frame)
    exact List.pairwise_iff_forall_sublist.mp (List.pairwise_map.mp hnodup) hpair hid
  · intro hsep x hx
    have hnodup : ((xs.filter fun z => z.frame = x.frame).map fun z => z.id).Nodup := by
      refine List.pairwise_map.mpr ((hsep.filter _).imp_of_mem fun hy hz hyz hid => ?_)
      exact (hyz hid).1 ((of_decide_eq_true (List.mem_filter.mp hy).2).trans
        (of_decide_eq_true (List.mem_filter.mp hz).2).symm)
    have hvisit : ord.visit ((fetchItems σ xs).meshIds x.frame) ~
        (xs.filter fun z => z.frame = x.frame).map fun z => z.id := by
      refine (List.perm_ext_iff_of_nodup (ord.nodup _) hnodup).mpr fun m => ?_
      simp [hids, and_assoc]
    have hown : ((xs.filter fun z => z.frame = x.frame).map fun z => z.id).filterMap
        (fun m => (entryShape (fetchItems σ xs) m).map fun shape => (m, shape)) = ownShapes xs x.frame := by
      rw [List.filterMap_map, ownShapes]
      refine List.filterMap_congr fun y hy => ?_
      have hmem := List.mem_of_mem_filter hy
      obtain ⟨shape, hshape⟩ := (hget y hmem).exists_ownShape
      rw [Function.comp_apply, hshape,
        entryShape_of_agree hempty hr hmem hshape fun z hz hid => hsep.agree hmem hz hid]
    rw [publishedShapes, ← hown]
    exact hvisit.filterMap _

end Own

/-! ### A first fetch -/

section Fetch
variable [Zero R] [One R] {lib : Library R} {cfg : Config R} {world : WorldClient R} {ord : IterOrder Name}
  {σ : Data R} {objects : List (WorldObject R)}

theorem filter_addCollisionObjectsToScene (now : ℤ) {f : Name} (h : σ.Tracked f) :
    (addCollisionObjectsToScene lib ord now σ none).filter (fun msg => msg.id = f) =
      [addMessage lib now ord σ f] := by
  have hmap : addCollisionObjectsToScene lib ord now σ none =
      (ord.visit σ.collisionTfFrameToMeshIds.keys).map (addMessage lib now ord σ) := by
    rw [addCollisionObjectsToScene, snapshot, framesToAdd, List.map_filterMap, ← List.filterMap_eq_map]
    refine List.filterMap_congr fun g hg => ?_
    rw [IterOrder.mem_visit, ← σ.tracked_iff_mem_keys] at hg
    rw [objectCollisionData_of_tracked hg]
    rfl
  rw [hmap, List.filter_map, ← List.map_singleton]
  congr 1
  have hself : ((fun msg : CollisionObject R => decide (msg.id = f)) ∘ addMessage lib now ord σ) =
      fun g => decide (g = f) := by
    funext g
    rfl
  have hf : f ∈ ord.visit σ.collisionTfFrameToMeshIds.keys := by
    rwa [IterOrder.mem_visit, ← σ.tracked_iff_mem_keys]
  rw [hself]
  simpa [(ord.nodup _).count, hf] using List.filter_eq (l := ord.visit σ.collisionTfFrameToMeshIds.keys) f

/-- A full fetch into an empty synchronizer is published frame by frame, each with its own
shapes and no others, exactly when no two geometries share a mesh id, or only such that
are in different frames and have the same shape. -/
theorem publishes_own_iff_separate (now : ℤ) (hempty : σ.Empty) (hresp : world.getObjects none = .ok objects)
    (hget : ∀ x ∈ fetchPlan lib cfg world.getGltf objects, x.Answered)
    (hdecode : Decodes lib (fetchPlan lib cfg world.getGltf objects)) :
    let xs := fetchPlan lib cfg world.getGltf objects
    let σ' := (fetchAndSynchronize lib cfg world none σ).2
    let msgs := addCollisionObjectsToScene lib ord now σ' none
    (∀ f, (∃ msg ∈ msgs, msg.id = f) ↔ CollisionFrame cfg objects f) ∧
      ((∀ f, CollisionFrame cfg objects f →
        ∃ msg, msgs.filter (fun msg => msg.id = f) = [msg] ∧ PublishesOwn lib ord σ' xs f msg) ↔
      SeparateIds xs) := by
  intro xs σ' msgs
  have hσ : σ' = fetchItems σ xs := by
    simp only [σ', fetchAndSynchronize_ok (σ := σ) (show world.getObjects (requestNames none) = _ from hresp), xs]
  have hr : Retrieved σ xs := retrieved_of_answered σ hget
  have htracked : ∀ f, σ'.Tracked f ↔ CollisionFrame cfg objects f := fun f => by
    rw [hσ, fetchItems_tracked hr, exists_mem_fetchPlan_frame]
    refine or_iff_right fun h => ?_
    rw [Data.Tracked, hempty.frames] at h
    exact Finmap.notMem_empty h
  refine ⟨fun f => ?_, ?_⟩
  · rw [← htracked f]
    constructor
    · rintro ⟨msg, hmsg, rfl⟩
      obtain ⟨g, -, hg, rfl⟩ := (mem_addCollisionObjectsToScene lib now none msg).mp hmsg
      exact hg
    · intro h
      have hmem := List.mem_singleton_self (addMessage lib now ord σ' f)
      rw [← filter_addCollisionObjectsToScene now h] at hmem
      exact ⟨_, (List.mem_filter.mp hmem).1, rfl⟩
  · rw [← published_perm_own_iff ord hempty hget, ← hσ]
    have hframes : ∀ f, CollisionFrame cfg objects f ↔ ∃ x ∈ xs, x.frame = f := fun f =>
      (exists_mem_fetchPlan_frame lib cfg world.getGltf objects f).symm
    constructor
    · intro h x hx
      obtain ⟨msg, -, hmsg⟩ := h x.frame ((hframes _).mpr ⟨x, hx, rfl⟩)
      exact hmsg.own
    · intro h f hf
      refine ⟨_, filter_addCollisionObjectsToScene now ((htracked f).mpr hf), rfl, ?_,
        addMessage_primitives lib ord now σ' f, ?_⟩
      · -- what is published was supplied by the World, so it decodes
        rw [addMessage_meshes, List.map_filterMap, ← List.filterMap_eq_map]
        refine List.filterMap_congr fun gltf hgltf => ?_
        obtain ⟨⟨m, shape⟩, hmem, hshape⟩ := List.mem_filterMap.mp hgltf
        obtain ⟨x, hx, rfl⟩ := (hframes f).mp hf
        obtain ⟨y, hy, -, -, hown⟩ := mem_ownShapes.mp ((h x hx).mem_iff.mp hmem)
        obtain ⟨mesh, hmesh⟩ := Option.isSome_iff_exists.mp
          (hdecode y hy gltf (by rw [hown, Option.bind_some, hshape]; exact Option.mem_some_self gltf))
        rw [Function.comp_apply, hmesh]
        rfl
      · obtain ⟨x, hx, rfl⟩ := (hframes f).mp hf
        exact h x hx

end Fetch

/-! ### Names that clash -/

namespace Sample

def entity (name : Name) (geometries : List (Name × Geometry ℚ)) : Entity ℚ where
  name
  geometryComponent := some [(intrinsicCollision, geometries.map fun (innerName, geometry) =>
    (innerName, ⟨none, geometry⟩))]

def twoBoxes (size size' : ℚ) : Geometry ℚ :=
  .inlineGeometryData (some (.primitiveSet
    [⟨some (.box ⟨size, size, size⟩)⟩, ⟨some (.box ⟨size', size', size'⟩)⟩]))

/-- A set of two boxes, and a box with the name of the first of them. -/
def lids : WorldObject ℚ where
  name := "cell".toList
  entities := [entity "box".toList
    [("lid".toList, twoBoxes 1 2), ("lid_prim_0".toList, boxGeometry 3)]]

/-- A slash that belongs to the geometry in one entity and to the name of the other. -/
def slashes : WorldObject ℚ where
  name := "cell".toList
  entities := [entity "box".toList [("left/lid".toList, boxGeometry 1)],
    entity "box/left".toList [("lid".toList, boxGeometry 2)]]

/-- Two entities with geometries of the same names. -/
def bins : WorldObject ℚ where
  name := "cell".toList
  entities := [entity "left".toList [("lid".toList, twoBoxes 1 2), ("shell".toList, meshGeometry "a".toList)],
    entity "right".toList [("lid".toList, twoBoxes 1 3), ("shell".toList, meshGeometry "b".toList)]]

end Sample

theorem Data.init_empty : (Data.init : Data R).Empty := ⟨rfl, rfl, rfl⟩

/-- A fetch of the object leaves some frame published with other shapes than its own. -/
def Sample.LosesShapes (object : WorldObject ℚ) : Prop :=
  let world := Sample.client [object]
  let xs := fetchPlan Sample.library Config.default world.getGltf [object]
  let σ' := (fetchAndSynchronize Sample.library Config.default world none (Data.init : Data ℚ)).2
  let msgs := addCollisionObjectsToScene Sample.library (.increasing Name) 0 σ' none
  world.getObjects none = .ok [object] ∧ (∀ x ∈ xs, x.Answered) ∧ Decodes Sample.library xs ∧
    ¬∀ f, CollisionFrame Config.default [object] f → ∃ msg, msgs.filter (fun msg => msg.id = f) = [msg] ∧
      PublishesOwn Sample.library (.increasing Name) σ' xs f msg

theorem Sample.losesShapes_of_clash {object : WorldObject ℚ}
    (hget : ∀ x ∈ fetchPlan Sample.library Config.default (Sample.client [object]).getGltf [object], x.Answered)
    (hdecode : Decodes Sample.library
      (fetchPlan Sample.library Config.default (Sample.client [object]).getGltf [object]))
    (hclash : ¬SeparateIds (fetchPlan Sample.library Config.default (Sample.client [object]).getGltf [object])) :
    Sample.LosesShapes object := by
  refine ⟨rfl, hget, hdecode, fun h => hclash ?_⟩
  refine (published_perm_own_iff (.increasing Name) Data.init_empty hget).mp fun x hx => ?_
  obtain ⟨msg, -, hmsg⟩ := h x.frame
    ((exists_mem_fetchPlan_frame Sample.library Config.default _ [object] _).mp ⟨x, hx, rfl⟩)
  exact hmsg.own

/-- One of three boxes is lost, and a box is published with the size of another. -/
theorem own_shapes_lost : Sample.LosesShapes Sample.lids ∧ Sample.LosesShapes Sample.slashes := by
  constructor
  · refine Sample.losesShapes_of_clash (by decide) ?_ ?_
    · unfold Decodes
      decide
    · unfold SeparateIds
      decide +kernel
  · refine Sample.losesShapes_of_clash (by decide) ?_ ?_
    · unfold Decodes
      decide
    · unfold SeparateIds
      decide +kernel

theorem publishes_own_iff_separate_bins :
    let world := Sample.client [Sample.bins]
    let xs := fetchPlan Sample.library Config.default world.getGltf [Sample.bins]
    let σ' := (fetchAndSynchronize Sample.library Config.default world none (Data.init : Data ℚ)).2
    let msgs := addCollisionObjectsToScene Sample.library (.increasing Name) 0 σ' none
    SeparateIds xs ∧ (∀ f, (∃ msg ∈ msgs, msg.id = f) ↔ CollisionFrame Config.default [Sample.bins] f) ∧
      ((∀ f, CollisionFrame Config.default [Sample.bins] f →
        ∃ msg, msgs.filter (fun msg => msg.id = f) = [msg] ∧
          PublishesOwn Sample.library (.increasing Name) σ' xs f msg) ↔ SeparateIds xs) :=
  ⟨by unfold SeparateIds; decide +kernel,
    publishes_own_iff_separate 0 Data.init_empty (by rfl) (by decide) (by unfold Decodes; decide)⟩

end MoveitPlanning.Scene
