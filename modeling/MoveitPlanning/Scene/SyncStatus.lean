import MoveitPlanning.Scene.Publish
import MoveitPlanning.Scene.FetchPlan

/-! What an OK status says. `FetchAndSynchronizeCollisionObjects` has an error for a
failed `GetObjects` and for nothing else: a mesh that cannot be fetched, a geometry of
an unsupported kind and a mesh that does not decode are logged and left out. OK
therefore means that all shapes were published exactly when none of this happened, and
no other geometry or earlier bytes stood under the same id. -/

namespace MoveitPlanning.Scene

open Foundation

variable {R : Type*}

/-- The geometry is a mesh, or primitives all of which can be converted. -/
def Geometry.Supported : Geometry R → Prop
  | .geoRef _ => True
  | .inlineGeometryData (some (.primitiveSet primitives)) =>
    primitives ≠ [] ∧ ∀ p ∈ primitives, p.solid.isSome
  | _ => False

/-- The message has the item's shape at its pose, taken from what `σ'` holds under
the item's id. -/
def FetchItem.ShownIn (lib : Library R) (σ' : Data R) (msg : CollisionObject R) (x : FetchItem R) : Prop :=
  x.id ∈ σ'.meshIds x.frame ∧ msg.operation = .add ∧ msg.id = x.frame ∧
    match x.shape with
    | .mesh _ _ => ∃ data shapeMesh, shapeEntry σ' x.id = some (.gltfMesh data x.pose) ∧
        lib.createMeshFromBinary data = some shapeMesh ∧
        (shapeMesh.toMesh, x.pose) ∈ msg.meshes.zip msg.meshPoses
    | .primitive solid => shapeEntry σ' x.id = some (.primitive solid x.pose) ∧
        (solid, x.pose) ∈ msg.primitives.zip msg.primitivePoses

/-- After the items, the id of `x` is left with the pose of `x` and with its shape: for
a mesh, bytes that decode; for a primitive, no bytes and the primitive itself. -/
def FetchItem.Publishable (lib : Library R) (σ : Data R) (xs : List (FetchItem R)) (x : FetchItem R) :
    Prop :=
  lastPose xs x.id = some x.pose ∧
    match x.shape with
    | .mesh _ _ => ∃ data, heldGltf σ xs x.id = some data ∧ (lib.createMeshFromBinary data).isSome
    | .primitive solid => heldGltf σ xs x.id = none ∧ lastSolid xs x.id = some solid

section Message
variable [Zero R] [One R] (lib : Library R) (ord : IterOrder Name) (now : ℤ) (σ : Data R) (f : Name)

theorem mem_addMessage_meshes (mesh : Mesh R) (pose : Pose R) :
    (mesh, pose) ∈ (addMessage lib now ord σ f).meshes.zip (addMessage lib now ord σ f).meshPoses ↔
      ∃ m ∈ σ.meshIds f, ∃ data shapeMesh, shapeEntry σ m = some (.gltfMesh data pose) ∧
        lib.createMeshFromBinary data = some shapeMesh ∧ mesh = shapeMesh.toMesh := by
  simp only [addMessage, toCollisionObject, List.zip_map', Prod.mk.eta, List.map_id', List.mem_filterMap,
    IterOrder.mem_visit]
  constructor
  · rintro ⟨⟨data, p⟩, ⟨entry, ⟨m, hm, he⟩, hgltf⟩, hdec⟩
    cases entry with
    | primitive solid q => simp [ShapeEntry.gltfMesh?] at hgltf
    | gltfMesh d q =>
      obtain ⟨rfl, rfl⟩ : d = data ∧ q = p := by simpa [ShapeEntry.gltfMesh?] using hgltf
      simp only [decodedMesh, Option.map_eq_some_iff, Prod.mk.injEq] at hdec
      obtain ⟨shapeMesh, hs, rfl, rfl⟩ := hdec
      exact ⟨m, hm, d, shapeMesh, he, hs, rfl⟩
  · rintro ⟨m, hm, data, shapeMesh, he, hs, rfl⟩
    exact ⟨(data, pose), ⟨_, ⟨m, hm, he⟩, rfl⟩, by simp [decodedMesh, hs]⟩

theorem mem_addMessage_primitives (solid : SolidPrimitive R) (pose : Pose R) :
    (solid, pose) ∈
        (addMessage lib now ord σ f).primitives.zip (addMessage lib now ord σ f).primitivePoses ↔
      ∃ m ∈ σ.meshIds f, shapeEntry σ m = some (.primitive solid pose) := by
  simp only [addMessage, toCollisionObject, List.zip_map', Prod.mk.eta, List.map_id', List.mem_filterMap,
    IterOrder.mem_visit]
  constructor
  · rintro ⟨entry, ⟨m, hm, he⟩, hprim⟩
    cases entry with
    | gltfMesh d q => simp [ShapeEntry.primitive?] at hprim
    | primitive s q =>
      obtain ⟨rfl, rfl⟩ : s = solid ∧ q = pose := by simpa [ShapeEntry.primitive?] using hprim
      exact ⟨m, hm, he⟩
  · rintro ⟨m, hm, he⟩
    exact ⟨_, ⟨m, hm, he⟩, rfl⟩

/-- Some ADD of a pass over all frames shows the item exactly when the item's id is
recorded for its frame with the item's pose and shape. -/
theorem exists_shownIn_iff (x : FetchItem R) (hid : x.id ∈ σ.meshIds x.frame) :
    (∃ msg ∈ addCollisionObjectsToScene lib ord now σ none, x.ShownIn lib σ msg) ↔
      match x.shape with
      | .mesh _ _ => ∃ data, shapeEntry σ x.id = some (.gltfMesh data x.pose) ∧
          (lib.createMeshFromBinary data).isSome
      | .primitive solid => shapeEntry σ x.id = some (.primitive solid x.pose) := by
  have ht := Data.tracked_of_mem_meshIds hid
  have hmsg : addMessage lib now ord σ x.frame ∈ addCollisionObjectsToScene lib ord now σ none :=
    (mem_addCollisionObjectsToScene lib now none _).mpr
      ⟨x.frame, (mem_framesToAdd ord x.frame none ht).mpr (by simp), ht, rfl⟩
  rcases x with ⟨frame, id, pose, ⟨ref, gltf⟩ | solid⟩
  · constructor
    · rintro ⟨msg, -, -, -, -, data, shapeMesh, he, hs, -⟩
      exact ⟨data, he, by simp [hs]⟩
    · rintro ⟨data, he, hs⟩
      obtain ⟨shapeMesh, hs⟩ := Option.isSome_iff_exists.mp hs
      exact ⟨_, hmsg, hid, rfl, rfl, data, shapeMesh, he, hs,
        (mem_addMessage_meshes lib ord now σ frame _ _).mpr ⟨id, hid, data, shapeMesh, he, hs, rfl⟩⟩
  · constructor
    · rintro ⟨msg, -, -, -, -, he, -⟩
      exact he
    · intro he
      exact ⟨_, hmsg, hid, rfl, rfl, he,
        (mem_addMessage_primitives lib ord now σ frame _ _).mpr ⟨id, hid, he⟩⟩

end Message

/-! ### A fetch and the pass after it -/

theorem exists_lastPose {xs : List (FetchItem R)} {x : FetchItem R} (hx : x ∈ xs) :
    ∃ pose, lastPose xs x.id = some pose := by
  rw [← Option.isSome_iff_exists, lastPose, List.findSome?_isSome_iff]
  exact ⟨x, List.mem_reverse.mpr hx, by simp [FetchItem.suppliedPose]⟩

theorem exists_lastSolid {xs : List (FetchItem R)} {x : FetchItem R} (hx : x ∈ xs)
    {solid : SolidPrimitive R} (hs : x.shape = .primitive solid) : ∃ s, lastSolid xs x.id = some s := by
  rw [← Option.isSome_iff_exists, lastSolid, List.findSome?_isSome_iff]
  exact ⟨x, List.mem_reverse.mpr hx, by simp [FetchItem.suppliedSolid, hs]⟩

theorem shownIn_iff_publishable [Zero R] [One R] {lib : Library R} {ord : IterOrder Name} {now : ℤ}
    {σ : Data R} {xs : List (FetchItem R)} (hr : Retrieved σ xs) {x : FetchItem R} (hx : x ∈ xs) :
    (∃ msg ∈ addCollisionObjectsToScene lib ord now (fetchItems σ xs) none,
        x.ShownIn lib (fetchItems σ xs) msg) ↔ x.Publishable lib σ xs := by
  have hid : x.id ∈ (fetchItems σ xs).meshIds x.frame :=
    (fetchItems_meshIds hr _ _).mpr (.inr ⟨x, hx, rfl, rfl⟩)
  obtain ⟨pose, hpose⟩ := exists_lastPose hx
  rw [exists_shownIn_iff lib ord now _ x hid, shapeEntry_fetchItems hr, FetchItem.Publishable, hpose]
  cases hshape : x.shape with
  | mesh ref gltf =>
    cases hheld : heldGltf σ xs x.id with
    | some data =>
      simp only [Option.some_or, Option.bind_some, Option.some.injEq, ShapeEntry.gltfMesh.injEq]
      constructor
      · rintro ⟨_, ⟨rfl, rfl⟩, hdec⟩
        exact ⟨rfl, _, rfl, hdec⟩
      · rintro ⟨rfl, _, rfl, hdec⟩
        exact ⟨_, ⟨rfl, rfl⟩, hdec⟩
    | none =>
      simp only [Option.some_or, Option.bind_some, Option.map_eq_some_iff, reduceCtorEq, and_false,
        exists_false, false_and]
  | primitive solid =>
    obtain ⟨s, hs⟩ := exists_lastSolid hx hshape
    cases hheld : heldGltf σ xs x.id with
    | some data => simp
    | none => simp [hs, and_comm]

section Status
variable [Zero R] [One R] (lib : Library R) (cfg : Config R) (world : WorldClient R) (ord : IterOrder Name)
  (now : ℤ) (σ : Data R)

/-- An OK status means that every collision geometry of the World's objects could be
fetched, is supported, and is shown by an ADD of the call. -/
def OkMeansPublished : Prop :=
  let (status, σ', msgs) := fetchAndSynchronizeCollisionObjects lib ord now cfg world none σ
  status = .ok () → ∀ objects, world.getObjects none = .ok objects →
    let xs := fetchPlan lib cfg world.getGltf objects
    Retrieved σ xs ∧ (∀ g ∈ collisionGeometries lib cfg objects, g.geometry.Supported) ∧
      ∀ x ∈ xs, ∃ msg ∈ msgs, x.ShownIn lib σ' msg

/-- OK means that everything was published exactly when no geometry of the response
fails in one of the ways that are passed over. -/
theorem okMeansPublished_iff :
    OkMeansPublished lib cfg world ord now σ ↔ ∀ objects, world.getObjects none = .ok objects →
      let xs := fetchPlan lib cfg world.getGltf objects
      Retrieved σ xs ∧ (∀ g ∈ collisionGeometries lib cfg objects, g.geometry.Supported) ∧
        ∀ x ∈ xs, x.Publishable lib σ xs := by
  cases hresp : world.getObjects none with
  | error e => simp [OkMeansPublished, fetchAndSynchronizeCollisionObjects, fetchAndSynchronize, requestNames, hresp]
  | ok objects =>
    have hcall : fetchAndSynchronizeCollisionObjects lib ord now cfg world none σ =
        (.ok (), fetchItems σ (fetchPlan lib cfg world.getGltf objects),
          addCollisionObjectsToScene lib ord now
            (fetchItems σ (fetchPlan lib cfg world.getGltf objects)) none) := by
      simp only [fetchAndSynchronizeCollisionObjects, fetchAndSynchronize, requestNames, hresp]
    simp only [OkMeansPublished, hcall, hresp, forall_const, Except.ok.injEq, forall_eq']
    refine and_congr_right fun hr => and_congr_right fun _ => ?_
    exact forall₂_congr fun x hx => shownIn_iff_publishable hr hx

end Status

/-- A mesh that cannot be fetched, a shape that is not supported and a file that does
not decode: the status is OK each time. -/
theorem ok_with_missing_shape :
    let unanswered : WorldClient ℚ :=
      { Sample.client [Sample.object "box".toList (Sample.meshGeometry "a".toList)] with
        getGltf := fun _ _ => .error ⟨.notFound, []⟩ }
    let unsupported := Sample.client [Sample.object "box".toList (.inlineGeometryData
      (some (.primitiveSet [⟨some .other⟩])))]
    let undecodable := Sample.client [Sample.object "box".toList (Sample.meshGeometry [])]
    ∀ world ∈ [unanswered, unsupported, undecodable],
      (fetchAndSynchronizeCollisionObjects Sample.library (.increasing Name) 0 Config.default world none
        (Data.init : Data ℚ)).1 = .ok () ∧
      ¬OkMeansPublished Sample.library Config.default world (.increasing Name) 0 Data.init := by
  intro unanswered unsupported undecodable world hw
  simp only [List.mem_cons, List.not_mem_nil, or_false] at hw
  rcases hw with rfl | rfl | rfl
  · refine ⟨rfl, fun h => ?_⟩
    rcases (h rfl _ rfl).1 [] _ [] rfl with hrec | ⟨y, hy, -⟩
    · revert hrec
      simp only [FetchItem.Records]
      decide
    · simp at hy
  · refine ⟨rfl, fun h => ?_⟩
    obtain ⟨-, hall⟩ := (h rfl _ rfl).2.1 _ (List.mem_singleton_self _)
    exact absurd (hall _ (List.mem_singleton_self _)) (by decide)
  · refine ⟨rfl, fun h => ?_⟩
    obtain ⟨msg, -, -, -, -, data, shapeMesh, he, hs, -⟩ := (h rfl _ rfl).2.2 _ (List.mem_singleton_self _)
    obtain ⟨hdata, -⟩ := ShapeEntry.gltfMesh.inj (Option.some.inj he)
    have hnone : Sample.library.createMeshFromBinary data = none := by rw [← hdata]; rfl
    rw [hnone] at hs
    cases hs

end MoveitPlanning.Scene
