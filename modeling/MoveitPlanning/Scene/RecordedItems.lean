import MoveitPlanning.Scene.FetchSections

/-! Fetches of a World that does not change. Every answer has items of one list, `xs`,
though `GetGltf` may fail for some of them and a request may ask for a few objects only.
With distinct ids no two items write the same entry, so an item that is recorded stays
recorded, whatever sections other calls run; and a fetch with the whole list records
every item of it. What MoveIt is shown of a recorded item is its shape at its pose, but
for two cases: bytes that do not decode are left out, and a primitive under an id with
bytes from an earlier mesh is shown as that mesh. -/

namespace MoveitPlanning.Scene

open Foundation

variable {R : Type*}

/-! ### Items of the World -/

/-- The item as another request may find it: `GetGltf` can fail for its mesh. -/
structure FetchItem.Like (x y : FetchItem R) : Prop where
  frame : x.frame = y.frame
  id : x.id = y.id
  pose : x.pose = y.pose
  shape : x.shape = y.shape ∨ (y.shape.isMesh ∧ ∃ ref e, x.shape = .mesh ref (.error e))

theorem FetchItem.Like.refl (x : FetchItem R) : x.Like x := ⟨rfl, rfl, rfl, .inl rfl⟩

theorem FetchItem.Like.isMesh {x y : FetchItem R} (h : x.Like y) : x.shape.isMesh ↔ y.shape.isMesh := by
  rcases h.shape with hshape | ⟨hmesh, ref, e, hx⟩
  · rw [hshape]
  · rw [hx]
    exact iff_of_true trivial hmesh

/-- The item is what the state has under its id: it is under its frame and at its pose,
and its bytes or its primitive are there. -/
structure FetchItem.Recorded (σ : Data R) (x : FetchItem R) : Prop where
  member : x.id ∈ σ.meshIds x.frame
  pose : σ.relativeMeshPose.lookup x.id = some x.pose
  mesh : x.shape.isMesh → x.id ∈ σ.renderablesCollision
  primitive : ∀ solid, x.shape = .primitive solid → σ.primitivesCollision.lookup x.id = some solid

/-- The section is one of an item of the World; a mesh is recorded when its bytes are there. -/
def FetchSection.Belongs (xs : List (FetchItem R)) (σ : Data R) : FetchSection R → Prop
  | .item x => ∃ y ∈ xs, x.Like y
  | .emplace x _ => ∃ y ∈ xs, x.Like y ∧ y.shape.isMesh
  | .record x => ∃ y ∈ xs, x.Like y ∧ y.shape.isMesh ∧ x.id ∈ σ.renderablesCollision

theorem FetchSection.Belongs.source {xs : List (FetchItem R)} {σ : Data R} {sec : FetchSection R}
    (h : sec.Belongs xs σ) : ∃ y ∈ xs, sec.source.Like y := by
  cases sec with
  | item x => exact h
  | emplace x gltf => exact h.imp fun _ hy => ⟨hy.1, hy.2.1⟩
  | record x => exact h.imp fun _ hy => ⟨hy.1, hy.2.1⟩

theorem FetchSection.Belongs.mono {xs : List (FetchItem R)} {σ τ : Data R} {sec : FetchSection R}
    (h : sec.Belongs xs σ) (hbytes : ∀ m, m ∈ σ.renderablesCollision → m ∈ τ.renderablesCollision) :
    sec.Belongs xs τ := by
  cases sec with
  | record x => exact h.imp fun _ hy => ⟨hy.1, hy.2.1, hy.2.2.1, hbytes _ hy.2.2.2⟩
  | _ => exact h

section Run
variable {xs : List (FetchItem R)} {σ σ' : Data R} {sec : FetchSection R} {secs : List (FetchSection R)}

theorem SectionRun.bytes (hrun : SectionRun σ sec σ' secs) {m : Name} (h : m ∈ σ.renderablesCollision) :
    σ'.renderablesCollision.lookup m = σ.renderablesCollision.lookup m := by
  cases hrun with
  | emplace =>
    obtain ⟨b, hb⟩ := Finmap.mem_iff.mp h
    rw [Data.emplace_renderables, hb, Option.some_or]
  | _ => rfl

theorem SectionRun.mem_bytes (hrun : SectionRun σ sec σ' secs) {m : Name} (h : m ∈ σ.renderablesCollision) :
    m ∈ σ'.renderablesCollision := by
  rw [← Finmap.lookup_isSome, hrun.bytes h, Finmap.lookup_isSome]
  exact h

theorem SectionRun.belongs (hrun : SectionRun σ sec σ' secs) (h : sec.Belongs xs σ) :
    ∀ s ∈ secs, s.Belongs xs σ' := by
  cases hrun with
  | found hx hid =>
    obtain ⟨y, hy, hlike⟩ := h
    refine List.forall_mem_singleton.mpr ⟨y, hy, hlike, hlike.isMesh.mp ?_, hid⟩
    rw [hx]
    trivial
  | retrieved hx hid =>
    obtain ⟨y, hy, hlike⟩ := h
    refine List.forall_mem_singleton.mpr ⟨y, hy, hlike, hlike.isMesh.mp ?_⟩
    rw [hx]
    trivial
  | @emplace x gltf =>
    obtain ⟨y, hy, hlike, hmesh⟩ := h
    refine List.forall_mem_singleton.mpr ⟨y, hy, hlike, hmesh, ?_⟩
    rw [← Finmap.lookup_isSome, Data.emplace_renderables, if_pos rfl]
    cases σ.renderablesCollision.lookup x.id <;> rfl
  | _ => simp

theorem record_member (σ : Data R) (frame id : Name) (pose : Pose R) : id ∈ (σ.record frame id pose).meshIds frame := by
  rw [Data.record_meshIds, if_pos rfl]
  exact Finset.mem_insert_self _ _

theorem mem_record_meshIds {σ : Data R} {frame id f m : Name} {pose : Pose R} (h : m ∈ σ.meshIds f) :
    m ∈ (σ.record frame id pose).meshIds f := by
  rw [Data.record_meshIds]
  split_ifs
  · exact Finset.mem_insert_of_mem h
  · exact h

/-- A section of an item that is answered records it, or leaves another one of it. -/
theorem SectionRun.records (hrun : SectionRun σ sec σ' secs) (hsec : sec.Belongs xs σ)
    (ha : sec.source.Answered) : sec.source.Recorded σ' ∨ ∃ s ∈ secs, s.source = sec.source := by
  cases hrun with
  | failed hx hid =>
    rw [FetchItem.Answered, FetchSection.source, hx] at ha
    exact ha.elim
  | @primitive x solid hx =>
    refine .inl ⟨record_member _ _ _ _, ?_, fun hmesh => ?_, fun s hs => ?_⟩
    · exact (Data.record_pose _ x.frame x.id x.pose x.id).trans (if_pos rfl)
    · rw [FetchSection.source, hx] at hmesh
      exact hmesh.elim
    · rw [FetchSection.source, hx] at hs
      rw [← ItemShape.primitive.inj hs]
      exact (Data.recordPrimitive_primitives σ x.frame x.id x.pose solid x.id).trans (if_pos rfl)
  | @record x =>
    obtain ⟨z, hz, hlike, hmesh, hid⟩ := hsec
    have hx : x.shape.isMesh := hlike.isMesh.mpr hmesh
    refine .inl ⟨record_member _ _ _ _, ?_, fun _ => hid, fun s hs => ?_⟩
    · exact (Data.record_pose σ x.frame x.id x.pose x.id).trans (if_pos rfl)
    · rw [show x.shape = .primitive s from hs] at hx
      exact hx.elim
  | _ => exact .inr ⟨_, List.mem_singleton_self _, rfl⟩

variable (hn : (xs.map fun x => x.id).Nodup) {y : FetchItem R} (hy : y ∈ xs)
include hn hy

theorem FetchItem.Like.eq_of_id_eq {x z : FetchItem R} (hlike : x.Like z) (hz : z ∈ xs) (hid : y.id = x.id) : z = y :=
  List.inj_on_of_nodup_map hn hz hy (hlike.id.symm.trans hid.symm)

theorem FetchItem.Recorded.run (h : y.Recorded σ) (hsec : sec.Belongs xs σ) (hrun : SectionRun σ sec σ' secs) :
    y.Recorded σ' := by
  cases hrun with
  | @primitive x solid hx =>
    obtain ⟨z, hz, hlike⟩ := hsec
    have hshape : z.shape = .primitive solid := by
      rcases hlike.shape with hs | ⟨-, ref, e, he⟩
      · rw [← hs, hx]
      · rw [hx] at he
        cases he
    refine ⟨mem_record_meshIds h.member, ?_, h.mesh, fun s hs => ?_⟩
    · rw [Data.recordPrimitive, Data.record_pose]
      split_ifs with hid
      · obtain rfl := hlike.eq_of_id_eq hn hy hz hid
        rw [hlike.pose]
      · exact h.pose
    · rw [Data.recordPrimitive_primitives]
      split_ifs with hid
      · obtain rfl := hlike.eq_of_id_eq hn hy hz hid
        rw [hs] at hshape
        rw [ItemShape.primitive.inj hshape]
      · exact h.primitive s hs
  | @emplace x gltf =>
    refine ⟨?_, ?_, fun hmesh => ?_, fun s hs => ?_⟩
    · rw [Data.meshIds, Data.emplace_frames]
      exact h.member
    · rw [Data.emplace_pose]
      exact h.pose
    · exact SectionRun.mem_bytes .emplace (h.mesh hmesh)
    · rw [Data.emplace_primitives]
      exact h.primitive s hs
  | @record x =>
    obtain ⟨z, hz, hlike, -⟩ := hsec
    refine ⟨mem_record_meshIds h.member, ?_, h.mesh, h.primitive⟩
    rw [Data.record_pose]
    split_ifs with hid
    · obtain rfl := hlike.eq_of_id_eq hn hy hz hid
      rw [hlike.pose]
    · exact h.pose
  | _ => exact h

/-- Under a recorded id the bytes stay as they are, also where there are none. -/
theorem FetchItem.Recorded.bytes (h : y.Recorded σ) (hsec : sec.Belongs xs σ) (hrun : SectionRun σ sec σ' secs) :
    σ'.renderablesCollision.lookup y.id = σ.renderablesCollision.lookup y.id := by
  by_cases hmem : y.id ∈ σ.renderablesCollision
  · exact hrun.bytes hmem
  · cases hrun with
    | @emplace x gltf =>
      obtain ⟨z, hz, hlike, hmesh⟩ := hsec
      rw [Data.emplace_renderables, if_neg, Option.or_none]
      intro hid
      obtain rfl := hlike.eq_of_id_eq hn hy hz hid
      exact hmem (h.mesh hmesh)
    | _ => rfl

end Run

/-! ### What MoveIt is shown -/

/-- The ADD has the mesh of the bytes at the pose, unless they do not decode. -/
def CollisionObject.HasMesh (lib : Library R) (msg : CollisionObject R) (data : Bytes) (pose : Pose R) : Prop :=
  ∀ mesh, lib.createMeshFromBinary data = some mesh → (mesh.toMesh, pose) ∈ msg.meshes.zip msg.meshPoses

/-- What the ADD has of the item, all of it at the item's pose: for a mesh the one of the
bytes held under its id, and for a primitive that primitive, unless bytes are held under
its id. -/
structure FetchItem.In (lib : Library R) (bytes : Name → Option Bytes) (msg : CollisionObject R) (x : FetchItem R) :
    Prop where
  mesh : x.shape.isMesh → ∃ data, bytes x.id = some data ∧ msg.HasMesh lib data x.pose
  primitive : ∀ solid, x.shape = .primitive solid → bytes x.id = none →
    (solid, x.pose) ∈ msg.primitives.zip msg.primitivePoses
  replaced : ∀ solid data, x.shape = .primitive solid → bytes x.id = some data → msg.HasMesh lib data x.pose

theorem FetchItem.Recorded.shapeEntry {σ : Data R} {x : FetchItem R} (h : x.Recorded σ) :
    (∃ data, σ.renderablesCollision.lookup x.id = some data ∧ shapeEntry σ x.id = some (.gltfMesh data x.pose)) ∨
      (σ.renderablesCollision.lookup x.id = none ∧
        ∃ solid, x.shape = .primitive solid ∧ shapeEntry σ x.id = some (.primitive solid x.pose)) := by
  cases hbytes : σ.renderablesCollision.lookup x.id with
  | some data => exact .inl ⟨data, rfl, by rw [Scene.shapeEntry, h.pose, Option.bind_some, hbytes]⟩
  | none =>
    rcases hx : x.shape with ⟨ref, gltf⟩ | solid
    · have hmem := h.mesh (by rw [hx]; trivial)
      rw [← Finmap.lookup_isSome, hbytes] at hmem
      cases hmem
    · refine .inr ⟨rfl, solid, rfl, ?_⟩
      rw [Scene.shapeEntry, h.pose, Option.bind_some, hbytes, h.primitive solid hx]
      rfl

theorem zip_map_fst_snd {α β : Type*} (l : List (α × β)) : (l.map Prod.fst).zip (l.map Prod.snd) = l := by
  rw [List.zip_map', show (fun p : α × β => (p.1, p.2)) = id from rfl, List.map_id]

theorem FetchItem.Recorded.in_addMessage [Zero R] [One R] (lib : Library R) (now : ℤ) (ord : IterOrder Name)
    {σ : Data R} {x : FetchItem R} (h : x.Recorded σ) :
    x.In lib σ.renderablesCollision.lookup (addMessage lib now ord σ x.frame) := by
  have hvisit : x.id ∈ ord.visit (σ.meshIds x.frame) := (ord.mem_visit _ _).mpr h.member
  rcases h.shapeEntry with ⟨data, hbytes, hentry⟩ | ⟨hbytes, solid, hshape, hentry⟩
  · have hmesh : (addMessage lib now ord σ x.frame).HasMesh lib data x.pose := by
      intro mesh hmesh
      simp only [addMessage, toCollisionObject, zip_map_fst_snd]
      refine List.mem_filterMap.mpr ⟨(data, x.pose), ?_, by rw [decodedMesh, hmesh]; rfl⟩
      exact List.mem_filterMap.mpr ⟨_, List.mem_filterMap.mpr ⟨x.id, hvisit, hentry⟩, rfl⟩
    refine ⟨fun _ => ⟨data, hbytes, hmesh⟩, fun _ _ hnone => ?_, fun _ data' _ hdata' => ?_⟩
    · rw [hbytes] at hnone
      cases hnone
    · obtain rfl := Option.some.inj (hbytes.symm.trans hdata')
      exact hmesh
  · refine ⟨fun hmesh => ?_, fun solid' hshape' _ => ?_, fun _ _ _ hdata => ?_⟩
    · rw [hshape] at hmesh
      exact hmesh.elim
    · obtain rfl := ItemShape.primitive.inj (hshape.symm.trans hshape')
      simp only [addMessage, toCollisionObject, zip_map_fst_snd]
      exact List.mem_filterMap.mpr ⟨_, List.mem_filterMap.mpr ⟨x.id, hvisit, hentry⟩, rfl⟩
    · rw [hbytes] at hdata
      cases hdata

end MoveitPlanning.Scene
