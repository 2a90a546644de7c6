import MoveitPlanning.Scene.Publish

/-! The two loops that list the shapes of a frame. The MOVE loop asks only whether a
mesh id has bytes; the ADD loop also decodes them, and leaves out the pose of a mesh
that does not decode. From one state the two therefore agree on the primitives, and
on the meshes exactly when every mesh of the frame decodes. -/

namespace MoveitPlanning.Scene

open Foundation

variable {R : Type*}

/-! ### The MOVE loop -/

section Update
variable [Field R] [LinearOrder R] {lib : Library R} {cfg : Config R} {ord : IterOrder Name} {now : ℤ}
  {transforms : List (TransformStamped R)} {σ : Data R}

/-- `updateCollisionObjects` changes only what was published last. -/
structure SameShapes (σ τ : Data R) : Prop where
  frames : τ.collisionTfFrameToMeshIds = σ.collisionTfFrameToMeshIds
  renderables : τ.renderablesCollision = σ.renderablesCollision
  primitives : τ.primitivesCollision = σ.primitivesCollision
  poses : τ.relativeMeshPose = σ.relativeMeshPose

omit [Field R] [LinearOrder R] in
theorem SameShapes.refl (σ : Data R) : SameShapes σ σ := ⟨rfl, rfl, rfl, rfl⟩

omit [Field R] [LinearOrder R] in
theorem SameShapes.trans {σ τ υ : Data R} (h : SameShapes σ τ) (h' : SameShapes τ υ) : SameShapes σ υ :=
  ⟨h'.frames.trans h.frames, h'.renderables.trans h.renderables, h'.primitives.trans h.primitives,
    h'.poses.trans h.poses⟩

omit [Field R] [LinearOrder R] in
theorem SameShapes.queue (σ : Data R) (newObjectNames : List Name) (tfFrameNames : Finset Name) :
    SameShapes σ { σ.queueObjects newObjectNames with tfFrameNames } := by
  rw [Data.queueObjects]
  split_ifs <;> exact ⟨rfl, rfl, rfl, rfl⟩

variable (lib cfg ord now transforms σ) in
theorem SameShapes.update : SameShapes σ (updateCollisionObjects lib cfg ord now transforms σ).1 := by
  obtain ⟨poses, times, hdata⟩ := updateCollisionObjects_data lib cfg ord now transforms σ
  rw [hdata]
  exact ⟨rfl, rfl, rfl, rfl⟩

omit [Field R] [LinearOrder R] in
theorem moveMessage_congr {τ : Data R} (h : SameShapes σ τ) (f : Name) (ts : TransformStamped R) :
    moveMessage ord now τ f ts = moveMessage ord now σ f ts := by
  have hp : movePose τ = movePose σ := by
    funext m
    rw [movePose, h.poses, h.renderables, h.primitives, movePose]
  rw [moveMessage, hp, Data.meshIds, h.frames]
  rfl

variable (lib cfg ord now transforms) in
/-- What one frame adds to the pass, if it adds anything, is its MOVE. -/
theorem updateFrame_cases (acc : Data R × List (CollisionObject R)) (f : Name) :
    updateFrame lib cfg ord now transforms acc f = acc ∨
      ∃ ts ∈ transforms, ts.childFrameId = f ∧
        SameShapes acc.1 (updateFrame lib cfg ord now transforms acc f).1 ∧
        (updateFrame lib cfg ord now transforms acc f).2 = acc.2 ++ [moveMessage ord now acc.1 f ts] := by
  unfold updateFrame
  cases hfind : transforms.find? fun ts => ts.childFrameId = f with
  | none => exact .inl rfl
  | some ts =>
    by_cases hrate : rateLimited lib cfg now acc.1 f = true
    · exact .inl (by simp [hrate])
    · by_cases hband : withinDeadband lib cfg acc.1 f ts.pose = true
      · exact .inl (by simp [hrate, hband])
      · refine .inr ⟨ts, List.mem_of_find?_eq_some hfind, by simpa using List.find?_some hfind, ?_⟩
        simp only [hrate, hband, if_false, Bool.false_eq_true, and_true]
        exact ⟨rfl, rfl, rfl, rfl⟩

/-- Every MOVE of a pass is built from the shapes the pass started with. -/
theorem mem_updateCollisionObjects {msg : CollisionObject R}
    (h : msg ∈ (updateCollisionObjects lib cfg ord now transforms σ).2) :
    ∃ f ts, σ.Tracked f ∧ ts ∈ transforms ∧ ts.childFrameId = f ∧ msg = moveMessage ord now σ f ts := by
  have pass : ∀ (frames : List Name) (acc : Data R × List (CollisionObject R)), SameShapes σ acc.1 →
      msg ∈ (frames.foldl (updateFrame lib cfg ord now transforms) acc).2 → msg ∈ acc.2 ∨
        ∃ f ts, f ∈ frames ∧ ts ∈ transforms ∧ ts.childFrameId = f ∧
          msg = moveMessage ord now σ f ts := by
    intro frames
    induction frames with
    | nil => exact fun acc _ hmsg => .inl hmsg
    | cons f frames ih =>
      intro acc hσ hmsg
      rw [List.foldl_cons] at hmsg
      rcases updateFrame_cases lib cfg ord now transforms acc f with heq | ⟨ts, hts, hf, hsame, hadd⟩
      · rw [heq] at hmsg
        rcases ih acc hσ hmsg with hacc | ⟨g, ts, hg, rest⟩
        · exact .inl hacc
        · exact .inr ⟨g, ts, by simp [hg], rest⟩
      · have hσ' : SameShapes σ (updateFrame lib cfg ord now transforms acc f).1 :=
          ⟨hsame.frames.trans hσ.frames, hsame.renderables.trans hσ.renderables,
            hsame.primitives.trans hσ.primitives, hsame.poses.trans hσ.poses⟩
        rcases ih _ hσ' hmsg with hacc | ⟨g, ts', hg, rest⟩
        · rw [hadd, List.mem_append, List.mem_singleton] at hacc
          rcases hacc with hacc | rfl
          · exact .inl hacc
          · exact .inr ⟨f, ts, by simp, hts, hf, moveMessage_congr hσ f ts⟩
        · exact .inr ⟨g, ts', by simp [hg], rest⟩
  rcases pass _ (σ, []) ⟨rfl, rfl, rfl, rfl⟩ h with hnil | ⟨f, ts, hf, hts, hc, rfl⟩
  · simp at hnil
  · rw [IterOrder.mem_visit, ← σ.tracked_iff_mem_keys] at hf
    exact ⟨f, ts, hf, hts, hc, rfl⟩

end Update

/-! ### The two lists of poses -/

/-- A selection that keeps less keeps the same only if it keeps everything. -/
theorem filterMap_eq_filterMap_iff {α β : Type*} {a b : α → Option β}
    (h : ∀ m x, a m = some x → b m = some x) (l : List α) :
    l.filterMap a = l.filterMap b ↔ ∀ m ∈ l, ∀ x, b m = some x → a m = some x := by
  constructor
  · intro he
    have hcount : ∀ l : List α, (l.filterMap a).length ≤ (l.filterMap b).length := fun l => by
      induction l with
      | nil => simp
      | cons m l ih =>
        cases ha : a m with
        | none => cases hb : b m <;> simp [ha, hb] <;> omega
        | some x => simp [ha, h m x ha, ih]
    induction l with
    | nil => simp
    | cons m l ih =>
      rw [List.filterMap_cons, List.filterMap_cons] at he
      cases ha : a m with
      | none =>
        cases hb : b m with
        | none =>
          simp only [ha, hb] at he
          exact List.forall_mem_cons.mpr ⟨by simp [hb], ih he⟩
        | some x =>
          simp only [ha, hb] at he
          have := congrArg List.length he
          have := hcount l
          simp only [List.length_cons] at *
          omega
      | some x =>
        simp only [ha, h m x ha, List.cons.injEq, true_and] at he
        refine List.forall_mem_cons.mpr ⟨fun y hy => ?_, ih he⟩
        rw [ha, ← hy, h m x ha]
  · intro hl
    refine List.filterMap_congr fun m hm => ?_
    cases hb : b m with
    | none =>
      cases ha : a m with
      | none => rfl
      | some x => simp [h m x ha] at hb
    | some x => exact hl m hm x hb

theorem shapeEntry_primitive_pose (σ : Data R) (m : Name) :
    (((shapeEntry σ m).bind ShapeEntry.primitive?).map Prod.snd) =
      (movePose σ m).bind MovePose.primitive? := by
  unfold shapeEntry movePose
  cases σ.relativeMeshPose.lookup m with
  | none => rfl
  | some pose =>
    cases hr : σ.renderablesCollision.lookup m with
    | some data =>
      have hm : m ∈ σ.renderablesCollision := Finmap.mem_iff.mpr ⟨data, hr⟩
      simp [hm, ShapeEntry.primitive?, MovePose.primitive?]
    | none =>
      have hm : m ∉ σ.renderablesCollision := Finmap.lookup_eq_none.mp hr
      cases hp : σ.primitivesCollision.lookup m with
      | some solid =>
        have hm' : m ∈ σ.primitivesCollision := Finmap.mem_iff.mpr ⟨solid, hp⟩
        simp [hm, hm', ShapeEntry.primitive?, MovePose.primitive?]
      | none =>
        have hm' : m ∉ σ.primitivesCollision := Finmap.lookup_eq_none.mp hp
        simp [hm, hm']

/-- The MOVE loop lists the pose of an id as a mesh pose when it has bytes. -/
theorem movePose_mesh (σ : Data R) (m : Name) :
    (movePose σ m).bind MovePose.mesh? =
      (σ.relativeMeshPose.lookup m).bind fun pose =>
        (σ.renderablesCollision.lookup m).map fun _ => pose := by
  unfold movePose
  cases σ.relativeMeshPose.lookup m with
  | none => rfl
  | some pose =>
    cases hr : σ.renderablesCollision.lookup m with
    | some data =>
      have hm : m ∈ σ.renderablesCollision := Finmap.mem_iff.mpr ⟨data, hr⟩
      simp [hm, MovePose.mesh?]
    | none =>
      have hm : m ∉ σ.renderablesCollision := Finmap.lookup_eq_none.mp hr
      by_cases hp : m ∈ σ.primitivesCollision <;> simp [hm, hp, MovePose.mesh?]

theorem shapeEntry_mesh_pose (lib : Library R) (σ : Data R) (m : Name) :
    ((((shapeEntry σ m).bind ShapeEntry.gltfMesh?).bind (decodedMesh lib)).map Prod.snd) =
      (σ.relativeMeshPose.lookup m).bind fun pose =>
        (σ.renderablesCollision.lookup m).bind fun data =>
          (lib.createMeshFromBinary data).map fun _ => pose := by
  unfold shapeEntry
  cases σ.relativeMeshPose.lookup m with
  | none => rfl
  | some pose =>
    cases σ.renderablesCollision.lookup m with
    | some data => simp [ShapeEntry.gltfMesh?, decodedMesh, Option.map_map, Function.comp_def]
    | none => cases σ.primitivesCollision.lookup m <;> simp [ShapeEntry.gltfMesh?]

/-- Every mesh id of the frame that has a pose and bytes has bytes that decode. -/
def MeshesDecode (lib : Library R) (σ : Data R) (f : Name) : Prop :=
  ∀ m ∈ σ.meshIds f, ∀ data, σ.renderablesCollision.lookup m = some data →
    (σ.relativeMeshPose.lookup m).isSome → (lib.createMeshFromBinary data).isSome

section Poses
variable [Zero R] [One R] (lib : Library R) (ord : IterOrder Name) (now now' : ℤ) (σ : Data R) (f : Name)
  (ts : TransformStamped R)

theorem primitivePoses_eq :
    (moveMessage ord now' σ f ts).primitivePoses = (addMessage lib now ord σ f).primitivePoses := by
  simp only [moveMessage, addMessage, toCollisionObject, List.filterMap_filterMap, List.map_filterMap,
    shapeEntry_primitive_pose]

theorem meshPoses_eq_iff :
    (moveMessage ord now' σ f ts).meshPoses = (addMessage lib now ord σ f).meshPoses ↔
      MeshesDecode lib σ f := by
  have hadd : (addMessage lib now ord σ f).meshPoses = (ord.visit (σ.meshIds f)).filterMap fun m =>
      (σ.relativeMeshPose.lookup m).bind fun pose => (σ.renderablesCollision.lookup m).bind fun data =>
        (lib.createMeshFromBinary data).map fun _ => pose := by
    simp only [addMessage, toCollisionObject, List.filterMap_filterMap, List.map_filterMap,
      ← shapeEntry_mesh_pose, Option.bind_assoc]
  have hmove : (moveMessage ord now' σ f ts).meshPoses = (ord.visit (σ.meshIds f)).filterMap fun m =>
      (σ.relativeMeshPose.lookup m).bind fun pose =>
        (σ.renderablesCollision.lookup m).map fun _ => pose := by
    simp only [moveMessage, List.filterMap_filterMap, movePose_mesh]
  rw [hadd, hmove, eq_comm, filterMap_eq_filterMap_iff]
  · refine forall_congr' fun m => ?_
    rw [IterOrder.mem_visit]
    refine imp_congr_right fun _ => ?_
    cases σ.relativeMeshPose.lookup m <;> cases hr : σ.renderablesCollision.lookup m with
    | none => simp
    | some data => cases hd : lib.createMeshFromBinary data <;> simp [hd]
  · intro m pose hm
    simp only [Option.bind_eq_some_iff, Option.map_eq_some_iff] at hm ⊢
    obtain ⟨p, hp, data, hdata, _, _, rfl⟩ := hm
    exact ⟨p, hp, data, hdata, rfl⟩

end Poses

section Update
variable [Field R] [LinearOrder R] {lib : Library R} {cfg : Config R} {ord : IterOrder Name} {now now' : ℤ}
  {transforms : List (TransformStamped R)} {σ : Data R}

/-- An ADD and a MOVE of one frame from one state carry the same poses exactly when
every mesh of the frame decodes. -/
theorem move_poses_eq_iff {frames : Option (List Name)} {added moved : CollisionObject R}
    (hadd : added ∈ addCollisionObjectsToScene lib ord now σ frames)
    (hmove : moved ∈ (updateCollisionObjects lib cfg ord now' transforms σ).2)
    (hid : moved.id = added.id) :
    (moved.primitivePoses = added.primitivePoses ∧ moved.meshPoses = added.meshPoses) ↔
      MeshesDecode lib σ added.id := by
  obtain ⟨f, -, -, rfl⟩ := (mem_addCollisionObjectsToScene lib now frames added).mp hadd
  obtain ⟨g, ts, -, -, -, rfl⟩ := mem_updateCollisionObjects hmove
  obtain rfl : g = f := hid
  rw [and_iff_right (primitivePoses_eq lib ord now now' σ g ts), meshPoses_eq_iff]
  rfl

end Update

/-- A file that does not decode: the MOVE has a mesh pose and the ADD has none. -/
theorem undecodable_mesh_moved :
    let world := Sample.client [Sample.object "box".toList (Sample.meshGeometry [])]
    let σ := (fetchAndSynchronize Sample.library Config.default world none (Data.init : Data ℚ)).2
    ∃ added ∈ addCollisionObjectsToScene Sample.library (.increasing Name) 0 σ none,
    ∃ moved ∈ (updateCollisionObjects Sample.library Config.default (.increasing Name) 0
        [Sample.transform "box/whole".toList] σ).2,
      moved.id = added.id ∧ moved.meshPoses ≠ added.meshPoses := by
  decide +kernel

theorem move_poses_eq_iff_box :
    let world := Sample.client [Sample.object "box".toList (Sample.meshGeometry "a".toList)]
    let σ := (fetchAndSynchronize Sample.library Config.default world none (Data.init : Data ℚ)).2
    let added := addMessage Sample.library 0 (.increasing Name) σ "box/whole".toList
    let moved := moveMessage (.increasing Name) 0 σ "box/whole".toList (Sample.transform "box/whole".toList)
    (moved.primitivePoses = added.primitivePoses ∧ moved.meshPoses = added.meshPoses) ↔
      MeshesDecode Sample.library σ added.id :=
  have hadd : _ ∈ addCollisionObjectsToScene Sample.library (.increasing Name) 0 _ none := by decide +kernel
  have hmove : _ ∈ (updateCollisionObjects Sample.library Config.default (.increasing Name) 0
    [Sample.transform "box/whole".toList] _).2 := by decide +kernel
  move_poses_eq_iff hadd hmove rfl

end MoveitPlanning.Scene
