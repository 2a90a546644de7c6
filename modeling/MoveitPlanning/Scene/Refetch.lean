import MoveitPlanning.Scene.Threads
import MoveitPlanning.Scene.FetchPlan

/-! What earlier snapshots leave behind. A fetch only inserts: after a full fetch the
tracked frames are the earlier ones together with those of the response, and the same
holds of the mesh ids of each frame. Bytes are kept by mesh id, the first that any fetch of the run retrieves,
so the shape published for a geometry is the current one exactly when no other bytes
came first under its id: none at all for a primitive, and none but the current ones for
a mesh. -/

namespace MoveitPlanning.Scene

open Foundation

variable {R : Type*} [Zero R] [One R]
variable {lib : Library R} {cfg : Config R} {world : WorldClient R} {ord : IterOrder Name} {now : ℤ}
  {objects : List (WorldObject R)}
  {σ : Data R}

/-! ### Frames and mesh ids -/

/-- The mesh ids a fetch computes for a frame. -/
def computedIds (xs : List (FetchItem R)) (f : Name) : Finset Name :=
  ((xs.filter fun x => x.frame = f).map fun x => x.id).toFinset

omit [Zero R] [One R] in
theorem mem_computedIds (xs : List (FetchItem R)) (f m : Name) :
    m ∈ computedIds xs f ↔ ∃ x ∈ xs, x.frame = f ∧ x.id = m := by
  simp [computedIds, and_assoc]

/-- The tracked frames and their mesh ids are those of the response and no others. -/
def MirrorsWorld (cfg : Config R) (objects : List (WorldObject R)) (xs : List (FetchItem R))
    (σ : Data R) : Prop :=
  (∀ f, σ.Tracked f ↔ CollisionFrame cfg objects f) ∧
    ∀ f, CollisionFrame cfg objects f → σ.meshIds f = computedIds xs f

/-- A full fetch keeps every frame and mesh id and adds those of the response, so it
leaves just the response exactly when nothing else was tracked before it. -/
theorem fetch_adds_and_keeps (hresp : world.getObjects none = .ok objects)
    (hget : ∀ x ∈ fetchPlan lib cfg world.getGltf objects, x.Answered) :
    let xs := fetchPlan lib cfg world.getGltf objects
    let σ' := (fetchAndSynchronize lib cfg world none σ).2
    (∀ f, σ'.Tracked f ↔ σ.Tracked f ∨ CollisionFrame cfg objects f) ∧
    (∀ f, σ'.meshIds f = σ.meshIds f ∪ computedIds xs f) ∧
    (MirrorsWorld cfg objects xs σ' ↔
      (∀ f, σ.Tracked f → CollisionFrame cfg objects f) ∧ ∀ f, σ.meshIds f ⊆ computedIds xs f) := by
  intro xs σ'
  have hr : Retrieved σ xs := retrieved_of_answered σ hget
  have hσ : σ' = fetchItems σ xs := by
    simp only [σ', fetchAndSynchronize_ok (σ := σ) (show world.getObjects (requestNames none) = _ from hresp), xs]
  have htracked : ∀ f, σ'.Tracked f ↔ σ.Tracked f ∨ CollisionFrame cfg objects f := fun f => by
    rw [hσ, fetchItems_tracked hr, exists_mem_fetchPlan_frame]
  have hids : ∀ f, σ'.meshIds f = σ.meshIds f ∪ computedIds xs f := fun f => by
    ext m
    rw [hσ, fetchItems_meshIds hr, Finset.mem_union, mem_computedIds]
  refine ⟨htracked, hids, ?_⟩
  simp only [MirrorsWorld, htracked, hids, Finset.union_eq_right]
  constructor
  · rintro ⟨hf, hi⟩
    have hframe : ∀ f, σ.Tracked f → CollisionFrame cfg objects f := fun f ht => (hf f).mp (.inl ht)
    refine ⟨hframe, fun f m hm => ?_⟩
    exact hi f (hframe f (Data.tracked_of_mem_meshIds hm)) hm
  · rintro ⟨hf, hi⟩
    exact ⟨fun f => ⟨fun h => h.elim (hf f) id, .inr⟩, fun f _ => hi f⟩

/-- Two objects, then one of them gone: its frame is still tracked. -/
theorem deleted_object_survives_fetch :
    let box := Sample.object "box".toList (Sample.boxGeometry 1)
    let can := Sample.object "can".toList (Sample.boxGeometry 2)
    let before := Sample.client [box, can]
    let world := Sample.client [can]
    let xs := fetchPlan Sample.library Config.default world.getGltf [can]
    let σ := (fetchAndSynchronize Sample.library Config.default before none (Data.init : Data ℚ)).2
    let (status, σ') := fetchAndSynchronize Sample.library Config.default world none σ
    status = .ok () ∧ world.getObjects none = .ok [can] ∧ (∀ x ∈ xs, x.Answered) ∧
      ¬MirrorsWorld Config.default [can] xs σ' := by
  refine ⟨rfl, rfl, by decide, fun h => ?_⟩
  have hbox := (h.1 "box/whole".toList).mp (by decide)
  rw [← exists_mem_fetchPlan_frame Sample.library Config.default
    (Sample.client [Sample.object "can".toList (Sample.boxGeometry 2)]).getGltf] at hbox
  revert hbox
  decide

theorem fetch_adds_and_keeps_can :
    let can := Sample.object "can".toList (Sample.boxGeometry 2)
    let world := Sample.client [can]
    let xs := fetchPlan Sample.library Config.default world.getGltf [can]
    let σ' := (fetchAndSynchronize Sample.library Config.default world none (Data.init : Data ℚ)).2
    (∀ f, σ'.Tracked f ↔ (Data.init : Data ℚ).Tracked f ∨ CollisionFrame Config.default [can] f) ∧
    (∀ f, σ'.meshIds f = (Data.init : Data ℚ).meshIds f ∪ computedIds xs f) ∧
    (MirrorsWorld Config.default [can] xs σ' ↔
      (∀ f, (Data.init : Data ℚ).Tracked f → CollisionFrame Config.default [can] f) ∧
        ∀ f, (Data.init : Data ℚ).meshIds f ⊆ computedIds xs f) :=
  fetch_adds_and_keeps (by rfl) (by decide)

/-! ### Shapes -/

/-- The entry the snapshot takes for the item's id is the item's own: the bytes
`GetGltf` has for it, or its primitive, at its pose. -/
def FetchItem.Current (σ' : Data R) (x : FetchItem R) : Prop :=
  match x.shape with
  | .mesh _ gltf => ∃ data, gltf = .ok data ∧ shapeEntry σ' x.id = some (.gltfMesh data x.pose)
  | .primitive solid => shapeEntry σ' x.id = some (.primitive solid x.pose)

/-- The bytes kept under the item's id before a fetch do not stand in its way. -/
def FetchItem.Fresh (σ : Data R) (x : FetchItem R) : Prop :=
  match x.shape with
  | .mesh _ gltf => ∀ data, σ.renderablesCollision.lookup x.id = some data → gltf = .ok data
  | .primitive _ => σ.renderablesCollision.lookup x.id = none

omit [Zero R] [One R] in
/-- With distinct ids, only the item itself brings anything for its id. -/
theorem findSome?_of_nodup {β : Type*} {xs : List (FetchItem R)} (hn : (xs.map fun x => x.id).Nodup)
    {x : FetchItem R} (hx : x ∈ xs) {f : FetchItem R → Option β}
    (hf : ∀ y, y.id ≠ x.id → f y = none) : xs.findSome? f = f x := by
  induction xs with
  | nil => simp at hx
  | cons y xs ih =>
    rw [List.map_cons, List.nodup_cons] at hn
    rw [List.findSome?_cons]
    rcases List.mem_cons.mp hx with rfl | hx
    · cases hfx : f x with
      | some b => rfl
      | none =>
        refine List.findSome?_eq_none_iff.mpr fun z hz => hf z fun he => hn.1 ?_
        exact he ▸ List.mem_map_of_mem hz
    · rw [hf y fun he => hn.1 (he ▸ List.mem_map_of_mem hx)]
      exact ih hn.2 hx

omit [Zero R] [One R] in
theorem supplied_of_ne {x y : FetchItem R} (h : y.id ≠ x.id) :
    y.suppliedGltf x.id = none ∧ y.suppliedSolid x.id = none ∧ y.suppliedPose x.id = none := by
  rcases y with ⟨frame, id, pose, ⟨ref, _ | data⟩ | solid⟩ <;>
    simp_all [FetchItem.suppliedGltf, FetchItem.suppliedSolid, FetchItem.suppliedPose]

omit [Zero R] [One R] in
/-- What a fetch with distinct ids leaves under the id of one of its items. -/
theorem shapeEntry_of_nodup {xs : List (FetchItem R)} (hn : (xs.map fun x => x.id).Nodup)
    (hr : Retrieved σ xs) {x : FetchItem R} (hx : x ∈ xs) :
    shapeEntry (fetchItems σ xs) x.id =
      match (σ.renderablesCollision.lookup x.id).or (x.suppliedGltf x.id) with
      | some data => some (.gltfMesh data x.pose)
      | none => ((x.suppliedSolid x.id).or (σ.primitivesCollision.lookup x.id)).map
          fun solid => .primitive solid x.pose := by
  have hn' : (xs.reverse.map fun x => x.id).Nodup := by
    rw [List.map_reverse]
    exact List.nodup_reverse.mpr hn
  have hx' : x ∈ xs.reverse := List.mem_reverse.mpr hx
  have hgltf : xs.findSome? (·.suppliedGltf x.id) = x.suppliedGltf x.id :=
    findSome?_of_nodup hn hx fun y hy => (supplied_of_ne hy).1
  have hsolid : lastSolid xs x.id = x.suppliedSolid x.id :=
    findSome?_of_nodup hn' hx' fun y hy => (supplied_of_ne hy).2.1
  have hpose : lastPose xs x.id = some x.pose := by
    rw [lastPose, findSome?_of_nodup hn' hx' fun y hy => (supplied_of_ne hy).2.2]
    simp [FetchItem.suppliedPose]
  rw [shapeEntry_fetchItems hr, hpose, heldGltf, hgltf, hsolid]
  rfl

omit [Zero R] [One R] in
theorem current_iff_fresh {xs : List (FetchItem R)} (hn : (xs.map fun x => x.id).Nodup)
    (hget : ∀ x ∈ xs, x.Answered) {x : FetchItem R} (hx : x ∈ xs) :
    x.Current (fetchItems σ xs) ↔ x.Fresh σ := by
  have he := shapeEntry_of_nodup (σ := σ) hn (retrieved_of_answered σ hget) hx
  have ha := hget x hx
  rcases x with ⟨frame, id, pose, ⟨ref, _ | data⟩ | solid⟩
  · exact ha.elim
  · simp only [FetchItem.Current, FetchItem.Fresh, he, FetchItem.suppliedGltf]
    cases σ.renderablesCollision.lookup id <;> simp [eq_comm]
  · simp only [FetchItem.Current, FetchItem.Fresh, he, FetchItem.suppliedGltf, FetchItem.suppliedSolid]
    cases σ.renderablesCollision.lookup id <;> simp

/-- The ADD pass over all frames publishes the item's frame from its current shape. -/
def PublishesCurrent (lib : Library R) (ord : IterOrder Name) (now : ℤ) (σ' : Data R) (x : FetchItem R) :
    Prop :=
  addMessage lib now ord σ' x.frame ∈ addCollisionObjectsToScene lib ord now σ' none ∧
    x.id ∈ σ'.meshIds x.frame ∧ x.Current σ'

/-- After a full fetch in which every mesh is answered, all published shapes are the
current ones exactly when no other bytes were kept under their ids. -/
theorem publishesCurrent_iff_fresh (hresp : world.getObjects none = .ok objects)
    (hget : ∀ x ∈ fetchPlan lib cfg world.getGltf objects, x.Answered)
    (hn : ((fetchPlan lib cfg world.getGltf objects).map fun x => x.id).Nodup) :
    let xs := fetchPlan lib cfg world.getGltf objects
    let σ' := (fetchAndSynchronize lib cfg world none σ).2
    (∀ x ∈ xs, PublishesCurrent lib ord now σ' x) ↔ ∀ x ∈ xs, x.Fresh σ := by
  intro xs σ'
  have hr : Retrieved σ xs := retrieved_of_answered σ hget
  have hσ : σ' = fetchItems σ xs := by
    simp only [σ', fetchAndSynchronize_ok (σ := σ) (show world.getObjects (requestNames none) = _ from hresp), xs]
  refine forall₂_congr fun x hx => ?_
  have hid : x.id ∈ σ'.meshIds x.frame := by
    rw [hσ, fetchItems_meshIds hr]
    exact .inr ⟨x, hx, rfl, rfl⟩
  have hadd : addMessage lib now ord σ' x.frame ∈ addCollisionObjectsToScene lib ord now σ' none := by
    have ht := Data.tracked_of_mem_meshIds hid
    refine (mem_addCollisionObjectsToScene lib now none _).mpr ⟨x.frame, ?_, ht, rfl⟩
    exact (mem_framesToAdd ord x.frame none ht).mpr (by simp)
  rw [PublishesCurrent, and_iff_right hadd, and_iff_right hid, hσ]
  exact current_iff_fresh hn hget hx

/-! ### Runs -/

section Run
variable {R : Type*} [Field R] [LinearOrder R] {lib : Library R} {cfg : Config R} {world : WorldClient R}
  {objects : List (WorldObject R)}

/-- The bytes that a section of a fetch stores, with their mesh id. -/
def emplaced (s : Sys R) : Label R → Option (Name × Bytes)
  | .fetchSection i =>
    match s.calls[i]?.map Call.phase with
    | some (.fetching (.emplace x gltf :: _)) => some (x.id, gltf)
    | _ => none
  | _ => none

/-- The first bytes stored under an id. -/
def firstBytes (stored : List (Name × Bytes)) (m : Name) : Option Bytes :=
  stored.findSome? fun entry => if m = entry.1 then some entry.2 else none

theorem firstBytes_append (stored later : List (Name × Bytes)) (m : Name) :
    firstBytes (stored ++ later) m = (firstBytes stored m).or (firstBytes later m) := by
  rw [firstBytes, List.findSome?_append, firstBytes, firstBytes]

theorem emplaced_step {s s' : Sys R} {l : Label R} (hstep : step lib cfg s l = some s') (m : Name) :
    s'.data.renderablesCollision.lookup m =
      (s.data.renderablesCollision.lookup m).or (firstBytes (emplaced s l).toList m) := by
  cases step_eq_some.mp hstep with
  | fetchSection i call sec todo hcall hphase =>
    cases sec with
    | item x =>
      have hnone : emplaced s (.fetchSection i) = none := by simp [emplaced, hcall, hphase]
      rw [hnone, Option.toList_none, firstBytes, List.findSome?_nil, Option.or_none]
      rcases x with ⟨frame, id, pose, ⟨ref, _ | data⟩ | solid⟩
      · simp only [FetchSection.run, Sys.setPhase]
        split_ifs <;> rfl
      · simp only [FetchSection.run, Sys.setPhase]
        split_ifs <;> rfl
      · rfl
    | emplace x gltf =>
      have hsome : emplaced s (.fetchSection i) = some (x.id, gltf) := by simp [emplaced, hcall, hphase]
      rw [hsome]
      simpa [firstBytes, FetchSection.run, Sys.setPhase] using Data.emplace_renderables s.data x.id gltf m
    | record x =>
      have hnone : emplaced s (.fetchSection i) = none := by simp [emplaced, hcall, hphase]
      simp [hnone, firstBytes, FetchSection.run, Sys.setPhase]
  | tfQueue u htf =>
    simp only [Data.queueObjects]
    split_ifs <;> simp [emplaced, firstBytes]
  | tfUpdate ord now u htf =>
    obtain ⟨poses, times, hdata⟩ := updateCollisionObjects_data lib cfg ord now u.transforms s.data
    simp [hdata, emplaced, firstBytes]
  | _ => simp [emplaced, firstBytes, Data.takeRequest, Data.erase, Sys.setPhase]

theorem renderables_of_run {s t : Sys R} {ls : List (Label R)} (hrun : exec (step lib cfg) s ls = some t)
    (m : Name) : t.data.renderablesCollision.lookup m =
      (s.data.renderablesCollision.lookup m).or (firstBytes (outputs (step lib cfg) emplaced s ls) m) := by
  induction ls generalizing s with
  | nil =>
    obtain rfl : s = t := by simpa using hrun
    simp [outputs, firstBytes]
  | cons l ls ih =>
    obtain ⟨s', hs, hr⟩ := (exec_cons_eq_some _).mp hrun
    rw [ih hr, emplaced_step hs m, outputs_cons hs, firstBytes_append, Option.or_assoc]

/-- The first bytes that the run stored under the item's id do not stand in its way. -/
def FetchItem.FirstCurrent (stored : List (Name × Bytes)) (x : FetchItem R) : Prop :=
  match x.shape with
  | .mesh _ gltf => ∀ data, firstBytes stored x.id = some data → gltf = .ok data
  | .primitive _ => firstBytes stored x.id = none

/-- After any run, a full fetch in which every mesh is answered publishes the current
shapes exactly when no other bytes were stored first under their ids. -/
theorem published_shapes_current_iff {s : Sys R} {ls : List (Label R)}
    (hrun : exec (step lib cfg) Sys.init ls = some s) (ord : IterOrder Name) (now : ℤ)
    (hresp : world.getObjects none = .ok objects)
    (hget : ∀ x ∈ fetchPlan lib cfg world.getGltf objects, x.Answered)
    (hn : ((fetchPlan lib cfg world.getGltf objects).map fun x => x.id).Nodup) :
    let xs := fetchPlan lib cfg world.getGltf objects
    let σ' := (fetchAndSynchronize lib cfg world none s.data).2
    (∀ x ∈ xs, PublishesCurrent lib ord now σ' x) ↔
      ∀ x ∈ xs, x.FirstCurrent (outputs (step lib cfg) emplaced Sys.init ls) := by
  intro xs σ'
  have hkept : ∀ m, s.data.renderablesCollision.lookup m =
      firstBytes (outputs (step lib cfg) emplaced Sys.init ls) m := fun m => by
    rw [renderables_of_run hrun m, show (Sys.init : Sys R).data.renderablesCollision.lookup m = none from rfl,
      Option.none_or]
  refine (publishesCurrent_iff_fresh hresp hget hn).trans (forall₂_congr fun x _ => ?_)
  rw [FetchItem.Fresh, FetchItem.FirstCurrent, hkept]

end Run

namespace Sample

/-- A box with a mesh is in TF, and a planning request fetches it. -/
def meshFetched : List (Label ℚ) :=
  [.tfMessage (.increasing Name) [transform "box/whole".toList], .tfQueue, .tfUpdate (.increasing Name) 0,
    .tfReturn, .planning none,
    .getObjects 0 (.ok [object "box".toList (meshGeometry "a".toList)]) (client []).getGltf,
    .fetchSection 0, .fetchSection 0, .fetchSection 0]

/-- A TF message without the box removes its frame. -/
def frameRemoved : List (Label ℚ) := [.tfMessage (.increasing Name) [], .tfErase 0, .tfPublishRemove]

end Sample

/-- A mesh that is replaced by another file or by a box, with or without a removal in
between, is published as it was. -/
theorem stale_shape_published :
    let runs := [Sample.meshFetched, Sample.meshFetched ++ Sample.frameRemoved]
    ∀ ls ∈ runs, ∀ geometry ∈ [Sample.meshGeometry "b".toList, Sample.boxGeometry 1],
      let objects := [Sample.object "box".toList geometry]
      let world := Sample.client objects
      let xs := fetchPlan Sample.library Config.default world.getGltf objects
      world.getObjects none = .ok objects ∧ (∀ x ∈ xs, x.Answered) ∧ (xs.map fun x => x.id).Nodup ∧
        ∃ s, exec (step Sample.library Config.default) Sys.init ls = some s ∧
          ¬∀ x ∈ xs, PublishesCurrent Sample.library (.increasing Name) 0
            (fetchAndSynchronize Sample.library Config.default world none s.data).2 x := by
  intro runs ls hls geometry hg
  let world := Sample.client [Sample.object "box".toList geometry]
  have hstale : ∃ s : Sys ℚ, exec (step Sample.library Config.default) Sys.init ls = some s ∧
      decide (shapeEntry (fetchAndSynchronize Sample.library Config.default world none s.data).2
        "/box/whole/inner".toList = some (.gltfMesh [97] Pose.identity)) = true := by
    refine (Option.any_eq_true _ _).mp ?_
    simp only [runs, List.mem_cons, List.not_mem_nil, or_false] at hg hls
    rcases hg with rfl | rfl <;> rcases hls with rfl | rfl <;> decide +kernel
  obtain ⟨s, hrun, hentry⟩ := hstale
  have hentry := of_decide_eq_true hentry
  simp only [List.mem_cons, List.not_mem_nil, or_false] at hg
  rcases hg with rfl | rfl
  · refine ⟨rfl, by decide, by decide, s, hrun, fun h => ?_⟩
    obtain ⟨data, hdata, he⟩ := (h _ (List.mem_singleton_self _)).2.2
    obtain rfl := Except.ok.inj hdata
    exact absurd (hentry.symm.trans he) (by decide)
  · refine ⟨rfl, by decide, by decide, s, hrun, fun h => ?_⟩
    have he := (h _ (List.mem_singleton_self _)).2.2
    exact absurd (hentry.symm.trans he) (by decide)

theorem published_shapes_current_iff_box :
    let objects := [Sample.object "box".toList (Sample.meshGeometry "a".toList)]
    let world := Sample.client objects
    let xs := fetchPlan Sample.library Config.default world.getGltf objects
    ∃ s, exec (step Sample.library Config.default) Sys.init
        (Sample.meshFetched ++ Sample.frameRemoved) = some s ∧
      ((∀ x ∈ xs, PublishesCurrent Sample.library (.increasing Name) 0
          (fetchAndSynchronize Sample.library Config.default world none s.data).2 x) ↔
        ∀ x ∈ xs, x.FirstCurrent (outputs (step Sample.library Config.default) emplaced Sys.init
          (Sample.meshFetched ++ Sample.frameRemoved))) := by
  intro objects world xs
  obtain ⟨s, hrun⟩ : ∃ s : Sys ℚ, exec (step Sample.library Config.default) Sys.init
      (Sample.meshFetched ++ Sample.frameRemoved) = some s :=
    Option.isSome_iff_exists.mp (by decide +kernel)
  exact ⟨s, hrun, published_shapes_current_iff hrun (.increasing Name) 0 rfl (by decide) (by decide)⟩

end MoveitPlanning.Scene
