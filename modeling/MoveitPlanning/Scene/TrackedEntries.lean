import MoveitPlanning.Scene.ConcurrentFetch
import MoveitPlanning.Scene.Sections

/-! What is there for the mesh ids of tracked frames. A pool has the state under the mutex
and any number of fetches, each with the sections it has still to run; its runs mix these
sections with removals, ADD snapshots and updates in every order, and the threads of the
node are one such mix. A fetch stores the bytes of a mesh in an earlier section than its
pose and its frame, so what carries the invariant is that bytes are never taken away: a
mesh that a fetch has still to record has its bytes. -/

namespace MoveitPlanning.Scene

open Foundation

variable {R : Type*}

/-- Every tracked frame has mesh ids, and each of them a pose, and bytes or a primitive. -/
structure Data.Complete (σ : Data R) : Prop where
  nonempty : ∀ f ids, σ.collisionTfFrameToMeshIds.lookup f = some ids → ids.Nonempty
  pose : ∀ f, ∀ id ∈ σ.meshIds f, id ∈ σ.relativeMeshPose
  shape : ∀ f, ∀ id ∈ σ.meshIds f, id ∈ σ.renderablesCollision ∨ id ∈ σ.primitivesCollision

/-- A mesh that is still to be recorded has its bytes. -/
def FetchSection.Backed (σ : Data R) : FetchSection R → Prop
  | .record x => x.id ∈ σ.renderablesCollision
  | _ => True

/-! ### One section -/

section Sections
variable {σ τ : Data R}

theorem complete_init : (Data.init : Data R).Complete := by
  have hnone : ∀ f, (Data.init : Data R).meshIds f = ∅ := fun f => rfl
  refine ⟨fun f ids hids => ?_, fun f id hid => ?_, fun f id hid => ?_⟩
  · cases hids
  · simp [hnone] at hid
  · simp [hnone] at hid

/-- Frames and poses that stay as they are stay complete where no shape is taken away. -/
theorem Data.Complete.of_shapes (h : σ.Complete)
    (hframes : τ.collisionTfFrameToMeshIds = σ.collisionTfFrameToMeshIds)
    (hposes : τ.relativeMeshPose = σ.relativeMeshPose)
    (hrenderables : ∀ id, id ∈ σ.renderablesCollision → id ∈ τ.renderablesCollision)
    (hprimitives : ∀ id, id ∈ σ.primitivesCollision → id ∈ τ.primitivesCollision) : τ.Complete := by
  have hids : ∀ f, τ.meshIds f = σ.meshIds f := fun f => by rw [Data.meshIds, hframes, Data.meshIds]
  refine ⟨fun f ids hlookup => ?_, fun f id hid => ?_, fun f id hid => ?_⟩
  · exact h.nonempty f ids (hframes ▸ hlookup)
  · rw [hposes]
    exact h.pose f id (hids f ▸ hid)
  · exact (h.shape f id (hids f ▸ hid)).imp (hrenderables id) (hprimitives id)

theorem Data.Complete.of_same (h : σ.Complete) (hsame : SameShapes σ τ) : τ.Complete :=
  h.of_shapes hsame.frames hsame.poses (fun _ hid => hsame.renderables ▸ hid) fun _ hid => hsame.primitives ▸ hid

theorem Data.Complete.record (h : σ.Complete) {frame id : Name} (pose : Pose R)
    (hid : id ∈ σ.renderablesCollision ∨ id ∈ σ.primitivesCollision) : (σ.record frame id pose).Complete := by
  have hmem : ∀ {f m}, m ∈ (σ.record frame id pose).meshIds f → m = id ∨ m ∈ σ.meshIds f := fun {f m} hm => by
    rw [Data.record_meshIds] at hm
    split_ifs at hm with hf
    · exact Finset.mem_insert.mp hm
    · exact .inr hm
  refine ⟨fun f ids hlookup => ?_, fun f m hm => ?_, fun f m hm => ?_⟩
  · have hids : (σ.record frame id pose).meshIds f = ids := by rw [Data.meshIds, hlookup, Option.getD_some]
    rw [Data.record_meshIds] at hids
    split_ifs at hids with hf
    · exact hids ▸ Finset.insert_nonempty _ _
    · have hold : (σ.record frame id pose).collisionTfFrameToMeshIds.lookup f =
          σ.collisionTfFrameToMeshIds.lookup f := Finmap.lookup_insert_of_ne _ hf
      exact h.nonempty f ids (hold ▸ hlookup)
  · rw [← Finmap.lookup_isSome, Data.record_pose]
    split_ifs with hm'
    · rfl
    · exact Finmap.lookup_isSome.mpr (h.pose f m ((hmem hm).resolve_left hm'))
  · rcases hmem hm with rfl | hm
    · exact hid
    · exact h.shape f m hm

theorem Data.Complete.erase (h : σ.Complete) (frame : Name) : (σ.erase frame).Complete := by
  have hlookup : ∀ {f ids}, (σ.erase frame).collisionTfFrameToMeshIds.lookup f = some ids →
      σ.collisionTfFrameToMeshIds.lookup f = some ids := fun {f ids} hids => by
    have hf : f ≠ frame := by
      rintro rfl
      simp [Data.erase] at hids
    rwa [Data.erase, Finmap.lookup_erase_ne hf] at hids
  have hmem : ∀ {f m}, m ∈ (σ.erase frame).meshIds f → m ∈ σ.meshIds f := fun {f m} hm => by
    obtain ⟨ids, hids⟩ := (Data.tracked_iff_lookup _ f).mp (Data.tracked_of_mem_meshIds hm)
    rw [Data.meshIds, hids] at hm
    rwa [Data.meshIds, hlookup hids]
  exact ⟨fun f ids hids => h.nonempty f ids (hlookup hids), fun f m hm => h.pose f m (hmem hm),
    fun f m hm => h.shape f m (hmem hm)⟩

theorem mem_emplace_renderables (σ : Data R) (id m : Name) (gltf : Bytes) :
    m ∈ (σ.emplace id gltf).renderablesCollision ↔ m ∈ σ.renderablesCollision ∨ m = id := by
  rw [← Finmap.lookup_isSome, Data.emplace_renderables, Option.isSome_or, Bool.or_eq_true, Finmap.lookup_isSome]
  split_ifs with hm <;> simp [hm]

/-- A section of a fetch keeps the state complete and takes no bytes away, and a mesh that
it leaves to be recorded has its bytes. -/
theorem SectionRun.complete {sec : FetchSection R} {secs : List (FetchSection R)} (hrun : SectionRun σ sec τ secs)
    (h : σ.Complete) (hsec : sec.Backed σ) :
    τ.Complete ∧ (∀ id, id ∈ σ.renderablesCollision → id ∈ τ.renderablesCollision) ∧ ∀ s ∈ secs, s.Backed τ := by
  cases hrun with
  | found hx hid => exact ⟨h, fun _ => id, List.forall_mem_singleton.mpr hid⟩
  | failed => exact ⟨h, fun _ => id, by simp⟩
  | retrieved => exact ⟨h, fun _ => id, List.forall_mem_singleton.mpr trivial⟩
  | @primitive x solid hx =>
    have hprimitives : Data.Complete { σ with primitivesCollision := σ.primitivesCollision.insert x.id solid } :=
      h.of_shapes rfl rfl (fun _ => id) fun m hm => Finmap.mem_insert.mpr (.inr hm)
    exact ⟨hprimitives.record x.pose (.inr (Finmap.mem_insert.mpr (.inl rfl))), fun _ => id, by simp⟩
  | @emplace x gltf =>
    have hkept := fun m hm => (mem_emplace_renderables σ x.id m gltf).mpr (.inl hm)
    refine ⟨h.of_shapes (by simp) (by simp) hkept (by simp), hkept, List.forall_mem_singleton.mpr ?_⟩
    exact (mem_emplace_renderables σ x.id x.id gltf).mpr (.inr rfl)
  | @record x => exact ⟨h.record x.pose (.inl hsec), fun _ => id, by simp⟩

end Sections

/-! ### What a complete state is read as -/

section Entries
variable {σ : Data R}

theorem Data.Complete.shapeEntry (h : σ.Complete) {f id : Name} (hid : id ∈ σ.meshIds f) :
    (Scene.shapeEntry σ id).isSome := by
  obtain ⟨pose, hpose⟩ := Finmap.mem_iff.mp (h.pose f id hid)
  rw [Scene.shapeEntry, hpose, Option.bind_some]
  cases hgltf : σ.renderablesCollision.lookup id with
  | some data => rfl
  | none =>
    have hsolid := (h.shape f id hid).resolve_left (Finmap.lookup_eq_none.mp hgltf)
    rw [Option.isSome_map]
    exact Finmap.lookup_isSome.mpr hsolid

theorem Data.Complete.movePose (h : σ.Complete) {f id : Name} (hid : id ∈ σ.meshIds f) :
    (Scene.movePose σ id).isSome := by
  obtain ⟨pose, hpose⟩ := Finmap.mem_iff.mp (h.pose f id hid)
  rw [Scene.movePose, hpose, Option.bind_some]
  split_ifs with hgltf hsolid
  · rfl
  · rfl
  · exact absurd (h.shape f id hid) (not_or.mpr ⟨hgltf, hsolid⟩)

theorem Data.Complete.card_pos (h : σ.Complete) {f : Name} (hf : σ.Tracked f) : 0 < (σ.meshIds f).card := by
  obtain ⟨ids, hids⟩ := (σ.tracked_iff_lookup f).mp hf
  rw [Data.meshIds, hids, Option.getD_some]
  exact (h.nonempty f ids hids).card_pos

/-- A visit that skips no id keeps as many entries as there are ids. -/
theorem length_visit_filterMap {α : Type*} (ord : IterOrder Name) (ids : Finset Name) {entry : Name → Option α}
    (h : ∀ id ∈ ids, (entry id).isSome) : ((ord.visit ids).filterMap entry).length = ids.card := by
  have hkept : ((ord.visit ids).filterMap entry).length = (ord.visit ids).length :=
    List.filterMap_length_eq_length.mpr fun id hid => h id ((ord.mem_visit ids id).mp hid)
  rw [hkept, ← List.toFinset_card_of_nodup (ord.nodup ids)]
  congr 1
  ext id
  simp

theorem length_filterMap_add {α β γ : Type*} {left : α → Option β} {right : α → Option γ}
    (h : ∀ a, (left a).isSome = !(right a).isSome) (xs : List α) :
    (xs.filterMap left).length + (xs.filterMap right).length = xs.length := by
  induction xs with
  | nil => rfl
  | cons a xs ih =>
    have ha := h a
    cases hl : left a with
    | none =>
      obtain ⟨c, hr⟩ := Option.isSome_iff_exists.mp (by simpa [hl] using ha : (right a).isSome)
      rw [List.filterMap_cons_none hl, List.filterMap_cons_some hr, List.length_cons, List.length_cons, ← ih]
      rfl
    | some b =>
      have hr : right a = none := by simpa [hl] using ha
      rw [List.filterMap_cons_some hl, List.filterMap_cons_none hr, List.length_cons, List.length_cons, ← ih]
      omega

theorem Data.Complete.snapshot (h : σ.Complete) {ord : IterOrder Name} {objectFrames : Option (List Name)}
    {d : ObjectCollisionData R} (hd : d ∈ Scene.snapshot ord σ objectFrames) :
    d.gltfMeshes.length + d.primitives.length = (σ.meshIds d.tfFrameName).card ∧ 0 < (σ.meshIds d.tfFrameName).card := by
  obtain ⟨f, -, hf⟩ := List.mem_filterMap.mp hd
  obtain ⟨htracked, rfl⟩ := objectCollisionData_eq_some hf
  rw [objectCollisionData_of_tracked htracked] at hf
  have hone : ∀ entry : ShapeEntry R, entry.gltfMesh?.isSome = !entry.primitive?.isSome := fun entry => by
    cases entry <;> rfl
  refine ⟨?_, h.card_pos htracked⟩
  rw [← length_visit_filterMap ord (σ.meshIds d.tfFrameName) fun id hid => h.shapeEntry hid,
    ← length_filterMap_add hone, ← Option.some.inj hf]

section Moves
variable [Field R] [LinearOrder R] {lib : Library R} {cfg : Config R} {ord : IterOrder Name} {now : ℤ}
  {transforms : List (TransformStamped R)}

theorem Data.Complete.move (h : σ.Complete) {msg : CollisionObject R}
    (hmsg : msg ∈ (updateCollisionObjects lib cfg ord now transforms σ).2) :
    msg.meshPoses.length + msg.primitivePoses.length = (σ.meshIds msg.id).card ∧ 0 < (σ.meshIds msg.id).card := by
  rw [updateCollisionObjects_eq] at hmsg
  obtain ⟨htracked, hmove⟩ := mem_dueMoves.mp hmsg
  obtain ⟨ts, -, -, -, heq⟩ := frameMove_eq_some hmove
  have hone : ∀ pose : MovePose R, pose.mesh?.isSome = !pose.primitive?.isSome := fun pose => by
    cases pose <;> rfl
  refine ⟨?_, h.card_pos htracked⟩
  rw [← length_visit_filterMap ord (σ.meshIds msg.id) fun id hid => h.movePose hid, ← length_filterMap_add hone]
  generalize msg.id = f at heq
  rw [heq]
  rfl

end Moves

end Entries

/-! ### Sections in any order -/

/-- The state under the mutex, and the sections that each fetch has still to run. -/
structure Pool (R : Type*) where
  data : Data R
  todos : List (List (FetchSection R))

def Pool.init : Pool R := ⟨Data.init, []⟩

inductive PoolLabel (R : Type*)
  | call
  /-- a fetch that is not under way has the answer of the World -/
  | items (i : ℕ) (xs : List (FetchItem R))
  | fetchSection (i : ℕ)
  | snapshot (ord : IterOrder Name) (objectFrames : Option (List Name))
  | other (sec : Section R)

/-- The state is complete, and no mesh without bytes is left to be recorded. -/
structure Pool.Intact (p : Pool R) : Prop where
  complete : p.data.Complete
  backed : ∀ todo ∈ p.todos, ∀ sec ∈ todo, sec.Backed p.data

section Pool
variable [Field R] [LinearOrder R] (lib : Library R) (cfg : Config R)

/-- Any fetch runs its next section, or a section of no fetch runs. -/
def poolStep (p : Pool R) : PoolLabel R → Option (Pool R)
  | .call => some { p with todos := p.todos ++ [[]] }
  | .items i xs =>
    match p.todos[i]? with
    | some [] => some { p with todos := p.todos.set i (xs.map .item) }
    | _ => none
  | .fetchSection i =>
    match p.todos[i]? with
    | some (sec :: todo) => some ⟨(sec.run p.data).1, p.todos.set i ((sec.run p.data).2 ++ todo)⟩
    | _ => none
  | .snapshot _ _ => some p
  | .other (.fetch _) => none
  | .other sec => some { p with data := (sec.run lib cfg p.data).1 }

/-- The branches of `poolStep`. -/
inductive PoolStep (p : Pool R) : PoolLabel R → Pool R → Prop
  | call : PoolStep p .call { p with todos := p.todos ++ [[]] }
  | items {i xs} (hi : p.todos[i]? = some []) :
    PoolStep p (.items i xs) { p with todos := p.todos.set i (xs.map .item) }
  | fetchSection {i sec todo} (hi : p.todos[i]? = some (sec :: todo)) :
    PoolStep p (.fetchSection i) ⟨(sec.run p.data).1, p.todos.set i ((sec.run p.data).2 ++ todo)⟩
  | snapshot {ord objectFrames} : PoolStep p (.snapshot ord objectFrames) p
  | other {sec} (hsec : ∀ fetchSection, sec ≠ .fetch fetchSection) :
    PoolStep p (.other sec) { p with data := (sec.run lib cfg p.data).1 }

variable {lib cfg}

omit [Field R] [LinearOrder R] in
/-- What takes no bytes away leaves the meshes to be recorded with theirs. -/
theorem FetchSection.Backed.mono {σ τ : Data R} {sec : FetchSection R} (h : sec.Backed σ)
    (hkept : ∀ id, id ∈ σ.renderablesCollision → id ∈ τ.renderablesCollision) : sec.Backed τ := by
  cases sec with
  | item x => trivial
  | emplace x gltf => trivial
  | record x => exact hkept x.id h

variable (lib cfg) in
theorem Section.run_complete {σ : Data R} {sec : Section R} (hsec : ∀ fetchSection, sec ≠ .fetch fetchSection)
    (h : σ.Complete) : (sec.run lib cfg σ).1.Complete ∧
      (sec.run lib cfg σ).1.renderablesCollision = σ.renderablesCollision := by
  cases sec with
  | fetch fetchSection => exact absurd rfl (hsec fetchSection)
  | remove frame => exact ⟨h.erase frame, rfl⟩
  | update ord now transforms =>
    have hsame := SameShapes.update lib cfg ord now transforms σ
    exact ⟨h.of_same hsame, hsame.renderables⟩
  | queue names frames =>
    have hsame := SameShapes.queue σ names frames
    exact ⟨h.of_same hsame, hsame.renderables⟩
  | takeRequest => exact ⟨h.of_same ⟨rfl, rfl, rfl, rfl⟩, rfl⟩
  | shutdown => exact ⟨h.of_same ⟨rfl, rfl, rfl, rfl⟩, rfl⟩

theorem poolStep_eq_some {p p' : Pool R} {l : PoolLabel R} (h : poolStep lib cfg p l = some p') :
    PoolStep lib cfg p l p' := by
  cases l with
  | call =>
    obtain rfl := Option.some.inj h
    exact .call
  | items i xs =>
    simp only [poolStep] at h
    split at h
    · rename_i hi
      obtain rfl := Option.some.inj h
      exact .items hi
    · cases h
  | fetchSection i =>
    simp only [poolStep] at h
    split at h
    · rename_i hi
      obtain rfl := Option.some.inj h
      exact .fetchSection hi
    · cases h
  | snapshot ord objectFrames =>
    obtain rfl := Option.some.inj h
    exact .snapshot
  | other sec =>
    cases sec with
    | fetch fetchSection => cases h
    | _ =>
      obtain rfl := Option.some.inj h
      exact .other fun fetchSection hfetch => by cases hfetch

omit [Field R] [LinearOrder R] in
theorem intact_init : (Pool.init : Pool R).Intact :=
  ⟨complete_init, fun todo htodo => by cases htodo⟩

theorem intact_step {p p' : Pool R} {l : PoolLabel R} (h : p.Intact) (hstep : poolStep lib cfg p l = some p') :
    p'.Intact := by
  obtain ⟨hcomplete, hbacked⟩ := h
  cases poolStep_eq_some hstep with
  | call =>
    refine ⟨hcomplete, fun todo htodo sec hsec => ?_⟩
    rcases List.mem_append.mp htodo with htodo | htodo
    · exact hbacked todo htodo sec hsec
    · rw [List.mem_singleton.mp htodo] at hsec
      cases hsec
  | items hi =>
    refine ⟨hcomplete, fun todo htodo sec hsec => ?_⟩
    rcases List.mem_or_eq_of_mem_set htodo with htodo | rfl
    · exact hbacked todo htodo sec hsec
    · obtain ⟨x, -, rfl⟩ := List.mem_map.mp hsec
      trivial
  | @fetchSection i sec todo hi =>
    have hmem := List.mem_of_getElem? hi
    obtain ⟨hcomplete', hkept, hleft⟩ := (sectionRun p.data sec).complete hcomplete
      (hbacked _ hmem sec List.mem_cons_self)
    refine ⟨hcomplete', fun todo' htodo' s hs => ?_⟩
    rcases List.mem_or_eq_of_mem_set htodo' with htodo' | rfl
    · exact (hbacked todo' htodo' s hs).mono hkept
    · rcases List.mem_append.mp hs with hs | hs
      · exact hleft s hs
      · exact (hbacked _ hmem s (List.mem_cons_of_mem sec hs)).mono hkept
  | snapshot => exact ⟨hcomplete, hbacked⟩
  | other hsec =>
    obtain ⟨hcomplete', hrenderables⟩ := Section.run_complete lib cfg hsec hcomplete
    exact ⟨hcomplete', fun todo htodo s hs => (hbacked todo htodo s hs).mono fun id hid => hrenderables ▸ hid⟩

theorem intact_of_reachable {p : Pool R} (h : Reachable (poolStep lib cfg) Pool.init p) : p.Intact :=
  h.invariant intact_init fun _ _ _ => intact_step

/-- In every order of the sections, whatever the World answers to each fetch: no tracked
frame is without mesh ids, and no mesh id of one is without its pose and its shape; so
the snapshots and the MOVEs of that moment skip none. -/
theorem tracked_ids_complete {p : Pool R} (h : Reachable (poolStep lib cfg) Pool.init p) :
    p.data.Complete ∧
      (∀ f, ∀ id ∈ p.data.meshIds f, (shapeEntry p.data id).isSome ∧ (movePose p.data id).isSome) ∧
      (∀ ord objectFrames, ∀ d ∈ snapshot ord p.data objectFrames,
        d.gltfMeshes.length + d.primitives.length = (p.data.meshIds d.tfFrameName).card ∧
          0 < (p.data.meshIds d.tfFrameName).card) ∧
      ∀ ord now transforms, ∀ msg ∈ (updateCollisionObjects lib cfg ord now transforms p.data).2,
        msg.meshPoses.length + msg.primitivePoses.length = (p.data.meshIds msg.id).card ∧
          0 < (p.data.meshIds msg.id).card := by
  have hcomplete := (intact_of_reachable h).complete
  refine ⟨hcomplete, fun f id hid => ⟨hcomplete.shapeEntry hid, hcomplete.movePose hid⟩, ?_, ?_⟩
  · exact fun ord objectFrames d hd => hcomplete.snapshot hd
  · exact fun ord now transforms msg hmsg => hcomplete.move hmsg

namespace Sample

def twoObjects : List (WorldObject ℚ) :=
  [object "box".toList (boxGeometry 1), object "part".toList (meshGeometry "a".toList)]

/-- Two fetches of a box and a mesh; the frames are removed while the bytes are there
and the mesh is still to be recorded. -/
def mixedSections : List (PoolLabel ℚ) :=
  let xs := fetchPlan library Config.default (client []).getGltf twoObjects
  [.call, .call, .items 0 xs, .items 1 xs, .fetchSection 0, .fetchSection 0, .fetchSection 0,
    .snapshot (.increasing Name) none, .fetchSection 1, .other (.remove "part/whole".toList),
    .other (.remove "box/whole".toList), .fetchSection 0, .fetchSection 1,
    .other (.update (.increasing Name) 0 [transform "part/whole".toList]), .fetchSection 1]

end Sample

theorem tracked_ids_complete_mixed : ∃ p : Pool ℚ,
    exec (poolStep Sample.library Config.default) Pool.init Sample.mixedSections = some p ∧
      p.data.Tracked "part/whole".toList ∧ p.data.Complete ∧
      (∀ f, ∀ id ∈ p.data.meshIds f, (shapeEntry p.data id).isSome ∧ (movePose p.data id).isSome) ∧
      (∀ ord objectFrames, ∀ d ∈ snapshot ord p.data objectFrames,
        d.gltfMeshes.length + d.primitives.length = (p.data.meshIds d.tfFrameName).card ∧
          0 < (p.data.meshIds d.tfFrameName).card) ∧
      ∀ ord now transforms,
        ∀ msg ∈ (updateCollisionObjects Sample.library Config.default ord now transforms p.data).2,
          msg.meshPoses.length + msg.primitivePoses.length = (p.data.meshIds msg.id).card ∧
            0 < (p.data.meshIds msg.id).card := by
  obtain ⟨p, hrun, htracked⟩ : ∃ p, exec (poolStep Sample.library Config.default) Pool.init Sample.mixedSections =
      some p ∧ decide (p.data.Tracked "part/whole".toList) = true :=
    (Option.any_eq_true _ _).mp (by decide +kernel)
  exact ⟨p, hrun, of_decide_eq_true htracked, tracked_ids_complete ⟨_, hrun⟩⟩

/-! ### The threads are such a run -/

/-- The pool of the threads: their state, and the fetches of their calls. -/
def Sys.pool (s : Sys R) : Pool R := ⟨s.data, s.todos⟩

omit [Field R] [LinearOrder R] in
theorem Sys.pool_eq {s : Sys R} {data : Data R} {todos : List (List (FetchSection R))} (hdata : s.data = data)
    (htodos : s.todos = todos) : s.pool = ⟨data, todos⟩ := by
  rw [Sys.pool, hdata, htodos]

/-- What a step of the threads does, the pool can do. -/
theorem pool_step {p : Pool R} {s s' : Sys R} {l : Label R} (h : Reachable (poolStep lib cfg) p s.pool)
    (hstep : step lib cfg s l = some s') : Reachable (poolStep lib cfg) p s'.pool := by
  have hsame : ∀ {t : Sys R}, t.data = s.data → t.todos = s.todos → Reachable (poolStep lib cfg) p t.pool :=
    fun hdata htodos => Sys.pool_eq hdata htodos ▸ h
  have hcall : Reachable (poolStep lib cfg) p ⟨s.data, s.todos ++ [[]]⟩ := h.next (l := .call) rfl
  have hnew : ∀ {t : Sys R} {data caller names}, Reachable (poolStep lib cfg) p ⟨data, s.todos ++ [[]]⟩ →
      t.data = data → t.calls = s.calls ++ [⟨caller, names, .requesting⟩] → Reachable (poolStep lib cfg) p t.pool :=
    fun hreached hdata hcalls => Sys.pool_eq hdata (todos_newCall hcalls) ▸ hreached
  cases step_eq_some.mp hstep with
  | syncService => exact hnew hcall rfl rfl
  | planning objectNames => exact hnew hcall rfl rfl
  | takeRequest hready =>
    have htaken : Reachable (poolStep lib cfg) p ⟨s.data.takeRequest, s.todos ++ [[]]⟩ :=
      hcall.next (l := .other .takeRequest) rfl
    exact hnew htaken rfl rfl
  | getObjects i call response getGltf hcall hphase =>
    have hi : s.todos[i]? = some [] := by rw [todos_getElem? hcall, hphase]; rfl
    cases response with
    | error e =>
      refine hsame rfl (todos_setPhase_done hcall (by rw [hphase]; rfl) ?_)
      rw [Call.afterResponse]
      split_ifs <;> rfl
    | ok objects =>
      refine h.next (l := .items i (fetchPlan lib cfg getGltf objects)) ?_
      rw [Sys.pool_eq rfl (todos_setPhase s i call _)]
      simp only [poolStep, Sys.pool, hi]
      rfl
  | fetchSection i call sec todo hcall hphase =>
    have hi : s.todos[i]? = some (sec :: todo) := by rw [todos_getElem? hcall, hphase]; rfl
    refine h.next (l := .fetchSection i) ?_
    rw [Sys.pool_eq rfl (todos_setPhase _ i call _)]
    simp only [poolStep, Sys.pool, hi]
    rfl
  | snapshot i call ord now hcall hphase => exact hsame rfl (todos_setPhase_done hcall (by rw [hphase]; rfl) rfl)
  | publish i call msg msgs hcall hphase => exact hsame rfl (todos_setPhase_done hcall (by rw [hphase]; rfl) rfl)
  | tfErase now m frame frames htf => exact h.next (l := .other (.remove frame)) rfl
  | tfQueue m htf => exact h.next (l := .other (.queue m.newObjectNames m.newTfFrameNames)) rfl
  | tfUpdate ord now m htf => exact h.next (l := .other (.update ord now m.transforms)) rfl
  | shutdown => exact h.next (l := .other .shutdown) rfl
  | _ => exact hsame rfl rfl

/-- So the threads never have a tracked frame without geometry. -/
theorem complete_of_reachable {s : Sys R} (h : Reachable (step lib cfg) Sys.init s) : s.data.Complete := by
  have hpool : Reachable (poolStep lib cfg) Pool.init s.pool :=
    h.invariant (I := fun s => Reachable (poolStep lib cfg) Pool.init s.pool) (Reachable.init _)
      fun _ _ _ => pool_step
  exact (intact_of_reachable hpool).complete

end Pool

end MoveitPlanning.Scene
