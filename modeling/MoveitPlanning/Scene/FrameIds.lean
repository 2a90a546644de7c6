import MoveitPlanning.Scene.GhostObstacle
import MoveitPlanning.Scene.MoveStream
import MoveitPlanning.Scene.FrameNames

/-! The ids on `/collision_object`. A fetch drops the objects of excluded namespaces by
their short names, and everything published later is keyed by the frame it made of a
short name and an entity. A short name has no slash, so a frame can be read back in one
way only, and no frame of an excluded object is ever tracked, carried or published. -/

namespace MoveitPlanning.Scene

open Foundation

variable {R : Type*}

/-! ### Reading an id -/

/-- The id reads as the frame of an entity `e` of an object with the short name `s`. -/
def Parses (cfg : Config R) (id s e : Name) : Prop := id = cfg.tfFrameName s e ∧ '/' ∉ s

/-- The frame of an entity of an object that is not excluded. -/
def Exported (cfg : Config R) (f : Name) : Prop := ∃ s e, Parses cfg f s e ∧ cfg.isExcluded s = false

theorem Parses.unique {cfg : Config R} {id s e s' e' : Name} (h : Parses cfg id s e)
    (h' : Parses cfg id s' e') : s = s' ∧ e = e' := by
  obtain ⟨rfl, hs⟩ := h
  obtain ⟨heq, hs'⟩ := h'
  rw [Config.tfFrameName, Config.tfFrameName, List.append_assoc, List.append_assoc,
    List.append_cancel_left_eq] at heq
  have hobject : s = s' := by
    rw [← takeWhile_childFrame hs e, ← takeWhile_childFrame hs' e', childFrame, childFrame, heq]
  subst hobject
  exact ⟨rfl, by simpa using heq⟩

theorem not_mem_of_mem_splitOn {c : Char} {l part : Name} (h : part ∈ l.splitOn c) : c ∉ part := by
  induction l generalizing part with
  | nil =>
    obtain rfl := List.mem_singleton.mp h
    exact List.not_mem_nil
  | cons x l ih =>
    rw [List.splitOn_cons_eq_if_modifyHead] at h
    split_ifs at h with hx
    · rcases List.mem_cons.mp h with rfl | h
      · exact List.not_mem_nil
      · exact ih h
    · obtain ⟨first, rest, hsplit⟩ := List.exists_cons_of_ne_nil (List.splitOn_ne_nil c l)
      rw [hsplit, List.modifyHead_cons] at h
      rcases List.mem_cons.mp h with rfl | h
      · intro hmem
        rcases List.mem_cons.mp hmem with rfl | hmem
        · simp at hx
        · exact ih (by simp [hsplit]) hmem
      · exact ih (by simp [hsplit, h])

theorem Config.not_mem_shortName (cfg : Config R) (objectName : Name) : '/' ∉ cfg.shortName objectName := by
  rw [Config.shortName, List.getLastD_eq_getLast?,
    List.getLast?_eq_some_getLast (List.splitOn_ne_nil _ _), Option.getD_some]
  exact not_mem_of_mem_splitOn (List.getLast_mem _)

theorem CollisionFrame.exported {cfg : Config R} {objects : List (WorldObject R)} {f : Name}
    (h : CollisionFrame cfg objects f) : Exported cfg f := by
  obtain ⟨object, -, ⟨-, hexcluded⟩, entity, -, -, rfl⟩ := h
  exact ⟨cfg.shortName object.name, entity.name, ⟨rfl, cfg.not_mem_shortName object.name⟩, hexcluded⟩

/-! ### Excluded objects -/

/-- The World without the objects of excluded namespaces. -/
def withoutExcluded (cfg : Config R) (objects : List (WorldObject R)) : List (WorldObject R) :=
  objects.filter fun object => !cfg.isExcluded (cfg.shortName object.name)

/-- The same step, had the World not held the excluded objects. -/
def Label.withoutExcluded (cfg : Config R) : Label R → Label R
  | .getObjects i (.ok objects) getGltf => .getObjects i (.ok (Scene.withoutExcluded cfg objects)) getGltf
  | l => l

section Excluded
variable [Zero R] [One R] (lib : Library R) (cfg : Config R)

theorem objectGeometries_of_excluded {object : WorldObject R}
    (h : cfg.isExcluded (cfg.shortName object.name) = true) : objectGeometries lib cfg object = [] := by
  have hentity : ∀ entity, entityGeometries lib cfg object entity = [] := fun entity =>
    List.eq_nil_iff_forall_not_mem.mpr fun g hg => by
      simp [((mem_entityGeometries lib cfg object entity g).mp hg).1] at h
  rw [objectGeometries]
  split_ifs
  · rfl
  · exact List.flatMap_eq_nil_iff.mpr fun entity _ => hentity entity

theorem collisionGeometries_withoutExcluded (objects : List (WorldObject R)) :
    collisionGeometries lib cfg (withoutExcluded cfg objects) = collisionGeometries lib cfg objects := by
  induction objects with
  | nil => rfl
  | cons object objects ih =>
    cases hexcluded : cfg.isExcluded (cfg.shortName object.name) with
    | true =>
      rw [withoutExcluded, List.filter_cons_of_neg (by simp [hexcluded]), ← withoutExcluded, ih,
        collisionGeometries, collisionGeometries, List.flatMap_cons,
        objectGeometries_of_excluded lib cfg hexcluded, List.nil_append]
    | false =>
      rw [withoutExcluded, List.filter_cons_of_pos (by simp [hexcluded]), ← withoutExcluded,
        collisionGeometries, List.flatMap_cons, ← collisionGeometries, ih, collisionGeometries,
        collisionGeometries, List.flatMap_cons]

theorem fetchPlan_withoutExcluded (getGltf : ℕ → GeoRef → Except Failure Bytes)
    (objects : List (WorldObject R)) :
    fetchPlan lib cfg getGltf (withoutExcluded cfg objects) = fetchPlan lib cfg getGltf objects := by
  rw [fetchPlan, collisionGeometries_withoutExcluded, fetchPlan]

end Excluded

/-! ### Runs -/

/-- Whatever is held, or is or will be published other than for removal, is exported. -/
structure ExportInvariant (cfg : Config R) (s : Sys R) : Prop where
  held : ∀ f, Held s f → Exported cfg f
  removal : ∀ m msg frames, s.tf = .publishRemove m msg frames → msg.operation = .remove
  moves : ∀ msg ∈ s.tf.pendingMoves, Exported cfg msg.id
  published : ∀ msg ∈ s.published, msg.operation ≠ .remove → Exported cfg msg.id

theorem exportInvariant_init (cfg : Config R) : ExportInvariant cfg (Sys.init : Sys R) where
  held f h := by
    rcases h with h | ⟨call, hcall, -⟩
    · exact absurd h Finmap.notMem_empty
    · simp [Sys.init] at hcall
  removal m msg frames htf := by cases htf
  moves msg hmsg := by simp [Sys.init, TfPhase.pendingMoves] at hmsg
  published msg hmsg := by simp [Sys.init] at hmsg

section Step
variable [Field R] [LinearOrder R] {lib : Library R} {cfg : Config R}

theorem step_withoutExcluded (s : Sys R) (l : Label R) :
    step lib cfg s (l.withoutExcluded cfg) = step lib cfg s l := by
  cases l with
  | getObjects i response getGltf =>
    cases response with
    | error e => rfl
    | ok objects =>
      simp only [Label.withoutExcluded, step, Call.afterResponse, fetchPlan_withoutExcluded]
  | _ => rfl

theorem exec_withoutExcluded (s : Sys R) (ls : List (Label R)) :
    exec (step lib cfg) s (ls.map (Label.withoutExcluded cfg)) = exec (step lib cfg) s ls := by
  induction ls generalizing s with
  | nil => rfl
  | cons l ls ih =>
    rw [List.map_cons, exec, step_withoutExcluded, exec]
    congr 1
    funext s'
    exact ih s'

theorem carried_of_published {s s' : Sys R} {l : Label R} (hl : l.isTf = false)
    (hstep : step lib cfg s l = some s') {msg : CollisionObject R} (h : msg ∈ s'.published) :
    msg ∈ s.published ∨ Carried s msg.id := by
  cases step_eq_some.mp hstep with
  | publish i call msg' msgs hcall hphase =>
    rcases List.mem_append.mp h with h | h
    · exact .inl h
    · obtain rfl := List.mem_singleton.mp h
      exact .inr (carried_of_phase hcall (by rw [hphase]; exact ⟨msg, by simp, rfl⟩))
  | tfPublishRemove => cases hl
  | tfPublishMove => cases hl
  | _ => exact .inl h

theorem exportInvariant_step {s s' : Sys R} {l : Label R} (hi : ExportInvariant cfg s)
    (hstep : step lib cfg s l = some s') : ExportInvariant cfg s' := by
  by_cases hl : l.isTf = false
  · have havoids : l.Avoids cfg fun f => ¬Exported cfg f := by
      cases l with
      | getObjects i response getGltf =>
        cases response with
        | error e => trivial
        | ok objects => exact fun f hf => not_not.mpr hf.exported
      | tfMessage => cases hl
      | _ => trivial
    have hown := ownStep_of_step hl havoids hstep
    refine ⟨fun f hf => ?_, hown.tf ▸ hi.removal, hown.tf ▸ hi.moves, fun msg hmsg hop => ?_⟩
    · by_contra hexported
      exact hexported (hi.held f (hown.held f hexported hf))
    · rcases carried_of_published hl hstep hmsg with hmsg | hcarried
      · exact hi.published msg hmsg hop
      · exact hi.held msg.id (.inr hcarried)
  cases step_eq_some.mp hstep with
  | tfMessage ord msg htf =>
    exact ⟨hi.held, fun _ _ _ h => (by cases h), fun _ h => (by cases h), hi.published⟩
  | tfErase now m frame frames htf =>
    refine ⟨fun f hf => hi.held f ?_, fun _ _ _ h => ?_, fun _ h => (by cases h), hi.published⟩
    · exact hf.imp_left fun ht => ((s.data.erase_tracked frame f).mp ht).2
    · obtain ⟨-, rfl, -⟩ := TfPhase.publishRemove.inj h
      rfl
  | tfPublishRemove m msg frames htf =>
    refine ⟨hi.held, fun _ _ _ h => (by cases h), fun _ h => (by cases h), fun m' hm' hop => ?_⟩
    rcases List.mem_append.mp hm' with hm' | hm'
    · exact hi.published m' hm' hop
    · obtain rfl := List.mem_singleton.mp hm'
      exact absurd (hi.removal m m' frames htf) hop
  | tfQueue m htf =>
    refine ⟨fun f hf => hi.held f ?_, fun _ _ _ h => (by cases h), fun _ h => (by cases h), hi.published⟩
    exact hf.imp_left fun ht => by simpa [Data.Tracked] using ht
  | tfUpdate ord now m htf =>
    obtain ⟨poses, times, hdata⟩ := updateCollisionObjects_data lib cfg ord now m.transforms s.data
    refine ⟨fun f hf => hi.held f ?_, fun _ _ _ h => (by cases h), fun msg hmsg => ?_, hi.published⟩
    · exact hf.imp_left fun ht => by simpa [Data.Tracked, hdata] using ht
    · -- a MOVE is for a tracked frame
      obtain ⟨f, ts, htracked, -, -, rfl⟩ := mem_updateCollisionObjects hmsg
      exact hi.held f (.inl htracked)
  | tfPublishMove msg msgs htf =>
    have hmoves : ∀ m ∈ msg :: msgs, Exported cfg m.id := by
      simpa [htf, TfPhase.pendingMoves] using hi.moves
    refine ⟨hi.held, fun _ _ _ h => (by cases h), fun m hm => hmoves m (List.mem_cons_of_mem _ hm),
      fun m hm hop => ?_⟩
    rcases List.mem_append.mp hm with hm | hm
    · exact hi.published m hm hop
    · obtain rfl := List.mem_singleton.mp hm
      exact hmoves m List.mem_cons_self
  | tfReturn htf =>
    exact ⟨hi.held, fun _ _ _ h => (by cases h), fun _ h => (by cases h), hi.published⟩
  | _ => exact absurd rfl hl

/-- In every run the id of an ADD or a MOVE reads in exactly one way, as a frame of an
object that is not excluded; ids of different pairs differ, and the excluded objects of
the World might as well not have been there. -/
theorem published_ids_parse {t : Sys R} {ls : List (Label R)}
    (hrun : exec (step lib cfg) Sys.init ls = some t) :
    (∀ msg ∈ t.published, msg.operation = .add ∨ msg.operation = .move →
      (∃! p : Name × Name, Parses cfg msg.id p.1 p.2) ∧
        (∀ s e, Parses cfg msg.id s e → s ∉ cfg.excludedCollisionNamespaces) ∧
        ∀ objectName, cfg.shortName objectName ∈ cfg.excludedCollisionNamespaces →
          ∀ entityName, msg.id ≠ cfg.tfFrameName (cfg.shortName objectName) entityName) ∧
      (∀ s e s' e', '/' ∉ s → '/' ∉ s' → cfg.tfFrameName s e = cfg.tfFrameName s' e' → s = s' ∧ e = e') ∧
      exec (step lib cfg) Sys.init (ls.map (Label.withoutExcluded cfg)) = some t := by
  have hi : ExportInvariant cfg t := Reachable.invariant ⟨ls, hrun⟩ (exportInvariant_init cfg)
    fun _ _ _ hi hs => exportInvariant_step hi hs
  refine ⟨fun msg hmsg hop => ?_, fun s e s' e' hs hs' heq => ?_, ?_⟩
  · have hne : msg.operation ≠ .remove := by rcases hop with hop | hop <;> rw [hop] <;> decide
    obtain ⟨s, e, hparse, hexcluded⟩ := hi.published msg hmsg hne
    have hnot : s ∉ cfg.excludedCollisionNamespaces := by
      intro hmem
      rw [Config.isExcluded, List.contains_iff_mem.mpr hmem] at hexcluded
      cases hexcluded
    refine ⟨⟨(s, e), hparse, fun p hp => ?_⟩, fun s' e' hparse' => ?_, fun objectName hmem entityName hid => ?_⟩
    · obtain ⟨hs, he⟩ := hp.unique hparse
      exact Prod.ext hs he
    · rwa [← (hparse.unique hparse').1]
    · have hobject : Parses cfg msg.id (cfg.shortName objectName) entityName :=
        ⟨hid, cfg.not_mem_shortName objectName⟩
      exact hnot ((hparse.unique hobject).1 ▸ hmem)
  · have hparse : Parses cfg (cfg.tfFrameName s e) s e := ⟨rfl, hs⟩
    exact hparse.unique ⟨heq, hs'⟩
  · rw [exec_withoutExcluded]
    exact hrun

end Step

/-! ### A box and the gripper -/

namespace Sample

/-- A planning request fetches a gripper and a box, and publishes what it has tracked. -/
def gripperFetched : List (Label ℚ) :=
  [.planning none,
    .getObjects 0 (.ok [object "gripper".toList (boxGeometry 1), object "cell/box".toList (boxGeometry 1)])
      fun _ _ => .error ⟨.unavailable, []⟩,
    .fetchSection 0, .snapshot 0 (.increasing Name) 0, .publish 0]

end Sample

theorem published_ids_parse_box : ∃ t, exec (step Sample.library Config.default) (Sys.init : Sys ℚ)
      Sample.gripperFetched = some t ∧
    t.published.map (fun msg => (msg.operation, msg.id)) = [(.add, "box/whole".toList)] ∧
    (∀ msg ∈ t.published, msg.operation = .add ∨ msg.operation = .move →
      (∃! p : Name × Name, Parses (Config.default : Config ℚ) msg.id p.1 p.2) ∧
        (∀ s e, Parses (Config.default : Config ℚ) msg.id s e →
          s ∉ (Config.default : Config ℚ).excludedCollisionNamespaces) ∧
        ∀ objectName, (Config.default : Config ℚ).shortName objectName ∈
            (Config.default : Config ℚ).excludedCollisionNamespaces →
          ∀ entityName, msg.id ≠ (Config.default : Config ℚ).tfFrameName
            ((Config.default : Config ℚ).shortName objectName) entityName) := by
  obtain ⟨t, hrun, hpublished⟩ : ∃ t : Sys ℚ, exec (step Sample.library Config.default) Sys.init
      Sample.gripperFetched = some t ∧ decide
        (t.published.map (fun msg => (msg.operation, msg.id)) = [(.add, "box/whole".toList)]) = true :=
    (Option.any_eq_true _ _).mp (by decide +kernel)
  exact ⟨t, hrun, of_decide_eq_true hpublished, (published_ids_parse hrun).1⟩

end MoveitPlanning.Scene
