import MoveitPlanning.Scene.Threads
import MoveitPlanning.Scene.MovePass
import MoveitPlanning.Foundation.Presence

/-! The stream of messages on `/collision_object` as MoveIt sees it. MoveIt holds an
object from its ADD to its REMOVE, and can apply a MOVE only to an object it holds. The
pass of `updateCollisionObjects` asks whether a frame is tracked, not whether its ADD
has been published; where it makes MOVEs only for objects that are held, no REMOVE can
come between a MOVE and its publication, as the same callback sends both. -/

namespace MoveitPlanning.Scene

open Foundation

variable {R : Type*}

/-! ### MoveIt's side -/

def CollisionObject.Adds (msg : CollisionObject R) (f : Name) : Prop := msg.operation = .add ∧ msg.id = f

def CollisionObject.Removes (msg : CollisionObject R) (f : Name) : Prop := msg.operation = .remove ∧ msg.id = f

def CollisionObject.Moves (msg : CollisionObject R) (f : Name) : Prop := msg.operation = .move ∧ msg.id = f

/-- The object's ADD has been published, and no REMOVE since. -/
def HeldByMoveIt (published : List (CollisionObject R)) (f : Name) : Prop :=
  Present CollisionObject.Adds CollisionObject.Removes published f

/-- Every MOVE is for an object that is held. -/
def MovesApplicable (published : List (CollisionObject R)) : Prop :=
  Sound CollisionObject.Adds CollisionObject.Removes CollisionObject.Moves published

def TfPhase.pendingMoves : TfPhase R → List (CollisionObject R)
  | .publishMoves msgs => msgs
  | _ => []

/-- MoveIt can apply the message: it held the object when the message was published, or
holds it while the message is still to be published. -/
def Sys.Applied (s : Sys R) (msg : CollisionObject R) : Prop :=
  (∃ before after, s.published = before ++ msg :: after ∧ HeldByMoveIt before msg.id) ∨
    (msg ∈ s.tf.pendingMoves ∧ HeldByMoveIt s.published msg.id)

/-- Every pose the deadband compares with is that of a MOVE which MoveIt can apply. -/
def DeadbandApplicable (s : Sys R) : Prop :=
  ∀ f pose, s.data.lastPublishedCollisionPose.lookup f = some pose →
    ∃ msg, msg.Moves f ∧ msg.pose = pose ∧ s.Applied msg

theorem heldByMoveIt_concat {published : List (CollisionObject R)} {msg : CollisionObject R} {f : Name} :
    HeldByMoveIt (published ++ [msg]) f ↔ msg.Adds f ∨ HeldByMoveIt published f ∧ ¬msg.Removes f :=
  present_concat

theorem movesApplicable_concat {published : List (CollisionObject R)} {msg : CollisionObject R} :
    MovesApplicable (published ++ [msg]) ↔
      MovesApplicable published ∧ ∀ f, msg.Moves f → HeldByMoveIt published f := sound_concat

theorem HeldByMoveIt.concat {published : List (CollisionObject R)} {f : Name} (h : HeldByMoveIt published f)
    {msg : CollisionObject R} (hop : msg.operation ≠ .remove) : HeldByMoveIt (published ++ [msg]) f :=
  heldByMoveIt_concat.mpr (.inr ⟨h, fun hr => hop hr.1⟩)

/-! ### The MOVEs of a pass -/

section Update
variable [Field R] [LinearOrder R] (lib : Library R) (cfg : Config R) (ord : IterOrder Name) (now : ℤ)
  (transforms : List (TransformStamped R)) (σ : Data R)

/-- The pass makes a MOVE of the frame: it is tracked, has a transform, and neither the
rate nor the deadband holds it back. -/
def MoveDue (f : Name) : Prop :=
  σ.Tracked f ∧ ∃ ts, (transforms.find? fun ts => ts.childFrameId = f) = some ts ∧
    rateLimited lib cfg now σ f = false ∧ withinDeadband lib cfg σ f ts.pose = false

/-- What was published last for the frames is what it was in `σ`. -/
def SameReference (frames : List Name) (τ : Data R) : Prop :=
  ∀ f ∈ frames, τ.lastPublishedCollisionPose.lookup f = σ.lastPublishedCollisionPose.lookup f ∧
    τ.lastPublishedCollisionTime.lookup f = σ.lastPublishedCollisionTime.lookup f

/-- Every MOVE made so far was due, and every new reference pose is that of a MOVE. -/
structure MovesMade (acc : Data R × List (CollisionObject R)) : Prop where
  due : ∀ msg ∈ acc.2, msg.operation = .move ∧ MoveDue lib cfg now transforms σ msg.id
  reference : ∀ f pose, acc.1.lastPublishedCollisionPose.lookup f = some pose →
    σ.lastPublishedCollisionPose.lookup f = some pose ∨ ∃ msg ∈ acc.2, msg.Moves f ∧ msg.pose = pose

variable {lib cfg now transforms σ}

theorem updateFrame_movesMade {f : Name} {frames : List Name} {acc : Data R × List (CollisionObject R)}
    (hmade : MovesMade lib cfg now transforms σ acc) (hsame : SameReference σ (f :: frames) acc.1)
    (htracked : σ.Tracked f) (hf : f ∉ frames) :
    MovesMade lib cfg now transforms σ (updateFrame lib cfg ord now transforms acc f) ∧
      SameReference σ frames (updateFrame lib cfg ord now transforms acc f).1 := by
  have hrest : SameReference σ frames acc.1 := fun g hg => hsame g (List.mem_cons_of_mem _ hg)
  rw [updateFrame_eq]
  cases hmove : frameMove lib cfg ord now transforms acc.1 f with
  | none => exact ⟨hmade, hrest⟩
  | some msg =>
    obtain ⟨ts, hfind, hlimited, hwithin, rfl⟩ := frameMove_eq_some hmove
    obtain ⟨hpose, htime⟩ := hsame f (by simp)
    have hdue : MoveDue lib cfg now transforms σ f := by
      rw [rateLimited, htime, ← rateLimited] at hlimited
      rw [withinDeadband, hpose, ← withinDeadband] at hwithin
      exact ⟨htracked, ts, hfind, hlimited, hwithin⟩
    refine ⟨⟨fun msg hmsg => ?_, fun g pose hg => ?_⟩, fun g hg => ?_⟩
    · rcases List.mem_append.mp hmsg with hmsg | hmsg
      · exact hmade.due msg hmsg
      · rw [List.mem_singleton.mp hmsg]
        exact ⟨rfl, hdue⟩
    · rw [noteMove_pose] at hg
      split_ifs at hg with hgf
      · exact .inr ⟨moveMessage ord now acc.1 f ts, by simp, ⟨rfl, hgf.symm⟩, Option.some.inj hg⟩
      · rcases hmade.reference g pose hg with hold | ⟨msg, hmsg, hmove⟩
        · exact .inl hold
        · exact .inr ⟨msg, List.mem_append_left _ hmsg, hmove⟩
    · have hne : g ≠ f := fun he => hf (he ▸ hg)
      rw [noteMove_pose, noteMove_time, moveMessage, if_neg hne, if_neg hne]
      exact hrest g hg

theorem updateCollisionObjects_movesMade :
    MovesMade lib cfg now transforms σ (updateCollisionObjects lib cfg ord now transforms σ) := by
  have pass : ∀ (frames : List Name) (acc : Data R × List (CollisionObject R)), frames.Nodup →
      (∀ f ∈ frames, σ.Tracked f) → MovesMade lib cfg now transforms σ acc →
      SameReference σ frames acc.1 →
      MovesMade lib cfg now transforms σ (frames.foldl (updateFrame lib cfg ord now transforms) acc) := by
    intro frames
    induction frames with
    | nil => exact fun acc _ _ hmade _ => hmade
    | cons f frames ih =>
      intro acc hnodup htracked hmade hsame
      obtain ⟨hf, hnodup⟩ := List.nodup_cons.mp hnodup
      obtain ⟨hmade, hsame⟩ := updateFrame_movesMade ord hmade hsame (htracked f (by simp)) hf
      exact ih _ hnodup (fun g hg => htracked g (by simp [hg])) hmade hsame
  apply pass
  · exact ord.nodup _
  · intro f hf
    rwa [IterOrder.mem_visit, ← σ.tracked_iff_mem_keys] at hf
  · exact ⟨by simp, fun f pose h => .inl h⟩
  · exact fun f _ => ⟨rfl, rfl⟩

end Update

/-! ### Runs -/

structure StreamInvariant (s : Sys R) : Prop where
  calls : ∀ call ∈ s.calls, call.PublishesAdds
  removal : ∀ m msg frames, s.tf = .publishRemove m msg frames → msg.operation = .remove
  pending : ∀ msg ∈ s.tf.pendingMoves, msg.operation = .move ∧ HeldByMoveIt s.published msg.id
  applicable : MovesApplicable s.published
  deadband : DeadbandApplicable s

theorem streamInvariant_init : StreamInvariant (Sys.init : Sys R) where
  calls call hcall := by simp [Sys.init] at hcall
  removal m msg frames htf := by cases htf
  pending msg hmsg := by simp [Sys.init, TfPhase.pendingMoves] at hmsg
  applicable := sound_nil
  deadband f pose h := by simp [Sys.init, Data.init] at h

theorem Sys.Applied.of_prefix {s s' : Sys R} {msg : CollisionObject R} (h : s.Applied msg)
    (hpublished : s.published <+: s'.published)
    (hpending : msg ∈ s.tf.pendingMoves → HeldByMoveIt s.published msg.id → s'.Applied msg) :
    s'.Applied msg := by
  rcases h with ⟨before, after, hsplit, hheld⟩ | ⟨hmem, hheld⟩
  · obtain ⟨tail, htail⟩ := hpublished
    exact .inl ⟨before, after ++ tail, by simp [← htail, hsplit], hheld⟩
  · exact hpending hmem hheld

theorem StreamInvariant.of_silent {s s' : Sys R} (hi : StreamInvariant s)
    (hcalls : ∀ call ∈ s'.calls, call.PublishesAdds)
    (hremoval : ∀ m msg frames, s'.tf = .publishRemove m msg frames → msg.operation = .remove)
    (hpublished : s'.published = s.published) (hpending : s'.tf.pendingMoves = s.tf.pendingMoves)
    (hreference : ∀ f pose, s'.data.lastPublishedCollisionPose.lookup f = some pose →
      s.data.lastPublishedCollisionPose.lookup f = some pose) : StreamInvariant s' where
  calls := hcalls
  removal := hremoval
  pending := by rw [hpending, hpublished]; exact hi.pending
  applicable := by rw [hpublished]; exact hi.applicable
  deadband f pose h := by
    obtain ⟨msg, hmoves, hpose, happlied⟩ := hi.deadband f pose (hreference f pose h)
    refine ⟨msg, hmoves, hpose, happlied.of_prefix (hpublished ▸ List.prefix_rfl) fun hmem hheld => ?_⟩
    exact .inr ⟨hpending ▸ hmem, hpublished ▸ hheld⟩

/-- A step that publishes one message: what it moves is held, and what was still to be
published is published or still can be. -/
theorem StreamInvariant.of_published {s s' : Sys R} {msg : CollisionObject R} (hi : StreamInvariant s)
    (hcalls : ∀ call ∈ s'.calls, call.PublishesAdds)
    (hremoval : ∀ m msg frames, s'.tf = .publishRemove m msg frames → msg.operation = .remove)
    (hpublished : s'.published = s.published ++ [msg]) (hdata : s'.data = s.data)
    (hheld : ∀ f, msg.Moves f → HeldByMoveIt s.published f)
    (hpending : ∀ m ∈ s'.tf.pendingMoves, m.operation = .move ∧ HeldByMoveIt s'.published m.id)
    (happlied : ∀ m ∈ s.tf.pendingMoves, HeldByMoveIt s.published m.id → s'.Applied m) : StreamInvariant s' where
  calls := hcalls
  removal := hremoval
  pending := hpending
  applicable := by rw [hpublished]; exact movesApplicable_concat.mpr ⟨hi.applicable, hheld⟩
  deadband f pose h := by
    rw [hdata] at h
    obtain ⟨m, hmoves, hpose, hm⟩ := hi.deadband f pose h
    exact ⟨m, hmoves, hpose, hm.of_prefix (hpublished ▸ List.prefix_append _ _) (happlied m)⟩

section Step
variable [Field R] [LinearOrder R] {lib : Library R} {cfg : Config R}

variable (lib cfg) in
/-- A pass makes MOVEs only of objects that MoveIt holds. -/
def MovesHeld (s : Sys R) : Label R → Prop
  | .tfUpdate _ now => ∀ m, s.tf = .updating m → ∀ f, MoveDue lib cfg now m.transforms s.data f →
      HeldByMoveIt s.published f
  | _ => True

theorem streamInvariant_step {s s' : Sys R} {l : Label R} (hi : StreamInvariant s)
    (hheld : MovesHeld lib cfg s l) (hstep : step lib cfg s l = some s') : StreamInvariant s' := by
  have hcalls := publishesAdds_step hi.calls hstep
  cases step_eq_some.mp hstep with
  | syncService => exact hi.of_silent hcalls hi.removal rfl rfl fun f pose h => h
  | planning objectNames => exact hi.of_silent hcalls hi.removal rfl rfl fun f pose h => h
  | takeRequest hready => exact hi.of_silent hcalls hi.removal rfl rfl fun f pose h => h
  | getObjects i call response getGltf hcall hphase =>
    exact hi.of_silent hcalls hi.removal rfl rfl fun f pose h => h
  | fetchSection i call sec todo hcall hphase =>
    refine hi.of_silent hcalls hi.removal rfl rfl fun f pose h => ?_
    rwa [← (sec.run_keeps s.data).1]
  | snapshot i call ord now hcall hphase => exact hi.of_silent hcalls hi.removal rfl rfl fun f pose h => h
  | publish i call msg msgs hcall hphase =>
    have hadd : msg.operation = .add := hi.calls call (List.mem_of_getElem? hcall) _ hphase msg (by simp)
    have hne : msg.operation ≠ .remove := by rw [hadd]; decide
    refine hi.of_published hcalls hi.removal rfl rfl (fun f hmoves => ?_) (fun m hm => ?_) fun m hm h => ?_
    · cases hadd.symm.trans hmoves.1
    · obtain ⟨hop, h⟩ := hi.pending m hm
      exact ⟨hop, h.concat hne⟩
    · exact .inr ⟨hm, h.concat hne⟩
  | tfMessage ord msg htf =>
    exact hi.of_silent hcalls nofun rfl (by rw [htf]; rfl) fun f pose h => h
  | tfErase now m frame frames htf =>
    refine hi.of_silent hcalls (fun _ _ _ h => ?_) rfl (by rw [htf]; rfl) fun f pose h => ?_
    · obtain ⟨-, rfl, -⟩ := TfPhase.publishRemove.inj h
      rfl
    · by_cases hf : f = frame
      · subst hf
        simp [Data.erase] at h
      · rwa [Data.erase, Finmap.lookup_erase_ne hf] at h
  | tfPublishRemove m msg frames htf =>
    have hremove : msg.operation = .remove := hi.removal m msg frames htf
    refine hi.of_published hcalls nofun rfl rfl (fun f hmoves => ?_) nofun fun m' hm' => ?_
    · cases hremove.symm.trans hmoves.1
    · simp [htf, TfPhase.pendingMoves] at hm'
  | tfQueue m htf =>
    refine hi.of_silent hcalls nofun rfl (by rw [htf]; rfl) fun f pose h => ?_
    rwa [← (s.data.queueObjects_keeps m.newObjectNames).1]
  | tfUpdate ord now m htf =>
    -- the MOVEs of the pass are held now, and no REMOVE comes before them
    have hmade : MovesMade lib cfg now m.transforms s.data
        (updateCollisionObjects lib cfg ord now m.transforms s.data) := updateCollisionObjects_movesMade ord
    have hpending : ∀ msg ∈ (updateCollisionObjects lib cfg ord now m.transforms s.data).2,
        msg.operation = .move ∧ HeldByMoveIt s.published msg.id := fun msg hmsg =>
      ⟨(hmade.due msg hmsg).1, hheld m htf msg.id (hmade.due msg hmsg).2⟩
    refine ⟨hcalls, nofun, hpending, hi.applicable, fun f pose h => ?_⟩
    rcases hmade.reference f pose h with hold | ⟨msg, hmsg, hmoves, hpose⟩
    · obtain ⟨msg, hmoves, hpose, happlied⟩ := hi.deadband f pose hold
      refine ⟨msg, hmoves, hpose, happlied.of_prefix List.prefix_rfl fun hmem => ?_⟩
      simp [htf, TfPhase.pendingMoves] at hmem
    · exact ⟨msg, hmoves, hpose, .inr ⟨hmsg, (hpending msg hmsg).2⟩⟩
  | tfPublishMove msg msgs htf =>
    have hmsgs : ∀ m ∈ msg :: msgs, m.operation = .move ∧ HeldByMoveIt s.published m.id := by
      simpa [htf, TfPhase.pendingMoves] using hi.pending
    obtain ⟨hop, hmsg⟩ := hmsgs msg (by simp)
    have hne : msg.operation ≠ .remove := by rw [hop]; decide
    refine hi.of_published hcalls nofun rfl rfl (fun f hmoves => ?_) (fun m hm => ?_) fun m hm h => ?_
    · rw [← hmoves.2]
      exact hmsg
    · obtain ⟨hmop, h⟩ := hmsgs m (List.mem_cons_of_mem _ hm)
      exact ⟨hmop, h.concat hne⟩
    · rw [htf] at hm
      rcases List.mem_cons.mp hm with rfl | hm
      · exact .inl ⟨s.published, [], rfl, h⟩
      · exact .inr ⟨hm, h.concat hne⟩
  | tfReturn htf =>
    exact hi.of_silent hcalls nofun rfl (by rw [htf]; rfl) fun f pose h => h
  | shutdown => exact hi.of_silent hcalls hi.removal rfl rfl fun f pose h => h

/-- In every run whose passes make MOVEs only of objects that MoveIt holds, MoveIt can
apply every MOVE, those the deadband compares with among them. -/
theorem moves_applicable {t : Sys R} {ls : List (Label R)} (hrun : exec (step lib cfg) Sys.init ls = some t)
    (hheld : Along (step lib cfg) (MovesHeld lib cfg) Sys.init ls) :
    MovesApplicable t.published ∧ DeadbandApplicable t := by
  have hi : StreamInvariant t :=
    exec_invariant (fun _ _ _ hi hp hs => streamInvariant_step hi hp hs) hheld hrun streamInvariant_init
  exact ⟨hi.applicable, hi.deadband⟩

end Step

/-! ### A box that moves -/

namespace Sample

/-- A planning request fetches the box. -/
def boxTracked : List (Label ℚ) :=
  [.planning none, .getObjects 0 (.ok [object "box".toList (boxGeometry 1)]) fun _ _ => .error ⟨.unavailable, []⟩,
    .fetchSection 0]

/-- A TF message with the box, up to its pass. -/
def boxSeen : List (Label ℚ) := [.tfMessage (.increasing Name) [transform "box/whole".toList], .tfQueue]

/-- The pass, and the MOVE it makes. -/
def boxMoved : List (Label ℚ) := [.tfUpdate (.increasing Name) 0, .tfPublishMove]

end Sample

/-- The pass runs between the insertion of the box and its ADD. -/
theorem moved_before_added :
    ∃ ls t, exec (step Sample.library Config.default) (Sys.init : Sys ℚ) ls = some t ∧
      ¬MovesApplicable t.published ∧ ¬DeadbandApplicable t := by
  let frame : Name := "box/whole".toList
  obtain ⟨t, hrun, hend⟩ : ∃ t : Sys ℚ, exec (step Sample.library Config.default) Sys.init
      (Sample.boxTracked ++ Sample.boxSeen ++ Sample.boxMoved) = some t ∧
      ((t.published.map fun msg => (msg.operation, msg.id)) = [(.move, frame)] ∧
        t.tf.pendingMoves = [] ∧ (t.data.lastPublishedCollisionPose.lookup frame).isSome) := by
    simpa using (Option.any_eq_true (fun t : Sys ℚ => decide
      ((t.published.map fun msg => (msg.operation, msg.id)) = [(.move, frame)] ∧
        t.tf.pendingMoves = [] ∧ (t.data.lastPublishedCollisionPose.lookup frame).isSome)) _).mp
      (by decide +kernel)
  obtain ⟨hpublished, hpending, hreference⟩ := hend
  obtain ⟨msg, hmsgs, hmsg⟩ := List.map_eq_singleton_iff.mp hpublished
  obtain ⟨hop, hid⟩ := Prod.mk.inj hmsg
  refine ⟨_, t, hrun, fun h => ?_, fun h => ?_⟩
  · rw [hmsgs] at h
    exact not_present_nil frame (h [] msg [] rfl frame ⟨hop, hid⟩)
  · obtain ⟨pose, hpose⟩ := Option.isSome_iff_exists.mp hreference
    obtain ⟨m, -, -, ⟨before, after, hsplit, hheld⟩ | ⟨hmem, -⟩⟩ := h frame pose hpose
    · rw [hmsgs] at hsplit
      obtain ⟨rfl, -, -⟩ : before = [] ∧ msg = m ∧ after = [] := by
        cases before <;> simp_all
      exact not_present_nil _ hheld
    · simp [hpending] at hmem

/-- The box is added before the pass. -/
theorem moves_applicable_box :
    ∃ t, exec (step Sample.library Config.default) (Sys.init : Sys ℚ)
        (Sample.boxTracked ++ [.snapshot 0 (.increasing Name) 0, .publish 0] ++ Sample.boxSeen ++
          Sample.boxMoved) = some t ∧
      (∃ msg ∈ t.published, msg.operation = .move) ∧ MovesApplicable t.published ∧ DeadbandApplicable t := by
  let frame : Name := "box/whole".toList
  obtain ⟨s, hseen, hbox⟩ : ∃ s : Sys ℚ, exec (step Sample.library Config.default) Sys.init
      (Sample.boxTracked ++ [.snapshot 0 (.increasing Name) 0, .publish 0] ++ Sample.boxSeen) = some s ∧
      (decide (s.data.collisionTfFrameToMeshIds.keys = {frame}) &&
        decide ((s.published.map fun msg => (msg.operation, msg.id)) = [(.add, frame)])) = true :=
    (Option.any_eq_true _ _).mp (by decide +kernel)
  simp only [Bool.and_eq_true, decide_eq_true_eq] at hbox
  obtain ⟨hkeys, hpublished⟩ := hbox
  obtain ⟨msg, hmsgs, hmsg⟩ := List.map_eq_singleton_iff.mp hpublished
  obtain ⟨hop, hid⟩ := Prod.mk.inj hmsg
  obtain ⟨t, hrun, hmoved⟩ : ∃ t : Sys ℚ, exec (step Sample.library Config.default) Sys.init
      (Sample.boxTracked ++ [.snapshot 0 (.increasing Name) 0, .publish 0] ++ Sample.boxSeen ++
        Sample.boxMoved) = some t ∧ (t.published.any fun msg => decide (msg.operation = .move)) = true :=
    (Option.any_eq_true _ _).mp (by decide +kernel)
  have hheld : ∀ f, s.data.Tracked f → HeldByMoveIt s.published f := by
    intro f htracked
    rw [Data.tracked_iff_mem_keys, hkeys, Finset.mem_singleton] at htracked
    exact ⟨[], msg, [], hmsgs, ⟨hop, hid.trans htracked.symm⟩, by simp⟩
  have hbefore : Along (step Sample.library Config.default) (MovesHeld Sample.library Config.default) Sys.init
      (Sample.boxTracked ++ [.snapshot 0 (.increasing Name) 0, .publish 0] ++ Sample.boxSeen) :=
    Along.of_labels (by simp [Sample.boxTracked, Sample.boxSeen, MovesHeld])
  have hpass : Along (step Sample.library Config.default) (MovesHeld Sample.library Config.default) s
      Sample.boxMoved :=
    ⟨fun _ _ f hdue => hheld f hdue.1, fun _ _ => ⟨trivial, fun _ _ => trivial⟩⟩
  have hmove : ∃ msg ∈ t.published, msg.operation = .move := by simpa using hmoved
  exact ⟨t, hrun, hmove, moves_applicable hrun (hbefore.concat hseen hpass)⟩

end MoveitPlanning.Scene
