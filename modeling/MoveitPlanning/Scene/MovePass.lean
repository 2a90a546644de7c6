import MoveitPlanning.Scene.MovePoses

/-! The pass of `updateCollisionObjects` as a whole. What it does about a frame depends
on the transforms, the shapes of the frame, and what was published last for the frame
itself, and none of these is changed by the other frames; so the pass makes the MOVEs of
the frames as they are due at its start, and notes each as the last one of its frame. -/

namespace MoveitPlanning.Scene

open Foundation

variable {R : Type*}

/-- What is published last for the message's frame is the message. -/
def Data.noteMove (σ : Data R) (msg : CollisionObject R) : Data R :=
  { σ with
    lastPublishedCollisionPose := σ.lastPublishedCollisionPose.insert msg.id msg.pose
    lastPublishedCollisionTime := σ.lastPublishedCollisionTime.insert msg.id msg.stamp }

section noteMove
variable (σ : Data R) (msg : CollisionObject R)

theorem noteMove_pose (f : Name) : (σ.noteMove msg).lastPublishedCollisionPose.lookup f =
    if f = msg.id then some msg.pose else σ.lastPublishedCollisionPose.lookup f :=
  HashMap.lookup_insert_eq _ _ _ _

theorem noteMove_time (f : Name) : (σ.noteMove msg).lastPublishedCollisionTime.lookup f =
    if f = msg.id then some msg.stamp else σ.lastPublishedCollisionTime.lookup f :=
  HashMap.lookup_insert_eq _ _ _ _

end noteMove

section Pass
variable [Field R] [LinearOrder R] (lib : Library R) (cfg : Config R) (ord : IterOrder Name) (now : ℤ)
  (transforms : List (TransformStamped R))

/-- The first transform of the frame decides where the frame is. -/
def firstTransform (f : Name) : Option (TransformStamped R) := transforms.find? fun ts => ts.childFrameId = f

/-- The MOVE that is due for a frame. -/
def frameMove (σ : Data R) (f : Name) : Option (CollisionObject R) :=
  (firstTransform transforms f).bind fun ts =>
    if rateLimited lib cfg now σ f || withinDeadband lib cfg σ f ts.pose then none
    else some (moveMessage ord now σ f ts)

/-- The MOVEs that are due, in the order in which the pass sees the frames. -/
def dueMoves (σ : Data R) : List (CollisionObject R) :=
  (ord.visit σ.collisionTfFrameToMeshIds.keys).filterMap (frameMove lib cfg ord now transforms σ)

variable {lib cfg ord now transforms} {σ : Data R} {f : Name}

theorem frameMove_eq_some {msg : CollisionObject R} (h : frameMove lib cfg ord now transforms σ f = some msg) :
    ∃ ts, firstTransform transforms f = some ts ∧ rateLimited lib cfg now σ f = false ∧
      withinDeadband lib cfg σ f ts.pose = false ∧ msg = moveMessage ord now σ f ts := by
  obtain ⟨ts, hts, h⟩ := Option.bind_eq_some_iff.mp h
  split_ifs at h with hheld
  rw [Bool.or_eq_true, not_or, Bool.not_eq_true, Bool.not_eq_true] at hheld
  exact ⟨ts, hts, hheld.1, hheld.2, (Option.some.inj h).symm⟩

theorem held_of_frameMove_eq_none {ts : TransformStamped R} (hts : firstTransform transforms f = some ts)
    (h : frameMove lib cfg ord now transforms σ f = none) :
    rateLimited lib cfg now σ f = true ∨ withinDeadband lib cfg σ f ts.pose = true := by
  rw [frameMove, hts, Option.bind_some] at h
  split_ifs at h with hheld
  rwa [Bool.or_eq_true] at hheld

theorem frameMove_id {msg : CollisionObject R} (h : frameMove lib cfg ord now transforms σ f = some msg) :
    msg.id = f := by
  obtain ⟨ts, -, -, -, rfl⟩ := frameMove_eq_some h
  rfl

/-- The MOVE of a frame does not depend on what is published last for others. -/
theorem frameMove_noteMove {msg : CollisionObject R} (hne : f ≠ msg.id) :
    frameMove lib cfg ord now transforms (σ.noteMove msg) f = frameMove lib cfg ord now transforms σ f := by
  have hrate : rateLimited lib cfg now (σ.noteMove msg) f = rateLimited lib cfg now σ f := by
    rw [rateLimited, noteMove_time, if_neg hne, rateLimited]
  have hband : ∀ pose, withinDeadband lib cfg (σ.noteMove msg) f pose = withinDeadband lib cfg σ f pose := by
    intro pose
    rw [withinDeadband, noteMove_pose, if_neg hne, withinDeadband]
  have hshapes : SameShapes σ (σ.noteMove msg) := ⟨rfl, rfl, rfl, rfl⟩
  simp only [frameMove, hrate, hband, moveMessage_congr hshapes]

theorem updateFrame_eq (acc : Data R × List (CollisionObject R)) :
    updateFrame lib cfg ord now transforms acc f = match frameMove lib cfg ord now transforms acc.1 f with
      | none => acc
      | some msg => (acc.1.noteMove msg, acc.2 ++ [msg]) := by
  unfold updateFrame frameMove firstTransform
  cases transforms.find? fun ts => ts.childFrameId = f with
  | none => rfl
  | some ts =>
    simp only [Option.bind_some]
    cases rateLimited lib cfg now acc.1 f with
    | true => rfl
    | false =>
      cases withinDeadband lib cfg acc.1 f ts.pose with
      | true => rfl
      | false => rfl

/-- The frames of the rest of a pass have the MOVEs they had at its start. -/
theorem foldl_updateFrame {frames : List Name} (hnodup : frames.Nodup)
    (acc : Data R × List (CollisionObject R))
    (hsame : ∀ f ∈ frames, frameMove lib cfg ord now transforms acc.1 f = frameMove lib cfg ord now transforms σ f) :
    frames.foldl (updateFrame lib cfg ord now transforms) acc =
      let msgs := frames.filterMap (frameMove lib cfg ord now transforms σ)
      (msgs.foldl Data.noteMove acc.1, acc.2 ++ msgs) := by
  induction frames generalizing acc with
  | nil => simp
  | cons f frames ih =>
    obtain ⟨hf, hnodup⟩ := List.nodup_cons.mp hnodup
    have hrest : ∀ g ∈ frames, frameMove lib cfg ord now transforms acc.1 g =
        frameMove lib cfg ord now transforms σ g := fun g hg => hsame g (by simp [hg])
    rw [List.foldl_cons, updateFrame_eq, hsame f (by simp)]
    cases hmove : frameMove lib cfg ord now transforms σ f with
    | none =>
      rw [ih hnodup acc hrest, List.filterMap_cons_none hmove]
    | some msg =>
      have hid := frameMove_id hmove
      rw [ih hnodup, List.filterMap_cons_some hmove]
      · simp
      · intro g hg
        have hne : g ≠ msg.id := by
          rintro rfl
          exact hf (hid ▸ hg)
        rw [frameMove_noteMove hne, hrest g hg]

variable (lib cfg ord now transforms σ) in
/-- The pass makes the MOVEs that are due and notes them. -/
theorem updateCollisionObjects_eq : updateCollisionObjects lib cfg ord now transforms σ =
    ((dueMoves lib cfg ord now transforms σ).foldl Data.noteMove σ, dueMoves lib cfg ord now transforms σ) := by
  rw [updateCollisionObjects, foldl_updateFrame (ord.nodup _) (σ, []) fun _ _ => rfl, dueMoves]
  rfl

theorem mem_dueMoves {msg : CollisionObject R} : msg ∈ dueMoves lib cfg ord now transforms σ ↔
    σ.Tracked msg.id ∧ frameMove lib cfg ord now transforms σ msg.id = some msg := by
  rw [dueMoves, List.mem_filterMap]
  constructor
  · rintro ⟨f, hf, hmove⟩
    obtain rfl := frameMove_id hmove
    rw [IterOrder.mem_visit, ← σ.tracked_iff_mem_keys] at hf
    exact ⟨hf, hmove⟩
  · rintro ⟨htracked, hmove⟩
    refine ⟨msg.id, ?_, hmove⟩
    rwa [IterOrder.mem_visit, ← σ.tracked_iff_mem_keys]

/-- A pass makes at most one MOVE of a frame. -/
theorem dueMoves_nodup : ((dueMoves lib cfg ord now transforms σ).map fun msg => msg.id).Nodup := by
  have hsub : ((dueMoves lib cfg ord now transforms σ).map fun msg => msg.id).Sublist
      (ord.visit σ.collisionTfFrameToMeshIds.keys) := by
    rw [dueMoves]
    induction ord.visit σ.collisionTfFrameToMeshIds.keys with
    | nil => exact List.Sublist.refl _
    | cons f frames ih =>
      cases hmove : frameMove lib cfg ord now transforms σ f with
      | none =>
        rw [List.filterMap_cons_none hmove]
        exact ih.trans (List.sublist_cons_self f frames)
      | some msg =>
        rw [List.filterMap_cons_some hmove, List.map_cons, frameMove_id hmove]
        exact ih.cons_cons f
  exact (ord.nodup _).sublist hsub

theorem frameMove_eq_none_of_not_mem (htracked : σ.Tracked f)
    (h : ∀ msg ∈ dueMoves lib cfg ord now transforms σ, msg.id ≠ f) :
    frameMove lib cfg ord now transforms σ f = none := by
  cases hmove : frameMove lib cfg ord now transforms σ f with
  | none => rfl
  | some msg =>
    obtain rfl := frameMove_id hmove
    exact absurd rfl (h msg (mem_dueMoves.mpr ⟨htracked, hmove⟩))

end Pass

end MoveitPlanning.Scene
