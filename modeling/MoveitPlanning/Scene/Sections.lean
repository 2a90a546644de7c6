import MoveitPlanning.Scene.MovePass
import MoveitPlanning.Scene.Threads
import MoveitPlanning.Foundation.LastEvent

/-! The synchronizer seen through its mutex. A call of `updateCollisionObjects` or
`removeCollisionObject` is one section, and a fetch is several; a run is any sequence of
sections, so calls of any number of threads are mixed in every way, and each pass comes
with the reading of the clock that its call has taken before. What the sections make of
the scene is kept as a log of MOVEs and removals: the reference of the rate limit and of
the deadband is the last MOVE of the frame since its last removal. The threads of the
node run such sections, and their messages are those of the log. -/

namespace MoveitPlanning.Scene

open Foundation

variable {R : Type*}

inductive SceneEvent (R : Type*)
  | moved (msg : CollisionObject R)
  | removed (frame : Name)

/-- The MOVE of the frame. -/
def SceneEvent.move? (f : Name) : SceneEvent R → Option (CollisionObject R)
  | .moved msg => if msg.id = f then some msg else none
  | .removed _ => none

def SceneEvent.Removes (f : Name) : SceneEvent R → Prop
  | .moved _ => False
  | .removed frame => frame = f

instance (f : Name) : DecidablePred (SceneEvent.Removes (R := R) f) := fun e =>
  match e with
  | .moved _ => inferInstanceAs (Decidable False)
  | .removed frame => inferInstanceAs (Decidable (frame = f))

theorem SceneEvent.move?_eq_some {f : Name} {e : SceneEvent R} {msg : CollisionObject R} :
    e.move? f = some msg ↔ e = .moved msg ∧ msg.id = f := by
  cases e with
  | moved m =>
    rw [SceneEvent.move?, SceneEvent.moved.injEq]
    split_ifs with hid
    · simpa using fun he : m = msg => he ▸ hid
    · simpa using fun he : m = msg => he ▸ hid
  | removed frame => simp [SceneEvent.move?]

/-- The last MOVE of the frame since its last removal. -/
def lastMove (f : Name) (events : List (SceneEvent R)) : Option (CollisionObject R) :=
  lastSet (SceneEvent.move? f) (SceneEvent.Removes f) events

theorem lastMove_moved (f : Name) (events : List (SceneEvent R)) (msg : CollisionObject R) :
    lastMove f (events ++ [.moved msg]) = if f = msg.id then some msg else lastMove f events := by
  rw [lastMove, lastSet_concat, nextSet, if_neg (by simp [SceneEvent.Removes]), SceneEvent.move?]
  split_ifs with h1 h2 h2
  · rfl
  · exact absurd h1.symm h2
  · exact absurd h2.symm h1
  · rfl

theorem lastMove_removed (f : Name) (events : List (SceneEvent R)) (frame : Name) :
    lastMove f (events ++ [.removed frame]) = if f = frame then none else lastMove f events := by
  rw [lastMove, lastSet_concat, nextSet, SceneEvent.move?, Option.none_or]
  simp only [SceneEvent.Removes, eq_comm (a := frame)]
  rfl

theorem lastMove_mem {f : Name} {events : List (SceneEvent R)} {msg : CollisionObject R}
    (h : lastMove f events = some msg) : SceneEvent.moved msg ∈ events := by
  obtain ⟨before, e, after, rfl, hmove, -⟩ := lastSet_eq_some_iff.mp h
  rw [(SceneEvent.move?_eq_some.mp hmove).1]
  simp

/-! ### Sections -/

/-- A section under the mutex, or a step between two sections of one thread. -/
inductive Section (R : Type*)
  | fetch (sec : FetchSection R)
  | remove (frame : Name)
  | update (ord : IterOrder Name) (now : ℤ) (transforms : List (TransformStamped R))
  /-- the TF callback queues what is new and keeps the frames of its message -/
  | queue (newObjectNames : List Name) (tfFrameNames : Finset Name)
  | takeRequest
  | shutdown

structure History (R : Type*) where
  data : Data R
  events : List (SceneEvent R)

def History.init : History R := ⟨Data.init, []⟩

section Step
variable [Field R] [LinearOrder R] (lib : Library R) (cfg : Config R)

def Section.run (σ : Data R) : Section R → Data R × List (SceneEvent R)
  | .fetch sec => ((sec.run σ).1, [])
  | .remove frame => (σ.erase frame, [.removed frame])
  | .update ord now transforms =>
    let (data, msgs) := updateCollisionObjects lib cfg ord now transforms σ
    (data, msgs.map .moved)
  | .queue newObjectNames tfFrameNames => ({ σ.queueObjects newObjectNames with tfFrameNames }, [])
  | .takeRequest => (σ.takeRequest, [])
  | .shutdown => ({ σ with shutdown := true }, [])

def sectionStep (h : History R) (sec : Section R) : Option (History R) :=
  some ⟨(sec.run lib cfg h.data).1, h.events ++ (sec.run lib cfg h.data).2⟩

/-- The log records what was published last, and only of frames that are tracked. -/
structure History.Referenced (h : History R) : Prop where
  pose : ∀ f, h.data.lastPublishedCollisionPose.lookup f = (lastMove f h.events).map (·.pose)
  time : ∀ f, h.data.lastPublishedCollisionTime.lookup f = (lastMove f h.events).map (·.stamp)
  tracked : ∀ f msg, lastMove f h.events = some msg → h.data.Tracked f

omit [Field R] [LinearOrder R] in
theorem referenced_init : (History.init : History R).Referenced where
  pose f := by simp [History.init, Data.init, lastMove]
  time f := by simp [History.init, Data.init, lastMove]
  tracked f msg h := by simp [History.init, lastMove] at h

omit [Field R] [LinearOrder R] in
theorem History.Referenced.noteMove {σ : Data R} {events : List (SceneEvent R)} {msg : CollisionObject R}
    (h : History.Referenced ⟨σ, events⟩) (htracked : σ.Tracked msg.id) :
    History.Referenced ⟨σ.noteMove msg, events ++ [.moved msg]⟩ where
  pose f := by
    rw [noteMove_pose, lastMove_moved]
    split_ifs
    · rfl
    · exact h.pose f
  time f := by
    rw [noteMove_time, lastMove_moved]
    split_ifs
    · rfl
    · exact h.time f
  tracked f m hm := by
    rw [lastMove_moved] at hm
    split_ifs at hm with hf
    · rw [hf]
      exact htracked
    · exact h.tracked f m hm

omit [Field R] [LinearOrder R] in
theorem History.Referenced.noteMoves {σ : Data R} {events : List (SceneEvent R)} {msgs : List (CollisionObject R)}
    (h : History.Referenced ⟨σ, events⟩) (htracked : ∀ msg ∈ msgs, σ.Tracked msg.id) :
    History.Referenced ⟨msgs.foldl Data.noteMove σ, events ++ msgs.map .moved⟩ := by
  induction msgs generalizing σ events with
  | nil => rwa [List.map_nil, List.append_nil]
  | cons msg msgs ih =>
    have hrest := ih (h.noteMove (htracked msg (by simp))) fun m hm => htracked m (by simp [hm])
    rwa [List.append_assoc] at hrest

omit [Field R] [LinearOrder R] in
/-- What keeps the references and only adds frames keeps the log a record of them. -/
theorem History.Referenced.of_same {σ τ : Data R} {events : List (SceneEvent R)}
    (h : History.Referenced ⟨σ, events⟩) (hpose : τ.lastPublishedCollisionPose = σ.lastPublishedCollisionPose)
    (htime : τ.lastPublishedCollisionTime = σ.lastPublishedCollisionTime)
    (htracked : ∀ f, σ.Tracked f → τ.Tracked f) : History.Referenced ⟨τ, events⟩ where
  pose f := by rw [hpose]; exact h.pose f
  time f := by rw [htime]; exact h.time f
  tracked f msg hm := htracked f (h.tracked f msg hm)

omit [Field R] [LinearOrder R] in
/-- Both references are there for the frames with a MOVE in the log. -/
theorem History.Referenced.keys {h : History R} (hi : h.Referenced) :
    h.data.lastPublishedCollisionPose.keys = h.data.lastPublishedCollisionTime.keys ∧
      h.data.lastPublishedCollisionTime.keys ⊆ h.data.collisionTfFrameToMeshIds.keys := by
  constructor
  · ext f
    rw [Finmap.mem_keys, Finmap.mem_keys, ← Finmap.lookup_isSome, ← Finmap.lookup_isSome, hi.pose, hi.time,
      Option.isSome_map, Option.isSome_map]
  · intro f hf
    rw [Finmap.mem_keys, ← Finmap.lookup_isSome, hi.time, Option.isSome_map] at hf
    obtain ⟨msg, hmsg⟩ := Option.isSome_iff_exists.mp hf
    exact (h.data.tracked_iff_mem_keys f).mp (hi.tracked f msg hmsg)

variable {lib cfg}

theorem sectionStep_eq_some {h h' : History R} {sec : Section R} (hstep : sectionStep lib cfg h sec = some h') :
    h' = ⟨(sec.run lib cfg h.data).1, h.events ++ (sec.run lib cfg h.data).2⟩ := (Option.some.inj hstep).symm

theorem referenced_step {h h' : History R} {sec : Section R} (hi : h.Referenced)
    (hstep : sectionStep lib cfg h sec = some h') : h'.Referenced := by
  obtain rfl := sectionStep_eq_some hstep
  obtain ⟨σ, events⟩ := h
  cases sec with
  | fetch sec =>
    obtain ⟨hpose, htime, htracked⟩ := sec.run_keeps σ
    rw [Section.run, List.append_nil]
    exact hi.of_same hpose htime htracked
  | remove frame =>
    refine ⟨fun f => ?_, fun f => ?_, fun f msg hm => ?_⟩
    · by_cases hf : f = frame
      · subst hf
        simp [Section.run, Data.erase, lastMove_removed]
      · simp only [Section.run, Data.erase, Finmap.lookup_erase_ne hf, lastMove_removed, if_neg hf]
        exact hi.pose f
    · by_cases hf : f = frame
      · subst hf
        simp [Section.run, Data.erase, lastMove_removed]
      · simp only [Section.run, Data.erase, Finmap.lookup_erase_ne hf, lastMove_removed, if_neg hf]
        exact hi.time f
    · simp only [Section.run, lastMove_removed] at hm
      split_ifs at hm with hf
      exact (Data.erase_tracked σ frame f).mpr ⟨hf, hi.tracked f msg hm⟩
  | update ord now transforms =>
    simp only [Section.run, updateCollisionObjects_eq]
    exact hi.noteMoves fun msg hmsg => (mem_dueMoves.mp hmsg).1
  | queue names frames =>
    rw [Section.run, List.append_nil]
    obtain ⟨hpose, htime⟩ := σ.queueObjects_keeps names
    refine hi.of_same hpose htime fun f ht => ?_
    rwa [Data.Tracked, Data.queueObjects_frames]
  | takeRequest =>
    rw [Section.run, List.append_nil]
    exact hi.of_same rfl rfl fun f ht => ht
  | shutdown =>
    rw [Section.run, List.append_nil]
    exact hi.of_same rfl rfl fun f ht => ht

theorem referenced_of_run {h : History R} {secs : List (Section R)}
    (hrun : exec (sectionStep lib cfg) History.init secs = some h) : h.Referenced :=
  Reachable.invariant ⟨secs, hrun⟩ referenced_init fun _ _ _ => referenced_step

/-! ### The threads run sections -/

/-- The section that a step of the threads runs. -/
def sectionOf (s : Sys R) : Label R → Option (Section R)
  | .fetchSection i =>
    match s.calls[i]?.map Call.phase with
    | some (.fetching (sec :: _)) => some (.fetch sec)
    | _ => none
  | .takeRequest => some .takeRequest
  | .tfErase _ =>
    match s.tf with
    | .removing _ (frame :: _) => some (.remove frame)
    | _ => none
  | .tfQueue =>
    match s.tf with
    | .removing m [] => some (.queue m.newObjectNames m.newTfFrameNames)
    | _ => none
  | .tfUpdate ord now =>
    match s.tf with
    | .updating m => some (.update ord now m.transforms)
    | _ => none
  | .shutdown => some .shutdown
  | _ => none

/-- The event that a message is about; an ADD is about none. -/
def CollisionObject.event? (msg : CollisionObject R) : Option (SceneEvent R) :=
  match msg.operation with
  | .add => none
  | .remove => some (.removed msg.id)
  | .move => some (.moved msg)

/-- What the callback has still to publish. -/
def TfPhase.pending : TfPhase R → List (CollisionObject R)
  | .publishRemove _ msg _ => [msg]
  | .publishMoves msgs => msgs
  | _ => []

/-- The threads have run the sections of the log, and its events are published in order
or still to be published by the callback. -/
structure Sys.Logs (s : Sys R) (h : History R) : Prop where
  data : h.data = s.data
  events : h.events = (s.published ++ s.tf.pending).filterMap CollisionObject.event?
  calls : ∀ call ∈ s.calls, call.PublishesAdds

omit [Field R] [LinearOrder R] in
theorem logs_init : (Sys.init : Sys R).Logs .init :=
  ⟨rfl, rfl, fun call hcall => by simp [Sys.init] at hcall⟩

theorem dueMoves_event {ord : IterOrder Name} {now : ℤ} {transforms : List (TransformStamped R)} {σ : Data R} :
    (dueMoves lib cfg ord now transforms σ).filterMap CollisionObject.event? =
      (dueMoves lib cfg ord now transforms σ).map .moved := by
  rw [← List.filterMap_eq_map]
  refine List.filterMap_congr fun msg hmsg => ?_
  obtain ⟨ts, -, -, -, hmove⟩ := frameMove_eq_some (mem_dueMoves.mp hmsg).2
  rw [CollisionObject.event?, show msg.operation = .move by rw [hmove]; rfl]
  rfl

/-- A step that runs no section publishes what is still to be published, or an ADD. -/
theorem logs_step {s s' : Sys R} {h : History R} {l : Label R} (hi : s.Logs h)
    (hstep : step lib cfg s l = some s') :
    ∃ h', exec (sectionStep lib cfg) h (sectionOf s l).toList = some h' ∧ s'.Logs h' := by
  have hcalls := publishesAdds_step hi.calls hstep
  obtain ⟨data, events, hadds⟩ := hi
  obtain ⟨σ, es⟩ := h
  obtain rfl : σ = s.data := data
  obtain rfl : es = _ := events
  cases step_eq_some.mp hstep with
  | syncService => exact ⟨_, rfl, rfl, rfl, hcalls⟩
  | planning objectNames => exact ⟨_, rfl, rfl, rfl, hcalls⟩
  | takeRequest hready => exact ⟨_, rfl, rfl, by simp [Section.run], hcalls⟩
  | getObjects i call response getGltf hcall hphase => exact ⟨_, rfl, rfl, rfl, hcalls⟩
  | fetchSection i call sec todo hcall hphase =>
    refine ⟨_, by simp [sectionOf, hcall, hphase, exec, sectionStep]; rfl, rfl, ?_, hcalls⟩
    simp [Section.run, Sys.setPhase]
  | snapshot i call ord now hcall hphase => exact ⟨_, rfl, rfl, rfl, hcalls⟩
  | publish i call msg msgs hcall hphase =>
    have hadd : msg.operation = .add := hadds call (List.mem_of_getElem? hcall) _ hphase msg (by simp)
    have hnone : msg.event? = none := by rw [CollisionObject.event?, hadd]
    refine ⟨_, rfl, rfl, ?_, hcalls⟩
    simp [Sys.setPhase, List.filterMap_append, hnone]
  | tfMessage ord msg htf => exact ⟨_, rfl, rfl, by simp [htf, TfPhase.pending], hcalls⟩
  | tfErase now m frame frames htf =>
    refine ⟨_, by simp [sectionOf, htf, exec, sectionStep]; rfl, rfl, ?_, hcalls⟩
    simp [Section.run, TfPhase.pending, CollisionObject.event?, removeMessage]
  | tfPublishRemove m msg frames htf => exact ⟨_, rfl, rfl, by simp [htf, TfPhase.pending], hcalls⟩
  | tfQueue m htf =>
    refine ⟨_, by simp [sectionOf, htf, exec, sectionStep]; rfl, rfl, ?_, hcalls⟩
    simp [Section.run, TfPhase.pending]
  | tfUpdate ord now m htf =>
    refine ⟨_, by simp [sectionOf, htf, exec, sectionStep]; rfl, rfl, ?_, hcalls⟩
    simp [Section.run, TfPhase.pending, updateCollisionObjects_eq, dueMoves_event]
  | tfPublishMove msg msgs htf => exact ⟨_, rfl, rfl, by simp [htf, TfPhase.pending], hcalls⟩
  | tfReturn htf => exact ⟨_, rfl, rfl, by simp [htf, TfPhase.pending], hcalls⟩
  | shutdown => exact ⟨_, rfl, rfl, by simp [Section.run], hcalls⟩

/-- Every run of the threads is a run of sections with the same messages. -/
theorem sections_of_run {s t : Sys R} {h : History R} {ls : List (Label R)} (hi : s.Logs h)
    (hrun : exec (step lib cfg) s ls = some t) :
    ∃ h', exec (sectionStep lib cfg) h (outputs (step lib cfg) sectionOf s ls) = some h' ∧ t.Logs h' := by
  induction ls generalizing s h with
  | nil =>
    obtain rfl : s = t := by simpa using hrun
    exact ⟨h, rfl, hi⟩
  | cons l ls ih =>
    obtain ⟨s', hs, hrest⟩ := (exec_cons_eq_some _).mp hrun
    obtain ⟨h₁, hfirst, hi₁⟩ := logs_step hi hs
    obtain ⟨h', hlast, hi'⟩ := ih hi₁ hrest
    rw [outputs_cons hs]
    exact ⟨h', (exec_append_eq_some _).mpr ⟨h₁, hfirst, hlast⟩, hi'⟩

end Step

end MoveitPlanning.Scene
