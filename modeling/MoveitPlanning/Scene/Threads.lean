import MoveitPlanning.Scene.Publish
import MoveitPlanning.Foundation.Run

/-! The synchronizer's threads as one transition function. A label is one atomic step:
a section under the mutex, a response of the World, or one publication. The sync
thread, the sync service and the planning requests are calls that fetch and then
publish; the TF callback removes the frames that are gone, queues the objects that are
new, and publishes MOVEs, one TF message at a time. A run is an interleaving of such
steps. What a call does alone is what `fetchAndSynchronizeCollisionObjects` computes. -/

namespace MoveitPlanning.Scene

open Foundation

variable {R : Type*}

/-! ### Calls -/

/-- What is left of an item of a fetch. What `GetGltf` answers is part of the item. -/
inductive FetchSection (R : Type*)
  /-- the section of a primitive, or the look-up of a mesh id -/
  | item (x : FetchItem R)
  | emplace (x : FetchItem R) (gltf : Bytes)
  | record (x : FetchItem R)

def FetchSection.frame : FetchSection R → Name
  | .item x => x.frame
  | .emplace x _ => x.frame
  | .record x => x.frame

/-- The section, and the sections of the same item that it leaves. -/
def FetchSection.run (σ : Data R) : FetchSection R → Data R × List (FetchSection R)
  | .item x =>
    match x.shape with
    | .mesh _ gltf =>
      if x.id ∈ σ.renderablesCollision then (σ, [.record x])
      else
        match gltf with
        | .error _ => (σ, [])
        | .ok data => (σ, [.emplace x data])
    | .primitive solid => (σ.recordPrimitive x.frame x.id x.pose solid, [])
  | .emplace x gltf => (σ.emplace x.id gltf, [.record x])
  | .record x => (σ.record x.frame x.id x.pose, [])

/-- A section of a fetch leaves alone what only the TF callback and the sync thread use. -/
theorem FetchSection.run_request (σ : Data R) (sec : FetchSection R) :
    (sec.run σ).1.syncNewObjects = σ.syncNewObjects ∧
      (sec.run σ).1.syncObjectNames = σ.syncObjectNames ∧
      (sec.run σ).1.tfFrameNames = σ.tfFrameNames := by
  cases sec with
  | item x =>
    rcases x with ⟨frame, id, pose, ⟨ref, _ | data⟩ | solid⟩
    · simp only [FetchSection.run]
      split_ifs <;> exact ⟨rfl, rfl, rfl⟩
    · simp only [FetchSection.run]
      split_ifs <;> exact ⟨rfl, rfl, rfl⟩
    · exact ⟨rfl, rfl, rfl⟩
  | emplace x gltf =>
    simp only [FetchSection.run, Data.emplace]
    split_ifs <;> exact ⟨rfl, rfl, rfl⟩
  | record x => exact ⟨rfl, rfl, rfl⟩

/-- A section of a fetch adds frames and leaves what was published last. -/
theorem FetchSection.run_keeps (σ : Data R) (sec : FetchSection R) :
    (sec.run σ).1.lastPublishedCollisionPose = σ.lastPublishedCollisionPose ∧
      (sec.run σ).1.lastPublishedCollisionTime = σ.lastPublishedCollisionTime ∧
      ∀ f, σ.Tracked f → (sec.run σ).1.Tracked f := by
  cases sec with
  | item x =>
    rcases x with ⟨frame, id, pose, ⟨ref, _ | data⟩ | solid⟩
    · simp only [FetchSection.run]
      split_ifs <;> exact ⟨rfl, rfl, fun f h => h⟩
    · simp only [FetchSection.run]
      split_ifs <;> exact ⟨rfl, rfl, fun f h => h⟩
    · exact ⟨rfl, rfl, fun f h => (Data.recordPrimitive_tracked _ _ _ _ _ f).mpr (.inr h)⟩
  | emplace x gltf =>
    refine ⟨?_, ?_, fun f h => (Data.emplace_tracked _ _ _ f).mpr h⟩
    · simp only [FetchSection.run, Data.emplace]
      split_ifs <;> rfl
    · simp only [FetchSection.run, Data.emplace]
      split_ifs <;> rfl
  | record x => exact ⟨rfl, rfl, fun f h => (Data.record_tracked _ _ _ _ f).mpr (.inr h)⟩

/-- Who fetches: the background thread, the service `~/sync_collision_objects`, or a
planning request. -/
inductive Caller
  | syncThread | syncService | planning
  deriving DecidableEq, Repr

/-- Where a call is; it has ended when nothing is left to publish. -/
inductive CallPhase (R : Type*)
  | requesting
  | fetching (todo : List (FetchSection R))
  | publishing (msgs : List (CollisionObject R))

structure Call (R : Type*) where
  caller : Caller
  objectNames : Option (List Name)
  phase : CallPhase R

def Call.finished (call : Call R) : Bool :=
  match call.phase with
  | .publishing [] => true
  | _ => false

/-- A failed `GetObjects` ends the call, but the service publishes all the same. -/
def Call.afterResponse [Zero R] [One R] (lib : Library R) (cfg : Config R) (call : Call R)
    (response : Except Failure (List (WorldObject R))) (getGltf : ℕ → GeoRef → Except Failure Bytes) :
    CallPhase R :=
  match response with
  | .error _ => if call.caller = .syncService then .fetching [] else .publishing []
  | .ok objects => .fetching ((fetchPlan lib cfg getGltf objects).map .item)

/-! ### The TF callback -/

/-- What the callback has made of a TF message. -/
structure TfUpdate (R : Type*) where
  transforms : List (TransformStamped R)
  newTfFrameNames : Finset Name
  newObjectNames : List Name

def Config.tfUpdate (cfg : Config R) (ord : IterOrder Name) (tfFrameNames : Finset Name)
    (msg : List (TransformStamped R)) : TfUpdate R where
  transforms := msg.map fun ts =>
    { ts with frameId := cfg.rosFrame ts.frameId, childFrameId := cfg.rosFrame ts.childFrameId }
  newTfFrameNames := (msg.map fun ts => cfg.rosFrame ts.childFrameId).toFinset
  newObjectNames := ord.visit ((msg.filter fun ts => cfg.rosFrame ts.childFrameId ∉ tfFrameNames).map
    fun ts => cfg.tfObjectName ts.childFrameId).toFinset

inductive TfPhase (R : Type*)
  | idle
  /-- the frames still to be removed -/
  | removing (m : TfUpdate R) (frames : List Name)
  | publishRemove (m : TfUpdate R) (msg : CollisionObject R) (frames : List Name)
  /-- the new objects are queued -/
  | updating (m : TfUpdate R)
  | publishMoves (msgs : List (CollisionObject R))

/-! ### The system -/

structure Sys (R : Type*) where
  data : Data R
  /-- the calls made so far, by number -/
  calls : List (Call R)
  tf : TfPhase R
  published : List (CollisionObject R)

def Sys.init : Sys R := ⟨Data.init, [], .idle, []⟩

def Sys.setPhase (s : Sys R) (i : ℕ) (call : Call R) (phase : CallPhase R) : Sys R :=
  { s with calls := s.calls.set i { call with phase } }

inductive Label (R : Type*)
  | syncService
  | planning (objectNames : Option (List Name))
  /-- the sync thread takes the pending request -/
  | takeRequest
  | getObjects (i : ℕ) (response : Except Failure (List (WorldObject R)))
      (getGltf : ℕ → GeoRef → Except Failure Bytes)
  | fetchSection (i : ℕ)
  | snapshot (i : ℕ) (ord : IterOrder Name) (now : ℤ)
  | publish (i : ℕ)
  | tfMessage (ord : IterOrder Name) (msg : List (TransformStamped R))
  | tfErase (now : ℤ)
  | tfPublishRemove
  | tfQueue
  | tfUpdate (ord : IterOrder Name) (now : ℤ)
  | tfPublishMove
  | tfReturn
  | shutdown

section Step
variable [Field R] [LinearOrder R] (lib : Library R) (cfg : Config R)

/-- The sync thread waits for a new request, or for its interval if that is positive,
and not while it is in a fetch. -/
def Sys.syncReady (s : Sys R) : Bool :=
  !s.data.shutdown && (s.data.syncNewObjects || decide (0 < cfg.worldSyncIntervalSec)) &&
    s.calls.all fun call => decide (call.caller ≠ .syncThread) || call.finished

/-- One step of call `i`. -/
def callStep (s : Sys R) (i : ℕ) (f : Call R → Option (Sys R)) : Option (Sys R) := s.calls[i]?.bind f

def step (s : Sys R) : Label R → Option (Sys R)
  | .syncService => some { s with calls := s.calls ++ [⟨.syncService, none, .requesting⟩] }
  | .planning objectNames => some { s with calls := s.calls ++ [⟨.planning, objectNames, .requesting⟩] }
  | .takeRequest =>
    if s.syncReady cfg then
      some { s with
        data := s.data.takeRequest
        calls := s.calls ++ [⟨.syncThread, s.data.syncObjectNames, .requesting⟩] }
    else none
  | .getObjects i response getGltf => callStep s i fun call =>
    match call.phase with
    | .requesting => some (s.setPhase i call (call.afterResponse lib cfg response getGltf))
    | _ => none
  | .fetchSection i => callStep s i fun call =>
    match call.phase with
    | .fetching (sec :: todo) =>
      some ({ s with data := (sec.run s.data).1 }.setPhase i call (.fetching ((sec.run s.data).2 ++ todo)))
    | _ => none
  | .snapshot i ord now => callStep s i fun call =>
    match call.phase with
    | .fetching [] =>
      some (s.setPhase i call (.publishing (addCollisionObjectsToScene lib ord now s.data call.objectNames)))
    | _ => none
  | .publish i => callStep s i fun call =>
    match call.phase with
    | .publishing (msg :: msgs) =>
      some ({ s with published := s.published ++ [msg] }.setPhase i call (.publishing msgs))
    | _ => none
  | .tfMessage ord msg =>
    match s.tf with
    | .idle =>
      let m := cfg.tfUpdate ord s.data.tfFrameNames msg
      some { s with tf := .removing m (ord.visit (s.data.tfFrameNames \ m.newTfFrameNames)) }
    | _ => none
  | .tfErase now =>
    match s.tf with
    | .removing m (frame :: frames) =>
      some { s with
        data := s.data.erase frame
        tf := .publishRemove m (removeMessage now frame) frames }
    | _ => none
  | .tfPublishRemove =>
    match s.tf with
    | .publishRemove m msg frames =>
      some { s with tf := .removing m frames, published := s.published ++ [msg] }
    | _ => none
  | .tfQueue =>
    match s.tf with
    | .removing m [] =>
      some { s with
        data := { s.data.queueObjects m.newObjectNames with tfFrameNames := m.newTfFrameNames }
        tf := .updating m }
    | _ => none
  | .tfUpdate ord now =>
    match s.tf with
    | .updating m =>
      let (data, msgs) := updateCollisionObjects lib cfg ord now m.transforms s.data
      some { s with data, tf := .publishMoves msgs }
    | _ => none
  | .tfPublishMove =>
    match s.tf with
    | .publishMoves (msg :: msgs) =>
      some { s with tf := .publishMoves msgs, published := s.published ++ [msg] }
    | _ => none
  | .tfReturn =>
    match s.tf with
    | .publishMoves [] => some { s with tf := .idle }
    | _ => none
  | .shutdown => some { s with data := { s.data with shutdown := true } }

/-! ### What a step can do -/

/-- The branches of `step`, each with what it needs. -/
inductive Step : Sys R → Label R → Sys R → Prop
  | syncService (s) : Step s .syncService { s with calls := s.calls ++ [⟨.syncService, none, .requesting⟩] }
  | planning (s objectNames) : Step s (.planning objectNames)
      { s with calls := s.calls ++ [⟨.planning, objectNames, .requesting⟩] }
  | takeRequest (s) (hready : s.syncReady cfg = true) : Step s .takeRequest { s with
      data := s.data.takeRequest
      calls := s.calls ++ [⟨.syncThread, s.data.syncObjectNames, .requesting⟩] }
  | getObjects (s i call response getGltf) (hcall : s.calls[i]? = some call)
      (hphase : call.phase = .requesting) : Step s (.getObjects i response getGltf)
      (s.setPhase i call (call.afterResponse lib cfg response getGltf))
  | fetchSection (s i call sec todo) (hcall : s.calls[i]? = some call)
      (hphase : call.phase = .fetching (sec :: todo)) : Step s (.fetchSection i)
      ({ s with data := (sec.run s.data).1 }.setPhase i call (.fetching ((sec.run s.data).2 ++ todo)))
  | snapshot (s i call ord now) (hcall : s.calls[i]? = some call)
      (hphase : call.phase = .fetching []) : Step s (.snapshot i ord now)
      (s.setPhase i call (.publishing (addCollisionObjectsToScene lib ord now s.data call.objectNames)))
  | publish (s i call msg msgs) (hcall : s.calls[i]? = some call)
      (hphase : call.phase = .publishing (msg :: msgs)) : Step s (.publish i)
      ({ s with published := s.published ++ [msg] }.setPhase i call (.publishing msgs))
  | tfMessage (s ord msg) (htf : s.tf = .idle) : Step s (.tfMessage ord msg) { s with
      tf := .removing (cfg.tfUpdate ord s.data.tfFrameNames msg) (ord.visit
        (s.data.tfFrameNames \ (cfg.tfUpdate ord s.data.tfFrameNames msg).newTfFrameNames)) }
  | tfErase (s now m frame frames) (htf : s.tf = .removing m (frame :: frames)) : Step s (.tfErase now)
      { s with data := s.data.erase frame, tf := .publishRemove m (removeMessage now frame) frames }
  | tfPublishRemove (s m msg frames) (htf : s.tf = .publishRemove m msg frames) : Step s .tfPublishRemove
      { s with tf := .removing m frames, published := s.published ++ [msg] }
  | tfQueue (s m) (htf : s.tf = .removing m []) : Step s .tfQueue { s with
      data := { s.data.queueObjects m.newObjectNames with tfFrameNames := m.newTfFrameNames }
      tf := .updating m }
  | tfUpdate (s ord now m) (htf : s.tf = .updating m) : Step s (.tfUpdate ord now) { s with
      data := (updateCollisionObjects lib cfg ord now m.transforms s.data).1
      tf := .publishMoves (updateCollisionObjects lib cfg ord now m.transforms s.data).2 }
  | tfPublishMove (s msg msgs) (htf : s.tf = .publishMoves (msg :: msgs)) : Step s .tfPublishMove
      { s with tf := .publishMoves msgs, published := s.published ++ [msg] }
  | tfReturn (s) (htf : s.tf = .publishMoves []) : Step s .tfReturn { s with tf := .idle }
  | shutdown (s) : Step s .shutdown { s with data := { s.data with shutdown := true } }

variable {lib cfg}

omit [Field R] [LinearOrder R] in
theorem callStep_eq_some {s s' : Sys R} {i : ℕ} {f : Call R → Option (Sys R)} :
    callStep s i f = some s' ↔ ∃ call, s.calls[i]? = some call ∧ f call = some s' :=
  Option.bind_eq_some_iff

theorem step_eq_some {s s' : Sys R} {l : Label R} : step lib cfg s l = some s' ↔ Step lib cfg s l s' := by
  constructor
  · intro h
    cases l with
    | syncService => obtain rfl := Option.some.inj h; exact .syncService s
    | planning objectNames => obtain rfl := Option.some.inj h; exact .planning s objectNames
    | takeRequest =>
      simp only [step] at h
      split at h
      · rename_i hready
        obtain rfl := Option.some.inj h
        exact .takeRequest s hready
      · cases h
    | getObjects i response getGltf =>
      obtain ⟨call, hcall, h⟩ := callStep_eq_some.mp h
      split at h
      · rename_i hphase
        obtain rfl := Option.some.inj h
        exact .getObjects s i call response getGltf hcall hphase
      · cases h
    | fetchSection i =>
      obtain ⟨call, hcall, h⟩ := callStep_eq_some.mp h
      split at h
      · rename_i sec todo hphase
        obtain rfl := Option.some.inj h
        exact .fetchSection s i call sec todo hcall hphase
      · cases h
    | snapshot i ord now =>
      obtain ⟨call, hcall, h⟩ := callStep_eq_some.mp h
      split at h
      · rename_i hphase
        obtain rfl := Option.some.inj h
        exact .snapshot s i call ord now hcall hphase
      · cases h
    | publish i =>
      obtain ⟨call, hcall, h⟩ := callStep_eq_some.mp h
      split at h
      · rename_i msg msgs hphase
        obtain rfl := Option.some.inj h
        exact .publish s i call msg msgs hcall hphase
      · cases h
    | tfMessage ord msg =>
      simp only [step] at h
      split at h
      · rename_i htf
        obtain rfl := Option.some.inj h
        exact .tfMessage s ord msg htf
      · cases h
    | tfErase now =>
      simp only [step] at h
      split at h
      · rename_i m frame frames htf
        obtain rfl := Option.some.inj h
        exact .tfErase s now m frame frames htf
      · cases h
    | tfPublishRemove =>
      simp only [step] at h
      split at h
      · rename_i m msg frames htf
        obtain rfl := Option.some.inj h
        exact .tfPublishRemove s m msg frames htf
      · cases h
    | tfQueue =>
      simp only [step] at h
      split at h
      · rename_i m htf
        obtain rfl := Option.some.inj h
        exact .tfQueue s m htf
      · cases h
    | tfUpdate ord now =>
      simp only [step] at h
      split at h
      · rename_i m htf
        obtain rfl := Option.some.inj h
        exact .tfUpdate s ord now m htf
      · cases h
    | tfPublishMove =>
      simp only [step] at h
      split at h
      · rename_i msg msgs htf
        obtain rfl := Option.some.inj h
        exact .tfPublishMove s msg msgs htf
      · cases h
    | tfReturn =>
      simp only [step] at h
      split at h
      · rename_i htf
        obtain rfl := Option.some.inj h
        exact .tfReturn s htf
      · cases h
    | shutdown => obtain rfl := Option.some.inj h; exact .shutdown s
  · intro h
    cases h with
    | syncService => rfl
    | planning => rfl
    | takeRequest hready => simp [step, hready]
    | getObjects i call _ _ hcall hphase => simp [step, callStep, hcall, hphase]
    | fetchSection i call sec todo hcall hphase => simp [step, callStep, hcall, hphase]
    | snapshot i call _ _ hcall hphase => simp [step, callStep, hcall, hphase]
    | publish i call msg msgs hcall hphase => simp [step, callStep, hcall, hphase]
    | tfMessage _ _ htf => simp [step, htf]
    | tfErase _ m frame frames htf => simp [step, htf]
    | tfPublishRemove m msg frames htf => simp [step, htf]
    | tfQueue m htf => simp [step, htf]
    | tfUpdate _ _ m htf => simp [step, htf]
    | tfPublishMove msg msgs htf => simp [step, htf]
    | tfReturn htf => simp [step, htf]
    | shutdown => rfl

/-- Publications are added at the end. -/
theorem published_step {s s' : Sys R} {l : Label R} (hstep : step lib cfg s l = some s') :
    s.published <+: s'.published := by
  cases step_eq_some.mp hstep with
  | publish => exact List.prefix_append _ _
  | tfPublishRemove => exact List.prefix_append _ _
  | tfPublishMove => exact List.prefix_append _ _
  | _ => exact List.prefix_rfl

/-- What the call has left to publish is nothing but ADDs. -/
def Call.PublishesAdds (call : Call R) : Prop :=
  ∀ msgs, call.phase = .publishing msgs → ∀ msg ∈ msgs, msg.operation = .add

theorem publishesAdds_step {s s' : Sys R} {l : Label R} (hi : ∀ call ∈ s.calls, call.PublishesAdds)
    (hstep : step lib cfg s l = some s') : ∀ call ∈ s'.calls, call.PublishesAdds := by
  have happend : ∀ (caller : Caller) (names : Option (List Name)),
      ∀ call ∈ s.calls ++ [⟨caller, names, .requesting⟩], call.PublishesAdds := by
    intro caller names call hcall
    rcases List.mem_append.mp hcall with hcall | hcall
    · exact hi call hcall
    · obtain rfl := List.mem_singleton.mp hcall
      exact fun msgs hphase => by cases hphase
  have hset : ∀ (i : ℕ) (next : Call R), next.PublishesAdds →
      ∀ call ∈ s.calls.set i next, call.PublishesAdds := by
    intro i next hnext call hcall
    rcases List.mem_or_eq_of_mem_set hcall with hcall | rfl
    · exact hi call hcall
    · exact hnext
  cases step_eq_some.mp hstep with
  | syncService => exact happend _ _
  | planning objectNames => exact happend _ _
  | takeRequest hready => exact happend _ _
  | getObjects i call response getGltf hcall hphase =>
    refine hset i _ fun msgs hmsgs => ?_
    cases response with
    | error e =>
      simp only [Call.afterResponse] at hmsgs
      split_ifs at hmsgs
      obtain rfl := CallPhase.publishing.inj hmsgs
      simp
    | ok objects => cases hmsgs
  | fetchSection i call sec todo hcall hphase => exact hset i _ fun msgs hmsgs => by cases hmsgs
  | snapshot i call ord now hcall hphase =>
    refine hset i _ fun msgs hmsgs msg hmsg => ?_
    obtain rfl := CallPhase.publishing.inj hmsgs
    obtain ⟨f, -, -, rfl⟩ := (mem_addCollisionObjectsToScene lib now _ msg).mp hmsg
    rfl
  | publish i call m ms hcall hphase =>
    refine hset i _ fun msgs hmsgs msg hmsg => ?_
    obtain rfl := CallPhase.publishing.inj hmsgs
    exact hi call (List.mem_of_getElem? hcall) _ hphase msg (List.mem_cons_of_mem _ hmsg)
  | _ => exact hi

/-- Call `i` has ended. -/
def Sys.Ended (s : Sys R) (i : ℕ) : Prop := ∃ call, s.calls[i]? = some call ∧ call.finished = true

/-- A call that has ended is left as it is, and publishes nothing more. -/
theorem ended_step {s s' : Sys R} {l : Label R} {i : ℕ} (hended : s.Ended i)
    (hstep : step lib cfg s l = some s') : s'.Ended i ∧ l ≠ .publish i := by
  obtain ⟨call, hcall, hfinished⟩ := hended
  have happend : ∀ c : Call R, (s.calls ++ [c])[i]? = some call := by
    intro c
    obtain ⟨hlt, -⟩ := List.getElem?_eq_some_iff.mp hcall
    rw [List.getElem?_append_left hlt, hcall]
  have hother : ∀ {j : ℕ} {c : Call R}, s.calls[j]? = some c → c.finished = false → j ≠ i := by
    rintro j c hj hc rfl
    obtain rfl : call = c := by simpa [hcall] using hj
    rw [hfinished] at hc
    cases hc
  have hset : ∀ {j : ℕ} (c : Call R), j ≠ i → (s.calls.set j c)[i]? = some call := by
    intro j c hj
    rw [List.getElem?_set_ne hj, hcall]
  cases step_eq_some.mp hstep with
  | syncService => exact ⟨⟨call, happend _, hfinished⟩, by simp⟩
  | planning objectNames => exact ⟨⟨call, happend _, hfinished⟩, by simp⟩
  | takeRequest hready => exact ⟨⟨call, happend _, hfinished⟩, by simp⟩
  | getObjects j c response getGltf hj hphase =>
    have hne : j ≠ i := hother hj (by simp [Call.finished, hphase])
    exact ⟨⟨call, hset _ hne, hfinished⟩, by simp⟩
  | fetchSection j c sec todo hj hphase =>
    have hne : j ≠ i := hother hj (by simp [Call.finished, hphase])
    exact ⟨⟨call, hset _ hne, hfinished⟩, by simp⟩
  | snapshot j c ord now hj hphase =>
    have hne : j ≠ i := hother hj (by simp [Call.finished, hphase])
    exact ⟨⟨call, hset _ hne, hfinished⟩, by simp⟩
  | publish j c msg msgs hj hphase =>
    have hne : j ≠ i := hother hj (by simp [Call.finished, hphase])
    exact ⟨⟨call, hset _ hne, hfinished⟩, by simpa using hne⟩
  | _ => exact ⟨⟨call, hcall, hfinished⟩, by simp⟩

/-! ### A call by itself -/

omit [Field R] [LinearOrder R] in
theorem setPhase_getElem? {s : Sys R} {i : ℕ} {call : Call R} (hcall : s.calls[i]? = some call)
    (phase : CallPhase R) : (s.setPhase i call phase).calls[i]? = some { call with phase } := by
  obtain ⟨hi, -⟩ := List.getElem?_eq_some_iff.mp hcall
  rw [Sys.setPhase, List.getElem?_set_self hi]

omit [Field R] [LinearOrder R] in
theorem setPhase_self {s : Sys R} {i : ℕ} {call : Call R} (hcall : s.calls[i]? = some call) :
    s.setPhase i call call.phase = s := by
  obtain ⟨hi, rfl⟩ := List.getElem?_eq_some_iff.mp hcall
  change { s with calls := s.calls.set i s.calls[i] } = s
  rw [List.set_getElem_self]

theorem exec_item {s : Sys R} {i : ℕ} {call : Call R} {x : FetchItem R} {todo : List (FetchSection R)}
    (hcall : s.calls[i]? = some call) (hphase : call.phase = .fetching (.item x :: todo)) :
    ∃ n, exec (step lib cfg) s (List.replicate n (.fetchSection i)) =
      some ({ s with data := fetchItem s.data x }.setPhase i call (.fetching todo)) := by
  have hsec : ∀ (t : Sys R) (c : Call R) (sec : FetchSection R) (rest : List (FetchSection R)),
      t.calls[i]? = some c → c.phase = .fetching (sec :: rest) → step lib cfg t (.fetchSection i) =
        some ({ t with data := (sec.run t.data).1 }.setPhase i c (.fetching ((sec.run t.data).2 ++ rest))) :=
    fun t c sec rest hc hp => step_eq_some.mpr (.fetchSection t i c sec rest hc hp)
  have hfirst := hsec s call _ _ hcall hphase
  have hnext : ∀ (σ : Data R) (secs : List (FetchSection R)),
      ({ s with data := σ }.setPhase i call (.fetching secs)).calls[i]? =
        some { call with phase := .fetching secs } :=
    fun σ secs => setPhase_getElem? (s := { s with data := σ }) hcall _
  rcases hx : x.shape with ⟨ref, gltf⟩ | solid
  · by_cases hid : x.id ∈ s.data.renderablesCollision
    · refine ⟨2, ?_⟩
      simp only [FetchSection.run, hx, hid, if_true, List.singleton_append] at hfirst
      have hrecord := hsec _ _ _ _ (hnext s.data (.record x :: todo)) rfl
      simp only [List.replicate, exec, hfirst, Option.bind_some, hrecord]
      simp [Sys.setPhase, FetchSection.run, fetchItem, hx, hid]
    · rcases gltf with e | data
      · refine ⟨1, ?_⟩
        simp only [FetchSection.run, hx, hid, if_false, List.nil_append] at hfirst
        simp only [List.replicate, exec, hfirst, Option.bind_some]
        simp [fetchItem, hx, hid]
      · refine ⟨3, ?_⟩
        simp only [FetchSection.run, hx, hid, if_false, List.singleton_append] at hfirst
        have hemplace := hsec _ _ _ _ (hnext s.data (.emplace x data :: todo)) rfl
        simp only [FetchSection.run, Sys.setPhase, List.set_set, List.singleton_append] at hemplace
        have hrecord := hsec _ _ _ _ (hnext (s.data.emplace x.id data) (.record x :: todo)) rfl
        simp only [FetchSection.run, Sys.setPhase, List.set_set, List.nil_append] at hrecord hfirst
        simp only [List.replicate, exec, hfirst, Option.bind_some, hemplace, hrecord]
        simp [Sys.setPhase, fetchItem, hx, hid]
  · refine ⟨1, ?_⟩
    simp only [FetchSection.run, hx, List.nil_append] at hfirst
    simp only [List.replicate, exec, hfirst, Option.bind_some]
    simp [fetchItem, hx]

theorem exec_items {s : Sys R} {i : ℕ} {call : Call R} {xs : List (FetchItem R)}
    (hcall : s.calls[i]? = some call) (hphase : call.phase = .fetching (xs.map .item)) :
    ∃ n, exec (step lib cfg) s (List.replicate n (.fetchSection i)) =
      some ({ s with data := fetchItems s.data xs }.setPhase i call (.fetching [])) := by
  induction xs generalizing s call with
  | nil =>
    refine ⟨0, ?_⟩
    rw [show CallPhase.fetching [] = call.phase from hphase.symm]
    simp only [List.replicate, exec_nil, fetchItems, List.foldl_nil, setPhase_self hcall]
  | cons x xs ih =>
    obtain ⟨n, hn⟩ := exec_item hcall hphase
    obtain ⟨m, hm⟩ := ih (setPhase_getElem? (s := { s with data := fetchItem s.data x }) hcall
      (.fetching (xs.map .item))) rfl
    refine ⟨n + m, ?_⟩
    rw [← List.replicate_append_replicate, exec_append, hn, Option.bind_some, hm]
    simp [Sys.setPhase, fetchItems]

theorem exec_publish {s : Sys R} {i : ℕ} {call : Call R} {msgs : List (CollisionObject R)}
    (hcall : s.calls[i]? = some call) (hphase : call.phase = .publishing msgs) :
    exec (step lib cfg) s (List.replicate msgs.length (.publish i)) =
      some ({ s with published := s.published ++ msgs }.setPhase i call (.publishing [])) := by
  induction msgs generalizing s call with
  | nil =>
    rw [← hphase]
    simp only [List.length_nil, List.replicate, exec_nil, List.append_nil, setPhase_self hcall]
  | cons msg msgs ih =>
    have hfirst : step lib cfg s (.publish i) = some _ :=
      step_eq_some.mpr (.publish s i call msg msgs hcall hphase)
    have hrest := ih (setPhase_getElem? (s := { s with published := s.published ++ [msg] }) hcall
      (.publishing msgs)) rfl
    simp only [List.length_cons, List.replicate, exec, hfirst, Option.bind_some, hrest]
    simp [Sys.setPhase]

/-- A fetch whose steps are not interleaved with others computes what
`fetchAndSynchronizeCollisionObjects` computes, and publishes it. -/
theorem exec_call_alone (world : WorldClient R) (ord : IterOrder Name) (now : ℤ) {s : Sys R} {i : ℕ}
    {call : Call R} (hcall : s.calls[i]? = some call) (hphase : call.phase = .requesting)
    (hcaller : call.caller ≠ .syncService) :
    let (_, data, msgs) := fetchAndSynchronizeCollisionObjects lib ord now cfg world call.objectNames s.data
    ∃ ls, exec (step lib cfg) s ls =
      some ({ s with data, published := s.published ++ msgs }.setPhase i call (.publishing [])) := by
  have hget : step lib cfg s (.getObjects i (world.getObjects (requestNames call.objectNames)) world.getGltf) =
      some _ := step_eq_some.mpr (.getObjects s i call _ _ hcall hphase)
  simp only [fetchAndSynchronizeCollisionObjects, fetchAndSynchronize]
  cases hresp : world.getObjects (requestNames call.objectNames) with
  | error e =>
    simp only [hresp, Call.afterResponse, hcaller, if_false] at hget
    exact ⟨[.getObjects i (.error e) world.getGltf], by simp [exec, hget, Sys.setPhase]⟩
  | ok objects =>
    simp only [hresp, Call.afterResponse] at hget
    let xs := fetchPlan lib cfg world.getGltf objects
    let fetched : Sys R := { s with data := fetchItems s.data xs }
    let msgs := addCollisionObjectsToScene lib ord now fetched.data call.objectNames
    obtain ⟨n, hn⟩ : ∃ n, exec (step lib cfg) (s.setPhase i call (.fetching (xs.map .item)))
        (List.replicate n (.fetchSection i)) = some _ := exec_items (setPhase_getElem? hcall _) rfl
    have hsnap : step lib cfg (fetched.setPhase i call (.fetching [])) (.snapshot i ord now) = some _ :=
      step_eq_some.mpr (.snapshot _ i _ ord now (setPhase_getElem? (s := fetched) hcall _) rfl)
    have hpub : exec (step lib cfg) (fetched.setPhase i call (.publishing msgs))
        (List.replicate msgs.length (.publish i)) = some _ :=
      exec_publish (setPhase_getElem? (s := fetched) hcall _) rfl
    refine ⟨.getObjects i (.ok objects) world.getGltf :: (List.replicate n (.fetchSection i) ++
      .snapshot i ord now :: List.replicate msgs.length (.publish i)), ?_⟩
    simp only [Sys.setPhase, List.set_set, fetched, msgs, xs] at hn hsnap hpub hget ⊢
    simp only [exec, hget, Option.bind_some, exec_append, hn, hsnap, hpub]

end Step

end MoveitPlanning.Scene
