import MoveitPlanning.Scene.ConcurrentFetch
import MoveitPlanning.Scene.Quiescence
import MoveitPlanning.Scene.RecordedItems
import MoveitPlanning.Scene.Removal
import MoveitPlanning.Scene.Sections

/-! MoveIt's scene converges to the World. From some moment on let the World and TF stay
as they are, let every thread get its turns, and let full fetches be answered again and
again, as the periodic ones are. Then requests that were answered before come to an end,
a full fetch records every item of the World, no section takes that back, and from then
on every ADD that is published for a frame of the World shows all its items: the meshes
of the bytes that are kept, but for those that do not decode, and the primitives, but for
those that the bytes of an earlier mesh stand in for. What went on before does not
matter: fetches with older answers, shapes that were half written, or ADDs that were
still to be published. -/

namespace MoveitPlanning.Scene

open Foundation

variable {R : Type*}

section Step
variable [Field R] [LinearOrder R] (lib : Library R) (cfg : Config R)

/-! ### What a step can do -/

/-- What a step makes of call `i`. -/
inductive Call.Next (s : Sys R) (l : Label R) (s' : Sys R) (i : ℕ) (call : Call R) : Call R → Prop
  | same : Call.Next s l s' i call call
  | answered {response getGltf} (hl : l = .getObjects i response getGltf) (hphase : call.phase = .requesting) :
    Call.Next s l s' i call { call with phase := call.afterResponse lib cfg response getGltf }
  | run {sec todo} (hphase : call.phase = .fetching (sec :: todo)) (hdata : s'.data = (sec.run s.data).1) :
    Call.Next s l s' i call { call with phase := .fetching ((sec.run s.data).2 ++ todo) }
  | snapshot {ord now} (hphase : call.phase = .fetching []) : Call.Next s l s' i call
    { call with phase := .publishing (addCollisionObjectsToScene lib ord now s.data call.objectNames) }
  | publish {msg msgs} (hphase : call.phase = .publishing (msg :: msgs))
    (hpublished : s'.published = s.published ++ [msg]) :
    Call.Next s l s' i call { call with phase := .publishing msgs }

/-- What a step makes of the shapes. -/
inductive ShapeStep (s s' : Sys R) : Prop
  | same (h : SameShapes s.data s'.data)
  | erase {m frame frames} (htf : s.tf = .removing m (frame :: frames)) (hdata : s'.data = s.data.erase frame)
  | run {i : ℕ} {call : Call R} {sec todo} (hcall : s.calls[i]? = some call) (hphase : call.phase = .fetching (sec :: todo))
    (hdata : s'.data = (sec.run s.data).1)

/-- What a step publishes. -/
inductive PublishStep (s s' : Sys R) : Prop
  | nothing (h : s'.published = s.published)
  | call {i : ℕ} {call : Call R} {msg msgs} (hcall : s.calls[i]? = some call)
    (hphase : call.phase = .publishing (msg :: msgs)) (h : s'.published = s.published ++ [msg])
  | remove {m msg frames} (htf : s.tf = .publishRemove m msg frames) (h : s'.published = s.published ++ [msg])
  | move {msg msgs} (htf : s.tf = .publishMoves (msg :: msgs)) (h : s'.published = s.published ++ [msg])

variable {lib cfg} {s s' : Sys R} {l : Label R}

theorem call_next (hstep : step lib cfg s l = some s') {j : ℕ} {call : Call R} (h : s.calls[j]? = some call) :
    ∃ call', s'.calls[j]? = some call' ∧ Call.Next lib cfg s l s' j call call' := by
  have happend : ∀ c : Call R, (s.calls ++ [c])[j]? = some call := fun c => by
    rw [List.getElem?_append_left (List.getElem?_eq_some_iff.mp h).1, h]
  have hset : ∀ {i : ℕ} {c : Call R} {phase : CallPhase R}, s.calls[i]? = some c →
      (i = j → Call.Next lib cfg s l s' j call { call with phase }) →
      ∃ call', (s.calls.set i { c with phase })[j]? = some call' ∧ Call.Next lib cfg s l s' j call call' := by
    intro i c phase hc hown
    by_cases hij : i = j
    · subst hij
      obtain rfl : c = call := Option.some.inj (hc.symm.trans h)
      exact ⟨_, List.getElem?_set_self (List.getElem?_eq_some_iff.mp hc).1, hown rfl⟩
    · exact ⟨call, by rw [List.getElem?_set_ne hij, h], .same⟩
  cases step_eq_some.mp hstep with
  | syncService => exact ⟨call, happend _, .same⟩
  | planning objectNames => exact ⟨call, happend _, .same⟩
  | takeRequest hready => exact ⟨call, happend _, .same⟩
  | getObjects i c response getGltf hc hphase =>
    refine hset hc fun hij => ?_
    subst hij
    obtain rfl : c = call := Option.some.inj (hc.symm.trans h)
    exact .answered rfl hphase
  | fetchSection i c sec todo hc hphase =>
    refine hset hc fun hij => ?_
    subst hij
    obtain rfl : c = call := Option.some.inj (hc.symm.trans h)
    exact .run hphase rfl
  | snapshot i c ord now hc hphase =>
    refine hset hc fun hij => ?_
    subst hij
    obtain rfl : c = call := Option.some.inj (hc.symm.trans h)
    exact .snapshot hphase
  | publish i c msg msgs hc hphase =>
    refine hset hc fun hij => ?_
    subst hij
    obtain rfl : c = call := Option.some.inj (hc.symm.trans h)
    exact .publish hphase rfl
  | _ => exact ⟨call, h, .same⟩

/-- A call that is there after a step is a new one, or it is what the step has made of one. -/
theorem call_before (hstep : step lib cfg s l = some s') {j : ℕ} {call' : Call R} (h : s'.calls[j]? = some call') :
    call'.phase = .requesting ∨ ∃ call, s.calls[j]? = some call ∧ Call.Next lib cfg s l s' j call call' := by
  cases hcall : s.calls[j]? with
  | some call =>
    obtain ⟨c, hc, hnext⟩ := call_next hstep hcall
    obtain rfl : c = call' := Option.some.inj (hc.symm.trans h)
    exact .inr ⟨call, rfl, hnext⟩
  | none =>
    cases callsStep hstep with
    | same hl hcalls => rw [hcalls, hcall] at h; cases h
    | begin hl hbegins htf hcalls hready =>
      rw [hcalls] at h
      rcases getElem?_append_singleton h with h | ⟨-, rfl⟩
      · rw [hcall] at h; cases h
      · exact .inl rfl
    | @own i c phase hl hc htf hcalls hlt =>
      rw [hcalls] at h
      rw [List.getElem?_eq_none_iff] at hcall
      have hlt := (List.getElem?_eq_some_iff.mp h).1
      rw [List.length_set] at hlt
      omega

theorem call_answered {i : ℕ} {call : Call R} {objects : List (WorldObject R)}
    {getGltf : ℕ → GeoRef → Except Failure Bytes} (hcall : s.calls[i]? = some call)
    (hstep : step lib cfg s (.getObjects i (.ok objects) getGltf) = some s') :
    s'.calls[i]? = some { call with phase := .fetching ((fetchPlan lib cfg getGltf objects).map .item) } := by
  have hs := step_eq_some.mp hstep
  generalize hl : Label.getObjects i (.ok objects) getGltf = l at hs
  cases hs with
  | getObjects j c response gltf hc hphase =>
    obtain ⟨rfl, rfl, rfl⟩ := Label.getObjects.inj hl
    obtain rfl : c = call := Option.some.inj (hc.symm.trans hcall)
    exact setPhase_getElem? hc _
  | _ => cases hl

theorem shapeStep (hstep : step lib cfg s l = some s') : ShapeStep s s' := by
  cases step_eq_some.mp hstep with
  | takeRequest hready => exact .same ⟨rfl, rfl, rfl, rfl⟩
  | fetchSection i call sec todo hcall hphase => exact .run hcall hphase rfl
  | tfErase now m frame frames htf => exact .erase htf rfl
  | tfQueue m htf => exact .same (SameShapes.queue s.data _ _)
  | tfUpdate ord now m htf => exact .same (SameShapes.update lib cfg ord now m.transforms s.data)
  | shutdown => exact .same ⟨rfl, rfl, rfl, rfl⟩
  | _ => exact .same (SameShapes.refl _)

theorem publishStep (hstep : step lib cfg s l = some s') : PublishStep s s' := by
  cases step_eq_some.mp hstep with
  | publish i call msg msgs hcall hphase => exact .call hcall hphase rfl
  | tfPublishRemove m msg frames htf => exact .remove htf rfl
  | tfPublishMove msg msgs htf => exact .move htf rfl
  | _ => exact .nothing rfl

/-! ### A steady World -/

variable (cfg lib) in
/-- The World and TF stay as they are: an answer has items of the World, and a TF message
has their frames. It does not drop the empty name, whose removal deletes every object. -/
def SteadyStep (xs : List (FetchItem R)) (s : Sys R) : Label R → Prop
  | .getObjects _ response getGltf => ∀ objects, response = .ok objects →
    ∀ x ∈ fetchPlan lib cfg getGltf objects, ∃ y ∈ xs, x.Like y
  | .tfMessage _ msg => (∀ y ∈ xs, ∃ ts ∈ msg, cfg.rosFrame ts.childFrameId = y.frame) ∧
    ([] ∈ s.data.tfFrameNames → ∃ ts ∈ msg, cfg.rosFrame ts.childFrameId = [])
  | _ => True

/-- Only frames that no item of the World has are to be removed. -/
def TfPhase.Spares (xs : List (FetchItem R)) (tf : TfPhase R) : Prop :=
  ∀ m frames, tf.removals = some (m, frames) → ∀ f ∈ frames, f ≠ [] ∧ ∀ y ∈ xs, y.frame ≠ f

variable {xs : List (FetchItem R)}

theorem spares_step (hi : s.tf.Spares xs) (hsteady : SteadyStep lib cfg xs s l)
    (hstep : step lib cfg s l = some s') : s'.tf.Spares xs := by
  intro m frames hremovals f hf
  cases removalStep hstep with
  | @message ord msg m' frames' hbefore hm hafter hframes hdata =>
    obtain ⟨rfl, rfl⟩ := Prod.mk.inj (Option.some.inj (hafter.symm.trans hremovals))
    obtain ⟨hold, hnew⟩ := (hframes f).mp hf
    have hnot : ¬∃ ts ∈ msg, cfg.rosFrame ts.childFrameId = f := by
      rintro ⟨ts, hts, hframe⟩
      rw [hm, Config.tfUpdate, List.mem_toFinset] at hnew
      exact hnew (List.mem_map.mpr ⟨ts, hts, hframe⟩)
    refine ⟨?_, ?_⟩
    · rintro rfl
      exact hnot (hsteady.2 hold)
    · rintro y hy rfl
      exact hnot (hsteady.1 y hy)
  | publish htf hafter hdata =>
    obtain ⟨rfl, rfl⟩ := Prod.mk.inj (Option.some.inj (hafter.symm.trans hremovals))
    exact hi _ _ (by rw [htf]; rfl) f (List.mem_cons_of_mem _ hf)
  | done hbefore hafter => cases hafter.symm.trans hremovals
  | other hafter hdata hmessage hpublish => exact hi m frames (hafter.symm.trans hremovals) f hf

theorem mem_bytes_step (hstep : step lib cfg s l = some s') {m : Name} (h : m ∈ s.data.renderablesCollision) :
    m ∈ s'.data.renderablesCollision := by
  cases shapeStep hstep with
  | same hsame => rwa [hsame.renderables]
  | erase htf hdata => rwa [hdata]
  | run hcall hphase hdata =>
    rw [hdata]
    exact (sectionRun _ _).mem_bytes h

/-- The calls from number `bound` on fetch items of the World. -/
def Sys.FetchesOf (xs : List (FetchItem R)) (bound : ℕ) (s : Sys R) : Prop :=
  ∀ (i : ℕ) (call : Call R), s.calls[i]? = some call → bound ≤ i →
    ∀ sec ∈ call.phase.todo, sec.Belongs xs s.data

theorem fetchesOf_step {bound : ℕ} (hi : s.FetchesOf xs bound) (hsteady : SteadyStep lib cfg xs s l)
    (hstep : step lib cfg s l = some s') : s'.FetchesOf xs bound := by
  intro i call' hcall' hbound sec hsec
  rcases call_before hstep hcall' with hphase | ⟨call, hcall, hnext⟩
  · rw [hphase] at hsec
    cases hsec
  · have hbytes : ∀ m, m ∈ s.data.renderablesCollision → m ∈ s'.data.renderablesCollision :=
      fun m => mem_bytes_step hstep
    cases hnext with
    | same => exact (hi i call' hcall hbound sec hsec).mono hbytes
    | @answered response getGltf hl hphase =>
      cases response with
      | error e =>
        simp only [Call.afterResponse] at hsec
        split_ifs at hsec <;> cases hsec
      | ok objects =>
        obtain ⟨x, hx, rfl⟩ := List.mem_map.mp hsec
        rw [hl] at hsteady
        exact hsteady objects rfl x hx
    | @run sec₀ todo hphase hdata =>
      have hold : ∀ sec ∈ sec₀ :: todo, sec.Belongs xs s.data := fun sec hsec =>
        hi i call hcall hbound sec (by rw [hphase]; exact hsec)
      rcases List.mem_append.mp hsec with hsec | hsec
      · rw [hdata]
        exact (sectionRun _ _).belongs (hold sec₀ (by simp)) sec hsec
      · exact (hold sec (by simp [hsec])).mono hbytes
    | snapshot hphase => cases hsec
    | publish hphase hpublished => cases hsec

/-! ### Recorded items -/

/-- Every item of the World is recorded, with these bytes under its id. -/
structure Sys.Records (xs : List (FetchItem R)) (bytes : Name → Option Bytes) (s : Sys R) : Prop where
  recorded : ∀ y ∈ xs, y.Recorded s.data
  bytes : ∀ y ∈ xs, s.data.renderablesCollision.lookup y.id = bytes y.id

omit [Field R] [LinearOrder R] in
theorem FetchItem.Recorded.of_same {σ τ : Data R} {y : FetchItem R} (h : y.Recorded σ) (hsame : SameShapes σ τ) :
    y.Recorded τ where
  member := by rw [Data.meshIds, hsame.frames]; exact h.member
  pose := by rw [hsame.poses]; exact h.pose
  mesh hmesh := by rw [hsame.renderables]; exact h.mesh hmesh
  primitive solid hsolid := by rw [hsame.primitives]; exact h.primitive solid hsolid

omit [Field R] [LinearOrder R] in
theorem FetchItem.Recorded.erase {σ : Data R} {y : FetchItem R} {frame : Name} (h : y.Recorded σ)
    (hne : y.frame ≠ frame) : y.Recorded (σ.erase frame) where
  member := by
    rw [Data.meshIds, Data.erase, Finmap.lookup_erase_ne hne]
    exact h.member
  pose := h.pose
  mesh := h.mesh
  primitive := h.primitive

variable {bytes : Name → Option Bytes} (hn : (xs.map fun x => x.id).Nodup)
include hn

/-- What is recorded stays so, with its bytes. -/
theorem recorded_step (hfetches : s.FetchesOf xs 0) (hspares : s.tf.Spares xs)
    (hstep : step lib cfg s l = some s') {y : FetchItem R} (hy : y ∈ xs) (h : y.Recorded s.data) :
    y.Recorded s'.data ∧ s'.data.renderablesCollision.lookup y.id = s.data.renderablesCollision.lookup y.id := by
  cases shapeStep hstep with
  | same hsame => exact ⟨h.of_same hsame, by rw [hsame.renderables]⟩
  | @erase m frame frames htf hdata =>
    have hne := (hspares m (frame :: frames) (by rw [htf]; rfl) frame (by simp)).2 y hy
    rw [hdata]
    exact ⟨h.erase hne, rfl⟩
  | @run i call sec todo hcall hphase hdata =>
    have hsec := hfetches i call hcall (Nat.zero_le i) sec (by rw [hphase]; simp [CallPhase.todo])
    rw [hdata]
    exact ⟨h.run hn hy hsec (sectionRun _ _), h.bytes hn hy hsec (sectionRun _ _)⟩

theorem records_step (hfetches : s.FetchesOf xs 0) (hspares : s.tf.Spares xs)
    (hstep : step lib cfg s l = some s') (h : s.Records xs bytes) : s'.Records xs bytes where
  recorded y hy := (recorded_step hn hfetches hspares hstep hy (h.recorded y hy)).1
  bytes y hy := by
    rw [(recorded_step hn hfetches hspares hstep hy (h.recorded y hy)).2]
    exact h.bytes y hy

/-- Call `i` has still to record the items of the World that are not recorded yet. -/
def Sys.Brings (xs : List (FetchItem R)) (i : ℕ) (s : Sys R) : Prop :=
  ∀ y ∈ xs, y.Recorded s.data ∨ ∃ (call : Call R), s.calls[i]? = some call ∧ ∃ sec ∈ call.phase.todo, sec.source = y

theorem brings_step (hfetches : s.FetchesOf xs 0) (hspares : s.tf.Spares xs) (hanswered : ∀ y ∈ xs, y.Answered)
    (hstep : step lib cfg s l = some s') {i : ℕ} (h : s.Brings xs i) : s'.Brings xs i := by
  intro y hy
  rcases h y hy with hrecorded | ⟨call, hcall, sec, hsec, rfl⟩
  · exact .inl (recorded_step hn hfetches hspares hstep hy hrecorded).1
  · obtain ⟨call', hcall', hnext⟩ := call_next hstep hcall
    cases hnext with
    | same => exact .inr ⟨_, hcall', sec, hsec, rfl⟩
    | answered hl hphase => rw [hphase] at hsec; cases hsec
    | @run sec₀ todo hphase hdata =>
      rw [hphase] at hsec
      rcases List.mem_cons.mp hsec with rfl | hsec
      · have hbelongs := hfetches i call hcall (Nat.zero_le i) sec (by rw [hphase]; simp [CallPhase.todo])
        rcases (sectionRun s.data sec).records hbelongs (hanswered _ hy) with hrecorded | ⟨next, hnext, hsource⟩
        · rw [hdata]
          exact .inl hrecorded
        · exact .inr ⟨_, hcall', next, List.mem_append_left _ hnext, hsource⟩
      · exact .inr ⟨_, hcall', sec, List.mem_append_right _ hsec, rfl⟩
    | snapshot hphase => rw [hphase] at hsec; cases hsec
    | publish hphase hpublished => rw [hphase] at hsec; cases hsec

/-! ### Publications -/

omit hn

/-- The ADD of the frame. -/
def CollisionObject.add? (f : Name) (msg : CollisionObject R) : Option (CollisionObject R) :=
  if msg.operation = .add ∧ msg.id = f then some msg else none

/-- MoveIt deletes the object of the frame, or all objects. -/
def CollisionObject.Deletes (f : Name) (msg : CollisionObject R) : Prop :=
  msg.operation = .remove ∧ (msg.id = f ∨ msg.id = [])

instance (f : Name) : DecidablePred (CollisionObject.Deletes (R := R) f) := fun msg =>
  inferInstanceAs (Decidable (msg.operation = .remove ∧ (msg.id = f ∨ msg.id = [])))

/-- The ADD that MoveIt's object of the frame comes from, none if the object is deleted. -/
def lastAdd (f : Name) (published : List (CollisionObject R)) : Option (CollisionObject R) :=
  lastSet (CollisionObject.add? f) (CollisionObject.Deletes f) published

/-- The message has all items of its frame. -/
def CollisionObject.Shows (lib : Library R) (xs : List (FetchItem R)) (bytes : Name → Option Bytes)
    (msg : CollisionObject R) : Prop := ∀ y ∈ xs, y.frame = msg.id → y.In lib bytes msg

/-- What the calls from number `bound` on have still to publish has all items of the World. -/
def Sys.AddsShow (lib : Library R) (xs : List (FetchItem R)) (bytes : Name → Option Bytes) (bound : ℕ) (s : Sys R) :
    Prop :=
  ∀ (i : ℕ) (call : Call R), s.calls[i]? = some call → bound ≤ i →
    ∀ msgs, call.phase = .publishing msgs → ∀ msg ∈ msgs, msg.Shows lib xs bytes

/-- The callback publishes REMOVEs and MOVEs. -/
structure TfPhase.Operations (tf : TfPhase R) : Prop where
  remove : ∀ m msg frames, tf = .publishRemove m msg frames → msg.operation = .remove
  move : ∀ msgs, tf = .publishMoves msgs → ∀ msg ∈ msgs, msg.operation = .move

omit [Field R] [LinearOrder R] in
theorem FetchItem.In.congr {bytes' : Name → Option Bytes} {msg : CollisionObject R} {x : FetchItem R}
    (h : x.In lib bytes msg) (hbytes : bytes' x.id = bytes x.id) : x.In lib bytes' msg :=
  ⟨by rw [hbytes]; exact h.mesh, by rw [hbytes]; exact h.primitive, by rw [hbytes]; exact h.replaced⟩

omit [Field R] [LinearOrder R] in
theorem operations_idle : (TfPhase.idle : TfPhase R).Operations where
  remove _ _ _ h := by cases h
  move _ h := by cases h

theorem tfOperations_step (hi : s.tf.Operations) (hstep : step lib cfg s l = some s') : s'.tf.Operations := by
  have hother : ∀ {tf : TfPhase R}, tf.pending = [] → tf.Operations := fun {tf} htf => by
    constructor
    · rintro m msg frames rfl
      cases htf
    · rintro msgs rfl
      rw [show msgs = [] from htf]
      simp
  cases step_eq_some.mp hstep with
  | tfMessage ord msg htf => exact hother rfl
  | tfErase now m frame frames htf =>
    constructor
    · rintro _ _ _ h
      obtain ⟨-, rfl, -⟩ := TfPhase.publishRemove.inj h
      rfl
    · rintro msgs h
      cases h
  | tfPublishRemove m msg frames htf => exact hother rfl
  | tfQueue m htf => exact hother rfl
  | tfUpdate ord now m htf =>
    constructor
    · rintro _ _ _ h
      cases h
    · rintro msgs h msg hmsg
      obtain rfl := TfPhase.publishMoves.inj h
      rw [updateCollisionObjects_eq] at hmsg
      obtain ⟨ts, -, -, -, hmove⟩ := frameMove_eq_some (mem_dueMoves.mp hmsg).2
      rw [hmove]
      rfl
  | tfPublishMove msg msgs htf =>
    constructor
    · rintro _ _ _ h
      cases h
    · rintro _ h m hm
      obtain rfl := TfPhase.publishMoves.inj h
      exact hi.move _ htf m (List.mem_cons_of_mem _ hm)
  | tfReturn htf => exact hother rfl
  | _ => exact hi

theorem addsShow_step {bound : ℕ} (hi : s.AddsShow lib xs bytes bound) (hrecords : s.Records xs bytes)
    (hstep : step lib cfg s l = some s') : s'.AddsShow lib xs bytes bound := by
  intro i call' hcall' hbound msgs hmsgs msg hmsg
  rcases call_before hstep hcall' with hphase | ⟨call, hcall, hnext⟩
  · rw [hphase] at hmsgs
    cases hmsgs
  · cases hnext with
    | same => exact hi i _ hcall hbound msgs hmsgs msg hmsg
    | @answered response getGltf hl hphase =>
      cases response with
      | error e =>
        simp only [Call.afterResponse] at hmsgs
        split_ifs at hmsgs
        obtain rfl := CallPhase.publishing.inj hmsgs
        cases hmsg
      | ok objects => cases hmsgs
    | run hphase hdata => cases hmsgs
    | @snapshot ord now hphase =>
      obtain rfl := CallPhase.publishing.inj hmsgs
      obtain ⟨f, -, -, rfl⟩ := (mem_addCollisionObjectsToScene lib now _ _).mp hmsg
      rintro y hy rfl
      exact ((hrecords.recorded y hy).in_addMessage lib now ord).congr (hrecords.bytes y hy).symm
    | publish hphase hpublished =>
      obtain rfl := CallPhase.publishing.inj hmsgs
      exact hi i call hcall hbound _ hphase msg (List.mem_cons_of_mem _ hmsg)

/-- MoveIt has all items of the frame. -/
def Sys.ShowsFrame (lib : Library R) (xs : List (FetchItem R)) (bytes : Name → Option Bytes) (f : Name) (s : Sys R) :
    Prop := ∃ msg, lastAdd f s.published = some msg ∧ msg.id = f ∧ msg.Shows lib xs bytes

omit [Field R] [LinearOrder R] in
theorem lastAdd_add {published : List (CollisionObject R)} {msg : CollisionObject R} {f : Name}
    (hadd : msg.operation = .add) :
    lastAdd f (published ++ [msg]) = if msg.id = f then some msg else lastAdd f published := by
  rw [lastAdd, lastSet_concat, nextSet, if_neg (by simp [CollisionObject.Deletes, hadd]), CollisionObject.add?]
  by_cases hid : msg.id = f
  · simp [hadd, hid]
  · simp [hid, lastAdd]

omit [Field R] [LinearOrder R] in
theorem lastAdd_other {published : List (CollisionObject R)} {msg : CollisionObject R} {f : Name}
    (hadd : msg.operation ≠ .add) (hkeeps : ¬msg.Deletes f) : lastAdd f (published ++ [msg]) = lastAdd f published :=
  lastSet_concat_of_none (by simp [CollisionObject.add?, hadd]) hkeeps

theorem showsFrame_step (hadds : s.AddsShow lib xs bytes 0) (hspares : s.tf.Spares xs) (htfs : s.tf.Operations)
    (hcalls : ∀ call ∈ s.calls, call.PublishesAdds) (hstep : step lib cfg s l = some s') {y : FetchItem R}
    (hy : y ∈ xs) (h : s.ShowsFrame lib xs bytes y.frame) : s'.ShowsFrame lib xs bytes y.frame := by
  obtain ⟨shown, hlast, hid, hshows⟩ := h
  cases publishStep hstep with
  | nothing hsame => exact ⟨shown, by rw [hsame, hlast], hid, hshows⟩
  | @call i call msg msgs hcall hphase hpublished =>
    have hadd : msg.operation = .add := hcalls call (List.mem_of_getElem? hcall) _ hphase msg (by simp)
    rw [Sys.ShowsFrame, hpublished, lastAdd_add hadd]
    by_cases hf : msg.id = y.frame
    · rw [if_pos hf]
      exact ⟨msg, rfl, hf, hadds i call hcall (Nat.zero_le i) _ hphase msg (by simp)⟩
    · rw [if_neg hf]
      exact ⟨shown, hlast, hid, hshows⟩
  | @remove m msg frames htf hpublished =>
    have hop := htfs.remove m msg frames htf
    have hspared := hspares m (msg.id :: frames) (by rw [htf]; rfl) msg.id (by simp)
    have hkeeps : ¬msg.Deletes y.frame := by
      rintro ⟨-, hf | hempty⟩
      · exact hspared.2 y hy hf.symm
      · exact hspared.1 hempty
    rw [Sys.ShowsFrame, hpublished, lastAdd_other (by rw [hop]; decide) hkeeps]
    exact ⟨shown, hlast, hid, hshows⟩
  | @move msg msgs htf hpublished =>
    have hop := htfs.move _ htf msg (by simp)
    have hkeeps : ¬msg.Deletes y.frame := fun hdeletes => by
      rw [CollisionObject.Deletes, hop] at hdeletes
      cases hdeletes.1
    rw [Sys.ShowsFrame, hpublished, lastAdd_other (by rw [hop]; decide) hkeeps]
    exact ⟨shown, hlast, hid, hshows⟩

/-- Call `i` is a full fetch that has still to publish the ADD of the frame. -/
def Sys.WillShow (i : ℕ) (f : Name) (s : Sys R) : Prop :=
  ∃ call : Call R, s.calls[i]? = some call ∧ ((call.objectNames = none ∧ ∃ todo, call.phase = .fetching todo) ∨
    ∃ msgs, call.phase = .publishing msgs ∧ ∃ msg ∈ msgs, msg.id = f)

omit [Field R] [LinearOrder R] in
theorem not_willShow_of_ended {i : ℕ} {f : Name} (h : s.Ended i) : ¬s.WillShow i f := by
  rintro ⟨call, hcall, hphase⟩
  obtain ⟨c, hc, hfinished⟩ := h
  obtain rfl : c = call := Option.some.inj (hc.symm.trans hcall)
  rcases hphase with ⟨-, todo, hphase⟩ | ⟨msgs, hphase, msg, hmsg, -⟩
  · simp [Call.finished, hphase] at hfinished
  · cases msgs with
    | nil => cases hmsg
    | cons m ms => simp [Call.finished, hphase] at hfinished

theorem willShow_step (hadds : s.AddsShow lib xs bytes 0) (hrecords : s.Records xs bytes)
    (hcalls : ∀ call ∈ s.calls, call.PublishesAdds) (hstep : step lib cfg s l = some s') {i : ℕ} {y : FetchItem R}
    (hy : y ∈ xs) (h : s.WillShow i y.frame) :
    s'.WillShow i y.frame ∨ s'.ShowsFrame lib xs bytes y.frame := by
  obtain ⟨call, hcall, hphase⟩ := h
  obtain ⟨call', hcall', hnext⟩ := call_next hstep hcall
  cases hnext with
  | same => exact .inl ⟨_, hcall', hphase⟩
  | answered hl hrequesting => simp [hrequesting] at hphase
  | run hfetching hdata =>
    rcases hphase with ⟨hnames, -⟩ | ⟨msgs, hpublishing, -⟩
    · exact .inl ⟨_, hcall', .inl ⟨hnames, _, rfl⟩⟩
    · rw [hfetching] at hpublishing
      cases hpublishing
  | @snapshot ord now hfetching =>
    rcases hphase with ⟨hnames, -⟩ | ⟨msgs, hpublishing, -⟩
    · have htracked := Data.tracked_of_mem_meshIds (hrecords.recorded y hy).member
      refine .inl ⟨_, hcall', .inr ⟨_, rfl, addMessage lib now ord s.data y.frame, ?_, rfl⟩⟩
      refine (mem_addCollisionObjectsToScene lib now _ _).mpr ⟨y.frame, ?_, htracked, rfl⟩
      exact (mem_framesToAdd ord y.frame _ htracked).mpr fun frames hframes => by rw [hnames] at hframes; cases hframes
    · rw [hfetching] at hpublishing
      cases hpublishing
  | @publish msg msgs hpublishing hpublished =>
    rcases hphase with ⟨-, todo, hfetching⟩ | ⟨all, hall, m, hm, hid⟩
    · rw [hpublishing] at hfetching
      cases hfetching
    · obtain rfl := CallPhase.publishing.inj (hpublishing.symm.trans hall)
      rcases List.mem_cons.mp hm with rfl | hm
      · have hadd : m.operation = .add := hcalls call (List.mem_of_getElem? hcall) _ hpublishing m (by simp)
        refine .inr ⟨m, ?_, hid, hadds i call hcall (Nat.zero_le i) _ hpublishing m (by simp)⟩
        rw [hpublished, lastAdd_add hadd, if_pos hid]
      · exact .inl ⟨_, hcall', .inr ⟨msgs, rfl, m, hm, hid⟩⟩

end Step

/-! ### Runs of a steady World -/

section Run
variable [Field R] [LinearOrder R] (lib : Library R) (cfg : Config R) (objects : List (WorldObject R))
  (getGltf : ℕ → GeoRef → Except Failure Bytes)

/-- A run of the node from its start, in which the World and TF are steady from moment `k`
on, every thread gets its turns, and full fetches are answered again and again with all
items of the World, each time in an order of its own. -/
structure SteadyRun (k : ℕ) (states : ℕ → Sys R) (labels : ℕ → Label R) : Prop where
  run : EndlessRun (step lib cfg) states labels
  init : states 0 = Sys.init
  steady : ∀ n, k ≤ n → SteadyStep lib cfg (fetchPlan lib cfg getGltf objects) (states n) (labels n)
  calls : ∀ i n, i < (states n).calls.length →
    GetsTurns (fun s => s.Ended i) (fun _ l => l.call? = some i) states labels
  callback : GetsTurns (fun s => s.tf = .idle) (fun _ l => l.isTf = true) states labels
  fetched : ∀ n, ∃ m, n ≤ m ∧ ∃ (i : ℕ) (call : Call R) (answer : List (WorldObject R))
    (gltf : ℕ → GeoRef → Except Failure Bytes), labels m = .getObjects i (.ok answer) gltf ∧
      fetchPlan lib cfg getGltf objects ⊆ fetchPlan lib cfg gltf answer ∧
        (states m).calls[i]? = some call ∧ call.objectNames = none

variable {lib cfg objects getGltf} {k : ℕ} {states : ℕ → Sys R} {labels : ℕ → Label R}

theorem SteadyRun.calls_end (h : SteadyRun lib cfg objects getGltf k states labels) (n : ℕ) :
    ∃ e, ∀ m, e ≤ m → ∀ i ∈ List.range (states n).calls.length, (states m).Ended i :=
  exists_forall_mem fun i hi => (threads_return h.run).2.1 i (h.calls i n (List.mem_range.mp hi))

theorem SteadyRun.publishesAdds (h : SteadyRun lib cfg objects getGltf k states labels) (n : ℕ) :
    ∀ call ∈ (states n).calls, call.PublishesAdds :=
  h.run.invariant (by simp [h.init, Sys.init]) (fun _ _ _ hi hstep => publishesAdds_step hi hstep) n

theorem SteadyRun.operations (h : SteadyRun lib cfg objects getGltf k states labels) (n : ℕ) :
    (states n).tf.Operations :=
  h.run.invariant (I := fun s => s.tf.Operations)
    (by rw [h.init]; exact operations_idle) (fun _ _ _ hi hstep => tfOperations_step hi hstep) n

/-- From some moment on, every fetch is one of the World and the callback spares its frames. -/
theorem SteadyRun.clean (h : SteadyRun lib cfg objects getGltf k states labels) :
    ∃ c, k ≤ c ∧ ∀ m, c ≤ m → (states m).FetchesOf (fetchPlan lib cfg getGltf objects) 0 ∧
      (states m).tf.Spares (fetchPlan lib cfg getGltf objects) := by
  let xs := fetchPlan lib cfg getGltf objects
  let bound := (states k).calls.length
  have hnew : ∀ m, k ≤ m → (states m).FetchesOf xs bound := by
    intro m hm
    induction m, hm using Nat.le_induction with
    | base =>
      intro i call hcall hi
      have hlt := (List.getElem?_eq_some_iff.mp hcall).1
      omega
    | succ m hm ih => exact fetchesOf_step ih (h.steady m hm) (h.run.next m)
  obtain ⟨e, he⟩ := h.calls_end k
  obtain ⟨c, hc, hidle⟩ := (threads_return h.run).2.2 h.callback (max k e)
  refine ⟨c, by omega, fun m hm => ⟨fun i call hcall _ => ?_, ?_⟩⟩
  · by_cases hi : i < bound
    · obtain ⟨c', hc', hfinished⟩ := he m (by omega) i (List.mem_range.mpr hi)
      obtain rfl : c' = call := Option.some.inj (hc'.symm.trans hcall)
      intro sec hsec
      cases hphase : c'.phase with
      | fetching todo => simp [Call.finished, hphase] at hfinished
      | _ => rw [hphase] at hsec; cases hsec
    · exact hnew m (by omega) i call hcall (by omega)
  · induction m, hm using Nat.le_induction with
    | base =>
      intro m' frames hremovals
      rw [hidle] at hremovals
      cases hremovals
    | succ m hm ih => exact spares_step ih (h.steady m (by omega)) (h.run.next m)

/-- From some moment on, the items of the World are recorded, and what is still to be
published has them. -/
theorem SteadyRun.recorded (h : SteadyRun lib cfg objects getGltf k states labels)
    (hids : ((fetchPlan lib cfg getGltf objects).map fun x => x.id).Nodup)
    (hanswered : ∀ x ∈ fetchPlan lib cfg getGltf objects, x.Answered) :
    ∃ r bytes, ∀ m, r ≤ m → (states m).FetchesOf (fetchPlan lib cfg getGltf objects) 0 ∧
      (states m).tf.Spares (fetchPlan lib cfg getGltf objects) ∧
      (states m).Records (fetchPlan lib cfg getGltf objects) bytes ∧
      (states m).AddsShow lib (fetchPlan lib cfg getGltf objects) bytes 0 := by
  let xs := fetchPlan lib cfg getGltf objects
  obtain ⟨c, hkc, hclean⟩ := h.clean
  -- a full fetch is answered, and when it ends it has recorded all items
  obtain ⟨a, ha, i, call, answer, gltf, hlabel, hitems, hcall, -⟩ := h.fetched c
  have hbrings : ∀ m, a + 1 ≤ m → (states m).Brings xs i := by
    intro m hm
    induction m, hm using Nat.le_induction with
    | base =>
      intro y hy
      have hstep := h.run.next a
      rw [hlabel] at hstep
      exact .inr ⟨_, call_answered hcall hstep, .item y, List.mem_map.mpr ⟨y, hitems hy, rfl⟩, rfl⟩
    | succ m hm ih =>
      obtain ⟨hfetches, hspares⟩ := hclean m (by omega)
      exact brings_step hids hfetches hspares hanswered (h.run.next m) ih
  have hmade : i < (states a).calls.length := (List.getElem?_eq_some_iff.mp hcall).1
  obtain ⟨e, he⟩ := (threads_return h.run).2.1 i (h.calls i a hmade)
  let r := max (a + 1) e
  have hrecorded : ∀ y ∈ xs, y.Recorded (states r).data := by
    intro y hy
    rcases hbrings r (by omega) y hy with hrec | ⟨c', hc', sec, hsec, -⟩
    · exact hrec
    · obtain ⟨c'', hc'', hfinished⟩ := he r (by omega)
      obtain rfl : c'' = c' := Option.some.inj (hc''.symm.trans hc')
      cases hphase : c''.phase with
      | fetching todo => simp [Call.finished, hphase] at hfinished
      | _ => rw [hphase] at hsec; cases hsec
  let bytes : Name → Option Bytes := (states r).data.renderablesCollision.lookup
  have hrecords : ∀ m, r ≤ m → (states m).Records xs bytes := by
    intro m hm
    induction m, hm using Nat.le_induction with
    | base => exact ⟨hrecorded, fun y hy => rfl⟩
    | succ m hm ih =>
      obtain ⟨hfetches, hspares⟩ := hclean m (by omega)
      exact records_step hids hfetches hspares (h.run.next m) ih
  -- calls made later take their snapshots of recorded items, and those made before end
  let bound := (states r).calls.length
  have hadds : ∀ m, r ≤ m → (states m).AddsShow lib xs bytes bound := by
    intro m hm
    induction m, hm using Nat.le_induction with
    | base =>
      intro j c' hc' hj
      have hlt := (List.getElem?_eq_some_iff.mp hc').1
      omega
    | succ m hm ih => exact addsShow_step ih (hrecords m hm) (h.run.next m)
  obtain ⟨e', he'⟩ := h.calls_end r
  refine ⟨max r e', bytes, fun m hm => ⟨(hclean m (by omega)).1, (hclean m (by omega)).2, hrecords m (by omega), ?_⟩⟩
  intro j c' hc' _ msgs hmsgs msg hmsg
  by_cases hj : j < bound
  · obtain ⟨c'', hc'', hfinished⟩ := he' m (by omega) j (List.mem_range.mpr hj)
    obtain rfl : c'' = c' := Option.some.inj (hc''.symm.trans hc')
    cases msgs with
    | nil => cases hmsg
    | cons m ms => simp [Call.finished, hmsgs] at hfinished
  · exact hadds m (by omega) j c' hc' (by omega) msgs hmsgs msg hmsg

/-- From some moment on, MoveIt's object of every frame of the World shows all its items,
as far as the bytes that are held under their ids allow. -/
theorem scene_converges (h : SteadyRun lib cfg objects getGltf k states labels)
    (hids : ((fetchPlan lib cfg getGltf objects).map fun x => x.id).Nodup)
    (hanswered : ∀ x ∈ fetchPlan lib cfg getGltf objects, x.Answered) :
    ∃ n, ∀ m, n ≤ m → ∀ x ∈ fetchPlan lib cfg getGltf objects, ∃ msg,
      lastAdd x.frame (states m).published = some msg ∧
        x.In lib (states m).data.renderablesCollision.lookup msg := by
  let xs := fetchPlan lib cfg getGltf objects
  obtain ⟨r, bytes, hr⟩ := h.recorded hids hanswered
  -- the next full fetch publishes every frame
  have hframe : ∀ y ∈ xs, ∃ n, ∀ m, n ≤ m → r ≤ m ∧ (states m).ShowsFrame lib xs bytes y.frame := by
    intro y hy
    obtain ⟨a, ha, i, call, answer, gltf, hlabel, -, hcall, hnames⟩ := h.fetched r
    have hstart : (states (a + 1)).WillShow i y.frame := by
      have hstep := h.run.next a
      rw [hlabel] at hstep
      exact ⟨_, call_answered hcall hstep, .inl ⟨hnames, _, rfl⟩⟩
    have hmade : i < (states a).calls.length := (List.getElem?_eq_some_iff.mp hcall).1
    obtain ⟨e, he⟩ := (threads_return h.run).2.1 i (h.calls i a hmade)
    obtain ⟨n, hn, -, hshown⟩ := leads_to (P := fun n => (states n).WillShow i y.frame)
      (Q := fun n => (states n).ShowsFrame lib xs bytes y.frame) hstart
      (fun n hn hwill => by
        obtain ⟨hfetches, hspares, hrecords, hadds⟩ := hr n (by omega)
        exact willShow_step hadds hrecords (h.publishesAdds n) (h.run.next n) hy hwill)
      (le_max_left (a + 1) e) (not_willShow_of_ended (he _ (le_max_right _ _)))
    refine ⟨n, fun m hm => ⟨by omega, ?_⟩⟩
    induction m, hm using Nat.le_induction with
    | base => exact hshown
    | succ m hm ih =>
      obtain ⟨hfetches, hspares, hrecords, hadds⟩ := hr m (by omega)
      exact showsFrame_step hadds hspares (h.operations m) (h.publishesAdds m) (h.run.next m) hy ih
  obtain ⟨n, hn⟩ := exists_forall_mem hframe
  refine ⟨n, fun m hm x hx => ?_⟩
  obtain ⟨hrm, msg, hlast, hid, hshows⟩ := hn m hm x hx
  obtain ⟨-, -, hrecords, -⟩ := hr m hrm
  exact ⟨msg, hlast, (hshows x hx hid.symm).congr (hrecords.bytes x hx)⟩

end Run

/-! ### A box that is fetched in rounds -/

namespace Sample

def boxItem : FetchItem ℚ :=
  ⟨"box/whole".toList, "/box/whole/inner".toList, Pose.identity, .primitive ⟨.box, [1, 1, 1]⟩⟩

def boxWorld : List (WorldObject ℚ) := [object "box".toList (boxGeometry 1)]

theorem fetchPlan_box : fetchPlan library Config.default (client []).getGltf boxWorld = [boxItem] := by rfl

theorem recordPrimitive_again (σ : Data ℚ) (frame id : Name) (pose : Pose ℚ) (solid : SolidPrimitive ℚ) :
    (σ.recordPrimitive frame id pose solid).recordPrimitive frame id pose solid =
      σ.recordPrimitive frame id pose solid := by
  simp [Data.recordPrimitive, Data.record, Data.meshIds]

/-- What a fetch of the box leaves in an empty synchronizer. -/
def boxData : Data ℚ := Data.init.recordPrimitive boxItem.frame boxItem.id boxItem.pose ⟨.box, [1, 1, 1]⟩

def boxAdd : CollisionObject ℚ := addMessage library 0 (.increasing Name) boxData boxItem.frame

theorem snapshot_box : addCollisionObjectsToScene library (.increasing Name) 0 boxData none = [boxAdd] := by
  decide +kernel

/-- Planning requests, one after the other, each of which fetches the box and publishes it. -/
def roundLabel (j : ℕ) : ℕ → Label ℚ
  | 0 => .planning none
  | 1 => .getObjects j (.ok boxWorld) (client []).getGltf
  | 2 => .fetchSection j
  | 3 => .snapshot j (.increasing Name) 0
  | _ => .publish j

def roundCalls : ℕ → List (Call ℚ)
  | 0 => []
  | 1 => [⟨.planning, none, .requesting⟩]
  | 2 => [⟨.planning, none, .fetching [.item boxItem]⟩]
  | 3 => [⟨.planning, none, .fetching []⟩]
  | _ => [⟨.planning, none, .publishing [boxAdd]⟩]

/-- The state before step `r` of round `j`. -/
def roundState (j r : ℕ) : Sys ℚ where
  data := if j = 0 ∧ r < 3 then Data.init else boxData
  calls := List.replicate j ⟨.planning, none, .publishing []⟩ ++ roundCalls r
  tf := .idle
  published := List.replicate j boxAdd

theorem roundState_call (j r : ℕ) {call : Call ℚ} (h : roundCalls r = [call]) :
    (roundState j r).calls[j]? = some call := by
  simp [roundState, h]

theorem roundState_set (j r : ℕ) {call call' : Call ℚ} (h : roundCalls r = [call]) :
    (roundState j r).calls.set j call' = List.replicate j ⟨.planning, none, .publishing []⟩ ++ [call'] := by
  simp [roundState, h]

theorem run_boxItem (j : ℕ) : (FetchSection.item boxItem).run (roundState j 2).data = (boxData, []) := by
  cases j with
  | zero => rfl
  | succ j =>
    rw [roundState, if_neg (by omega)]
    exact congrArg (·, []) (recordPrimitive_again _ _ _ _ _)

theorem round_step (j : ℕ) {r : ℕ} (hr : r < 4) :
    step library Config.default (roundState j r) (roundLabel j r) = some (roundState j (r + 1)) := by
  rcases (by omega : r = 0 ∨ r = 1 ∨ r = 2 ∨ r = 3) with rfl | rfl | rfl | rfl
  · simp [step, roundLabel, roundState, roundCalls]
  · have hcall := roundState_call j 1 rfl
    simp only [roundLabel, step, callStep, hcall, Option.bind_some, Sys.setPhase, roundState_set j 1 rfl,
      Call.afterResponse, fetchPlan_box]
    simp [roundState, roundCalls]
  · have hcall := roundState_call j 2 rfl
    simp only [roundLabel, step, callStep, hcall, Option.bind_some, Sys.setPhase, roundState_set j 2 rfl,
      run_boxItem]
    simp [roundState, roundCalls]
  · have hcall := roundState_call j 3 rfl
    have hdata : (roundState j 3).data = boxData := if_neg (by omega)
    simp only [roundLabel, step, callStep, hcall, Option.bind_some, Sys.setPhase, roundState_set j 3 rfl,
      hdata, snapshot_box]
    simp [roundState, roundCalls]

theorem round_end (j : ℕ) :
    step library Config.default (roundState j 4) (roundLabel j 4) = some (roundState (j + 1) 0) := by
  have hcall := roundState_call j 4 rfl
  simp only [roundLabel, step, callStep, hcall, Option.bind_some, Sys.setPhase, roundState_set j 4 rfl]
  simp [roundState, roundCalls, List.replicate_succ']

def roundStates (n : ℕ) : Sys ℚ := roundState (n / 5) (n % 5)

def roundLabels (n : ℕ) : Label ℚ := roundLabel (n / 5) (n % 5)

theorem rounds_endless : EndlessRun (step library Config.default) roundStates roundLabels := by
  constructor
  intro n
  by_cases hr : n % 5 < 4
  · rw [roundStates, roundLabels, round_step _ hr, roundStates, show (n + 1) / 5 = n / 5 by omega,
      show (n + 1) % 5 = n % 5 + 1 by omega]
  · rw [roundStates, roundLabels, show n % 5 = 4 by omega, round_end, roundStates,
      show (n + 1) / 5 = n / 5 + 1 by omega, show (n + 1) % 5 = 0 by omega]

theorem rounds_steady : SteadyRun library Config.default boxWorld (client []).getGltf 0 roundStates roundLabels where
  run := rounds_endless
  init := by
    rw [roundStates]
    simp [roundState, roundCalls, Sys.init]
  steady n _ := by
    rw [roundLabels, fetchPlan_box]
    rcases (by omega : n % 5 = 0 ∨ n % 5 = 1 ∨ n % 5 = 2 ∨ n % 5 = 3 ∨ n % 5 = 4) with h | h | h | h | h
    · rw [h]; trivial
    · rw [h]
      intro objects hobjects x hx
      obtain rfl := Except.ok.inj hobjects
      rw [fetchPlan_box] at hx
      exact ⟨x, hx, .refl x⟩
    · rw [h]; trivial
    · rw [h]; trivial
    · rw [h]; trivial
  calls i n hi m := by
    refine ⟨m + 5 * (i + 1), by omega, .inl ⟨⟨.planning, none, .publishing []⟩, ?_, rfl⟩⟩
    have hlt : i < (m + 5 * (i + 1)) / 5 := by omega
    rw [roundStates, roundState, List.getElem?_append_left (by simpa using hlt), List.getElem?_replicate, if_pos hlt]
  callback n := ⟨n, le_rfl, .inl rfl⟩
  fetched n := by
    refine ⟨5 * n + 1, by omega, n, ⟨.planning, none, .requesting⟩, boxWorld, (client []).getGltf, ?_,
      List.Subset.refl _, ?_, rfl⟩
    · rw [roundLabels, show (5 * n + 1) / 5 = n by omega, show (5 * n + 1) % 5 = 1 by omega]
      rfl
    · rw [roundStates, show (5 * n + 1) / 5 = n by omega, show (5 * n + 1) % 5 = 1 by omega]
      exact roundState_call n 1 rfl

end Sample

theorem scene_converges_box : ∃ n, ∀ m, n ≤ m →
    ∀ x ∈ fetchPlan Sample.library Config.default (Sample.client []).getGltf Sample.boxWorld, ∃ msg,
      lastAdd x.frame (Sample.roundStates m).published = some msg ∧
        x.In Sample.library (Sample.roundStates m).data.renderablesCollision.lookup msg :=
  scene_converges Sample.rounds_steady (by rw [Sample.fetchPlan_box]; exact List.nodup_singleton _)
    (by rw [Sample.fetchPlan_box]; exact List.forall_mem_singleton.mpr trivial)

end MoveitPlanning.Scene
