import MoveitPlanning.Scene.Threads
import MoveitPlanning.Scene.MovePoses
import MoveitPlanning.Scene.FetchPlan

/-! An object that has vanished from TF and from the World. Its frames are removed by the
first TF callback that misses them, while a fetch may still hold an older response. The
frames are gone for good when that callback knows all of them and no fetch carries one
at the moment it is removed: then a frame that is still held is always one that the
callback has yet to remove, and once it has removed them all nothing brings them back.
A fetch that carries a frame past its removal leaves a ghost. -/

namespace MoveitPlanning.Scene

open Foundation

variable {R : Type*}

/-! ### Frames in the system -/

/-- A frame under which the object's entities are tracked. -/
def ObjectFrame (cfg : Config R) (n f : Name) : Prop :=
  ∃ entityName, f = cfg.tfFrameName (cfg.shortName n) entityName

/-- The operation of the last message published for the frame. -/
def lastOperation (published : List (CollisionObject R)) (f : Name) : Option Operation :=
  (published.filter fun msg => msg.id = f).getLast?.map fun msg => msg.operation

theorem lastOperation_append (published : List (CollisionObject R)) (msg : CollisionObject R) (f : Name) :
    lastOperation (published ++ [msg]) f =
      if msg.id = f then some msg.operation else lastOperation published f := by
  by_cases h : msg.id = f
  · simp [lastOperation, List.filter_append, h]
  · simp [lastOperation, List.filter_append, h]

theorem exists_lastOperation {published : List (CollisionObject R)} {msg : CollisionObject R}
    (h : msg ∈ published) : ∃ op, lastOperation published msg.id = some op := by
  have hne : published.filter (fun m => m.id = msg.id) ≠ [] :=
    List.ne_nil_of_mem (List.mem_filter.mpr ⟨h, by simp⟩)
  exact ⟨_, by rw [lastOperation, List.getLast?_eq_getLast_of_ne_nil hne, Option.map_some]⟩

/-- The call still has to insert a geometry of the frame, or to publish its ADD. -/
def CallPhase.Carries (f : Name) : CallPhase R → Prop
  | .requesting => False
  | .fetching todo => ∃ sec ∈ todo, sec.frame = f
  | .publishing msgs => ∃ msg ∈ msgs, msg.id = f

def Carried (s : Sys R) (f : Name) : Prop := ∃ call ∈ s.calls, call.phase.Carries f

/-- The frame is tracked, or a call will bring it back. -/
def Held (s : Sys R) (f : Name) : Prop := s.data.Tracked f ∨ Carried s f

/-- MoveIt has last been told that the frame is there. -/
def Shown (s : Sys R) (f : Name) : Prop :=
  ∃ op, lastOperation s.published f = some op ∧ op ≠ .remove

/-! ### What the callback knows -/

def TfUpdate.Avoids (F : Name → Prop) (m : TfUpdate R) : Prop :=
  (∀ f ∈ m.newTfFrameNames, ¬F f) ∧ ∀ ts ∈ m.transforms, ¬F ts.childFrameId

/-- No TF message of the callback has a frame of `F`, nor has a MOVE it still publishes. -/
def TfPhase.Avoids (F : Name → Prop) : TfPhase R → Prop
  | .idle => True
  | .removing m _ => m.Avoids F
  | .publishRemove m msg _ => m.Avoids F ∧ msg.operation = .remove
  | .updating m => m.Avoids F
  | .publishMoves msgs => ∀ msg ∈ msgs, ¬F msg.id

/-- No frame of `F` is held or shown. -/
structure Quiet (F : Name → Prop) (s : Sys R) : Prop where
  callback : s.tf.Avoids F
  held : ∀ f, F f → ¬Held s f
  shown : ∀ f, F f → ¬Shown s f

/-- Every frame of `F` that is held or shown is about to be removed. -/
inductive Clearing (F : Name → Prop) (s : Sys R) : Prop
  | removing (m : TfUpdate R) (frames : List Name) (htf : s.tf = .removing m frames) (hm : m.Avoids F)
      (hframes : ∀ f, F f → Held s f ∨ Shown s f → f ∈ frames)
  | publishing (m : TfUpdate R) (msg : CollisionObject R) (frames : List Name)
      (htf : s.tf = .publishRemove m msg frames) (hm : m.Avoids F) (hremove : msg.operation = .remove)
      (hheld : ∀ f, F f → Held s f → f ∈ frames) (hshown : ∀ f, F f → Shown s f → f ∈ frames ∨ msg.id = f)

/-! ### Steps of calls -/

theorem carried_setPhase {s τ : Sys R} {i : ℕ} {call : Call R} {phase : CallPhase R} {f : Name}
    (hcalls : τ.calls = s.calls) (h : Carried (τ.setPhase i call phase) f) :
    phase.Carries f ∨ Carried s f := by
  obtain ⟨c, hc, hf⟩ := h
  rcases List.mem_or_eq_of_mem_set hc with hc | rfl
  · exact .inr ⟨c, hcalls ▸ hc, hf⟩
  · exact .inl hf

theorem carried_of_phase {s : Sys R} {i : ℕ} {call : Call R} (hcall : s.calls[i]? = some call) {f : Name}
    (h : call.phase.Carries f) : Carried s f := ⟨call, List.mem_of_getElem? hcall, h⟩

theorem carried_append {s : Sys R} {caller : Caller} {names : Option (List Name)} {f : Name}
    (h : ∃ call ∈ s.calls ++ [⟨caller, names, .requesting⟩], call.phase.Carries f) : Carried s f := by
  obtain ⟨c, hc, hf⟩ := h
  rcases List.mem_append.mp hc with hc | hc
  · exact ⟨c, hc, hf⟩
  · obtain rfl := List.mem_singleton.mp hc
    exact hf.elim

theorem FetchSection.run_frame (σ : Data R) (sec : FetchSection R) :
    ∀ next ∈ (sec.run σ).2, next.frame = sec.frame := by
  cases sec with
  | item x =>
    rcases x with ⟨frame, id, pose, ⟨ref, _ | data⟩ | solid⟩
    · simp only [FetchSection.run]
      split_ifs <;> simp [FetchSection.frame]
    · simp only [FetchSection.run]
      split_ifs <;> simp [FetchSection.frame]
    · simp [FetchSection.run]
  | emplace x gltf => simp [FetchSection.run, FetchSection.frame]
  | record x => simp [FetchSection.run]

theorem FetchSection.run_tracked {σ : Data R} {sec : FetchSection R} {f : Name}
    (h : (sec.run σ).1.Tracked f) : sec.frame = f ∨ σ.Tracked f := by
  cases sec with
  | item x =>
    rcases x with ⟨frame, id, pose, ⟨ref, _ | data⟩ | solid⟩
    · simp only [FetchSection.run] at h
      split_ifs at h <;> exact .inr h
    · simp only [FetchSection.run] at h
      split_ifs at h <;> exact .inr h
    · exact ((Data.recordPrimitive_tracked _ _ _ _ _ _).mp h).imp_left Eq.symm
  | emplace x gltf => exact .inr ((Data.emplace_tracked _ _ _ _).mp h)
  | record x => exact ((Data.record_tracked _ _ _ _ _).mp h).imp_left Eq.symm

/-- What a step that is not the callback's can do to the frames of `F`. -/
structure OwnStep (F : Name → Prop) (s s' : Sys R) : Prop where
  held : ∀ f, F f → Held s' f → Held s f
  shown : ∀ f, F f → Shown s' f → Held s f ∨ Shown s f
  tf : s'.tf = s.tf

theorem OwnStep.of_held {F : Name → Prop} {s s' : Sys R} (held : ∀ f, F f → Held s' f → Held s f)
    (published : s'.published = s.published) (tf : s'.tf = s.tf) : OwnStep F s s' :=
  ⟨held, fun f _ h => .inr (by rwa [Shown, ← published]), tf⟩

def Label.isTf : Label R → Bool
  | .tfMessage _ _ | .tfErase _ | .tfPublishRemove | .tfQueue | .tfUpdate _ _ | .tfPublishMove
  | .tfReturn => true
  | _ => false

/-- A response has nothing to insert under a frame of `F`, and a TF message has no such
frame. -/
def Label.Avoids (cfg : Config R) (F : Name → Prop) : Label R → Prop
  | .getObjects _ (.ok objects) _ => ∀ f, CollisionFrame cfg objects f → ¬F f
  | .tfMessage _ msg => ∀ ts ∈ msg, ¬F (cfg.rosFrame ts.childFrameId)
  | _ => True

section Step
variable [Field R] [LinearOrder R] {lib : Library R} {cfg : Config R} {F : Name → Prop}

/-- A call carries on what it holds: it inserts what it was to insert, publishes what
it was to publish, and takes up only what is tracked. -/
theorem ownStep_of_step {s s' : Sys R} {l : Label R} (hl : l.isTf = false)
    (havoids : l.Avoids cfg F) (hstep : step lib cfg s l = some s') : OwnStep F s s' := by
  cases step_eq_some.mp hstep with
  | syncService => exact .of_held (fun f _ h => h.imp_right carried_append) rfl rfl
  | planning objectNames => exact .of_held (fun f _ h => h.imp_right carried_append) rfl rfl
  | takeRequest hready => exact .of_held (fun f _ h => h.imp_right carried_append) rfl rfl
  | getObjects i call response getGltf hcall hphase =>
    refine .of_held (fun f hf h => h.imp_right fun h => ?_) rfl rfl
    refine (carried_setPhase rfl h).resolve_left fun hcarries => ?_
    cases response with
    | error e =>
      simp only [Call.afterResponse] at hcarries
      split_ifs at hcarries <;> simp [CallPhase.Carries] at hcarries
    | ok objects =>
      obtain ⟨sec, hsec, hframe⟩ := hcarries
      obtain ⟨x, hx, rfl⟩ := List.mem_map.mp hsec
      exact havoids f ((exists_mem_fetchPlan_frame lib cfg getGltf objects f).mp ⟨x, hx, hframe⟩) hf
  | fetchSection i call sec todo hcall hphase =>
    have hself : ∀ f, sec.frame = f → Carried s f := fun f hf =>
      carried_of_phase hcall (by rw [hphase]; exact ⟨sec, by simp, hf⟩)
    refine .of_held (fun f _ h => ?_) rfl rfl
    rcases h with ht | hc
    · exact (FetchSection.run_tracked ht).elim (fun hf => .inr (hself f hf)) .inl
    · rcases carried_setPhase rfl hc with ⟨next, hnext, hf⟩ | hc
      · rcases List.mem_append.mp hnext with hnext | hnext
        · exact .inr (hself f ((sec.run_frame s.data next hnext).symm.trans hf))
        · exact .inr (carried_of_phase hcall (by rw [hphase]; exact ⟨next, by simp [hnext], hf⟩))
      · exact .inr hc
  | snapshot i call ord now hcall hphase =>
    refine .of_held (fun f _ h => ?_) rfl rfl
    rcases h with ht | hc
    · exact .inl ht
    · rcases carried_setPhase rfl hc with ⟨msg, hmsg, hid⟩ | hc
      · obtain ⟨g, -, ht, rfl⟩ := (mem_addCollisionObjectsToScene lib now _ msg).mp hmsg
        obtain rfl : g = f := hid
        exact .inl ht
      · exact .inr hc
  | publish i call msg msgs hcall hphase =>
    refine ⟨fun f _ h => ?_, fun f _ h => ?_, rfl⟩
    · rcases h with ht | hc
      · exact .inl ht
      · rcases carried_setPhase rfl hc with ⟨m, hm, hid⟩ | hc
        · exact .inr (carried_of_phase hcall (by rw [hphase]; exact ⟨m, by simp [hm], hid⟩))
        · exact .inr hc
    · obtain ⟨op, hop, hne⟩ := h
      rw [show (Sys.setPhase _ i call _).published = s.published ++ [msg] from rfl,
        lastOperation_append] at hop
      split_ifs at hop with hid
      · exact .inl (.inr (carried_of_phase hcall (by rw [hphase]; exact ⟨msg, by simp, hid⟩)))
      · exact .inr ⟨op, hop, hne⟩
  | shutdown => exact .of_held (fun f _ h => h) rfl rfl
  | _ => cases hl

/-! ### Steps of the callback -/

omit [Field R] [LinearOrder R] in
theorem tfUpdate_avoids (ord : IterOrder Name) (tfFrameNames : Finset Name) {msg : List (TransformStamped R)}
    (h : ∀ ts ∈ msg, ¬F (cfg.rosFrame ts.childFrameId)) : (cfg.tfUpdate ord tfFrameNames msg).Avoids F := by
  constructor
  · intro f hf
    obtain ⟨ts, hts, rfl⟩ := List.mem_map.mp (List.mem_toFinset.mp hf)
    exact h ts hts
  · intro ts' hts'
    obtain ⟨ts, hts, rfl⟩ := List.mem_map.mp hts'
    exact h ts hts

theorem updateCollisionObjects_avoids {m : TfUpdate R} (hm : m.Avoids F) (ord : IterOrder Name) (now : ℤ)
    (σ : Data R) : ∀ msg ∈ (updateCollisionObjects lib cfg ord now m.transforms σ).2, ¬F msg.id := by
  intro msg hmsg
  obtain ⟨f, ts, -, hts, rfl, rfl⟩ := mem_updateCollisionObjects hmsg
  exact hm.2 ts hts

/-- What is gone stays gone. -/
theorem quiet_step {s s' : Sys R} {l : Label R} (hq : Quiet F s) (havoids : l.Avoids cfg F)
    (hstep : step lib cfg s l = some s') : Quiet F s' := by
  by_cases hl : l.isTf = false
  · have hown := ownStep_of_step hl havoids hstep
    refine ⟨hown.tf ▸ hq.callback, fun f hf h => hq.held f hf (hown.held f hf h), fun f hf h => ?_⟩
    exact (hown.shown f hf h).elim (hq.held f hf) (hq.shown f hf)
  have hcallback := hq.callback
  cases step_eq_some.mp hstep with
  | tfMessage ord msg htf => exact ⟨tfUpdate_avoids ord _ havoids, hq.held, hq.shown⟩
  | tfErase now m frame frames htf =>
    rw [htf] at hcallback
    refine ⟨⟨hcallback, rfl⟩, fun f hf h => hq.held f hf ?_, hq.shown⟩
    exact h.imp_left fun ht => ((s.data.erase_tracked frame f).mp ht).2
  | tfPublishRemove m msg frames htf =>
    rw [htf] at hcallback
    refine ⟨hcallback.1, hq.held, fun f hf h => hq.shown f hf ?_⟩
    obtain ⟨op, hop, hne⟩ := h
    rw [lastOperation_append] at hop
    split_ifs at hop with hid
    · exact absurd (Option.some.inj hop).symm (by rw [hcallback.2]; exact hne)
    · exact ⟨op, hop, hne⟩
  | tfQueue m htf =>
    rw [htf] at hcallback
    refine ⟨hcallback, fun f hf h => hq.held f hf ?_, hq.shown⟩
    exact h.imp_left fun ht => by simpa [Data.Tracked] using ht
  | tfUpdate ord now m htf =>
    rw [htf] at hcallback
    obtain ⟨poses, times, hdata⟩ := updateCollisionObjects_data lib cfg ord now m.transforms s.data
    refine ⟨updateCollisionObjects_avoids hcallback ord now s.data, fun f hf h => hq.held f hf ?_, hq.shown⟩
    exact h.imp_left fun ht => by simpa [Data.Tracked, hdata] using ht
  | tfPublishMove msg msgs htf =>
    rw [htf] at hcallback
    refine ⟨fun m hm => hcallback m (by simp [hm]), hq.held, fun f hf h => hq.shown f hf ?_⟩
    obtain ⟨op, hop, hne⟩ := h
    have hid : msg.id ≠ f := fun he => hcallback msg (by simp) (he ▸ hf)
    rw [lastOperation_append, if_neg hid] at hop
    exact ⟨op, hop, hne⟩
  | tfReturn htf => exact ⟨trivial, hq.held, hq.shown⟩
  | _ => exact absurd rfl hl

/-- The callback erases no frame of `F` that a call still carries. -/
def Label.ErasesForGood (F : Name → Prop) (s : Sys R) : Label R → Prop
  | .tfErase _ => ∀ m frame frames, s.tf = .removing m (frame :: frames) → F frame → ¬Carried s frame
  | _ => True

/-- The callback works off its frames, and once it has there is nothing left. -/
theorem clearing_step {s s' : Sys R} {l : Label R} (hc : Clearing F s) (havoids : l.Avoids cfg F)
    (herase : l.ErasesForGood F s) (hstep : step lib cfg s l = some s') : Clearing F s' ∨ Quiet F s' := by
  by_cases hl : l.isTf = false
  · have hown := ownStep_of_step hl havoids hstep
    cases hc with
    | removing m frames htf hm hframes =>
      refine .inl (.removing m frames (hown.tf.trans htf) hm fun f hf h => hframes f hf ?_)
      exact h.elim (fun h => .inl (hown.held f hf h)) (hown.shown f hf)
    | publishing m msg frames htf hm hremove hheld hshown =>
      refine .inl (.publishing m msg frames (hown.tf.trans htf) hm hremove
        (fun f hf h => hheld f hf (hown.held f hf h)) fun f hf h => ?_)
      exact (hown.shown f hf h).elim (fun h => .inl (hheld f hf h)) (hshown f hf)
  cases hc with
  | removing m frames htf hm hframes =>
    cases step_eq_some.mp hstep with
    | tfErase now m' frame frames' htf' =>
      obtain ⟨rfl, rfl⟩ := TfPhase.removing.inj (htf.symm.trans htf')
      refine .inl (.publishing m _ frames' rfl hm rfl (fun f hf h => ?_) fun f hf h => ?_)
      · -- the frame just erased is not held: no call carries it
        have hne : f ≠ frame := by
          rintro rfl
          rcases h with ht | hcarried
          · exact ((s.data.erase_tracked f f).mp ht).1 rfl
          · exact herase m f frames' htf hf hcarried
        have hheld : Held s f := h.imp_left fun ht => ((s.data.erase_tracked frame f).mp ht).2
        exact (List.mem_cons.mp (hframes f hf (.inl hheld))).resolve_left hne
      · exact (List.mem_cons.mp (hframes f hf (.inr h))).symm.imp_right Eq.symm
    | tfQueue m' htf' =>
      obtain ⟨rfl, rfl⟩ := TfPhase.removing.inj (htf.symm.trans htf')
      refine .inr ⟨hm, fun f hf h => List.not_mem_nil (hframes f hf (.inl ?_)), fun f hf h =>
        List.not_mem_nil (hframes f hf (.inr h))⟩
      exact h.imp_left fun ht => by simpa [Data.Tracked] using ht
    | tfMessage _ _ htf' => cases htf.symm.trans htf'
    | tfPublishRemove _ _ _ htf' => cases htf.symm.trans htf'
    | tfUpdate _ _ _ htf' => cases htf.symm.trans htf'
    | tfPublishMove _ _ htf' => cases htf.symm.trans htf'
    | tfReturn htf' => cases htf.symm.trans htf'
    | _ => exact absurd rfl hl
  | publishing m msg frames htf hm hremove hheld hshown =>
    cases step_eq_some.mp hstep with
    | tfPublishRemove m' msg' frames' htf' =>
      obtain ⟨rfl, rfl, rfl⟩ := TfPhase.publishRemove.inj (htf.symm.trans htf')
      refine .inl (.removing m frames rfl hm fun f hf h => ?_)
      rcases h with h | ⟨op, hop, hne⟩
      · exact hheld f hf h
      · rw [lastOperation_append] at hop
        split_ifs at hop with hid
        · exact absurd ((Option.some.inj hop).symm.trans hremove) hne
        · exact (hshown f hf ⟨op, hop, hne⟩).resolve_right hid
    | tfErase _ _ _ _ htf' => cases htf.symm.trans htf'
    | tfQueue _ htf' => cases htf.symm.trans htf'
    | tfMessage _ _ htf' => cases htf.symm.trans htf'
    | tfUpdate _ _ _ htf' => cases htf.symm.trans htf'
    | tfPublishMove _ _ htf' => cases htf.symm.trans htf'
    | tfReturn htf' => cases htf.symm.trans htf'
    | _ => exact absurd rfl hl

/-! ### Runs in which the object vanishes -/

/-- The object is in no response and no TF message. -/
def Label.Absent (cfg : Config R) (n : Name) : Label R → Prop
  | .getObjects _ (.ok objects) _ => ∀ object ∈ objects, object.name ≠ n
  | .tfMessage _ msg => ∀ ts ∈ msg, ¬ObjectFrame cfg n (cfg.rosFrame ts.childFrameId)
  | _ => True

/-- The step clears the object away: no other object of a response has the object's
frames, a TF callback starts with every frame of the object that is held or shown in the
message before, and none of them is carried when it is erased. -/
def ClearsObject (cfg : Config R) (n : Name) (s : Sys R) (l : Label R) : Prop :=
  l.ErasesForGood (ObjectFrame cfg n) s ∧
    match l with
    | .getObjects _ (.ok objects) _ => ∀ f, CollisionFrame cfg objects f → ¬ObjectFrame cfg n f
    | .tfMessage _ _ => ∀ f, ObjectFrame cfg n f → Held s f ∨ Shown s f → f ∈ s.data.tfFrameNames
    | _ => True

/-- The frames of the object are not tracked, and the last operation of each that was
ever added is REMOVE. -/
def NoGhost (cfg : Config R) (n : Name) (s : Sys R) : Prop :=
  ∀ f, ObjectFrame cfg n f → ¬s.data.Tracked f ∧
    ((∃ msg ∈ s.published, msg.id = f ∧ msg.operation = .add) → lastOperation s.published f = some .remove)

/-- A run in which the object is absent from `start` on. It ends after the calls made
before `start` have finished, and after one more TF message has been processed. -/
structure VanishingRun (lib : Library R) (cfg : Config R) (n : Name) where
  start : Sys R
  reachable : Reachable (step lib cfg) Sys.init start
  before : List (Label R)
  atMessage : Sys R
  run_before : exec (step lib cfg) start before = some atMessage
  ord : IterOrder Name
  msg : List (TransformStamped R)
  processing : List (Label R)
  processed : Sys R
  run_processing : exec (step lib cfg) atMessage (.tfMessage ord msg :: processing) = some processed
  processed_idle : processed.tf = .idle
  rest : List (Label R)
  final : Sys R
  run_rest : exec (step lib cfg) processed rest = some final
  absent : ∀ l ∈ before ++ .tfMessage ord msg :: processing ++ rest, l.Absent cfg n
  calls_finished : ∀ i < start.calls.length, ∀ call, final.calls[i]? = some call → call.finished = true

omit [Field R] [LinearOrder R] in
theorem ClearsObject.avoids {n : Name} {s : Sys R} {l : Label R} (h : ClearsObject cfg n s l)
    (habsent : l.Absent cfg n) : l.Avoids cfg (ObjectFrame cfg n) := by
  cases l with
  | getObjects i response getGltf =>
    cases response with
    | error e => trivial
    | ok objects => exact h.2
  | tfMessage ord msg => exact habsent
  | _ => trivial

omit [Field R] [LinearOrder R] in
theorem Quiet.noGhost {n : Name} {s : Sys R} (h : Quiet (ObjectFrame cfg n) s) : NoGhost cfg n s := by
  intro f hf
  refine ⟨fun ht => h.held f hf (.inl ht), fun ⟨msg, hmsg, hid, _⟩ => ?_⟩
  obtain ⟨op, hop⟩ := exists_lastOperation hmsg
  rw [hid] at hop
  by_cases hremove : op = .remove
  · rw [hop, hremove]
  · exact absurd ⟨op, hop, hremove⟩ (h.shown f hf)

/-- In every run in which the object vanishes and every step from the TF message on
clears it away, nothing of it is left. -/
theorem vanished_object_cleared {n : Name} (r : VanishingRun lib cfg n)
    (hclears : Along (step lib cfg) (ClearsObject cfg n) r.atMessage
      (.tfMessage r.ord r.msg :: r.processing ++ r.rest)) : NoGhost cfg n r.final := by
  have habsent : ∀ l ∈ .tfMessage r.ord r.msg :: r.processing ++ r.rest, l.Absent cfg n := fun l hl =>
    r.absent l (by rw [List.append_assoc]; exact List.mem_append_right _ hl)
  obtain ⟨hprocessing, hrest⟩ := (hclears.and (Along.of_labels fun l hl _ => habsent l hl)).append
    r.run_processing
  obtain ⟨s, hmessage, hrun⟩ := (exec_cons_eq_some _).mp r.run_processing
  -- the callback starts with all that is to be cleared
  have hstart : Clearing (ObjectFrame cfg n) s := by
    cases step_eq_some.mp hmessage with
    | tfMessage _ _ htf =>
      have havoids := hprocessing.1.1.avoids hprocessing.1.2
      have hm := tfUpdate_avoids r.ord r.atMessage.data.tfFrameNames havoids
      refine .removing _ _ rfl hm fun f hf h => ?_
      rw [IterOrder.mem_visit, Finset.mem_sdiff]
      exact ⟨hprocessing.1.1.2 f hf h, fun hnew => hm.1 f hnew hf⟩
  have hprocessed : Clearing (ObjectFrame cfg n) r.processed ∨ Quiet (ObjectFrame cfg n) r.processed :=
    exec_invariant (I := fun s => Clearing (ObjectFrame cfg n) s ∨ Quiet (ObjectFrame cfg n) s)
      (fun _ _ _ hi hp hs => hi.elim (fun h => clearing_step h (hp.1.avoids hp.2) hp.1.1 hs)
        fun h => .inr (quiet_step h (hp.1.avoids hp.2) hs)) (hprocessing.2 s hmessage) hrun (.inl hstart)
  have hquiet : Quiet (ObjectFrame cfg n) r.processed := by
    refine hprocessed.resolve_left fun h => ?_
    cases h with
    | removing _ _ htf => cases htf.symm.trans r.processed_idle
    | publishing _ _ _ htf => cases htf.symm.trans r.processed_idle
  have hfinal : Quiet (ObjectFrame cfg n) r.final :=
    exec_invariant (fun _ _ _ hi hp hs => quiet_step hi (hp.1.avoids hp.2) hs) hrest r.run_rest hquiet
  exact hfinal.noGhost

end Step

/-! ### A box that vanishes -/

namespace Sample

/-- The frame of the box is in a TF message, and a planning request fetches the box. -/
def boxFetched : List (Label ℚ) :=
  [.tfMessage (.increasing Name) [transform "box/whole".toList], .tfQueue, .tfUpdate (.increasing Name) 0,
    .tfReturn, .planning none,
    .getObjects 0 (.ok [object "box".toList (boxGeometry 1)]) fun _ _ => .error ⟨.unavailable, []⟩]

/-- The request inserts the box and publishes its ADD. -/
def boxPublished : List (Label ℚ) := [.fetchSection 0, .snapshot 0 (.increasing Name) 0, .publish 0]

/-- What follows a TF message without the box after one with it. -/
def boxRemoved : List (Label ℚ) :=
  [.tfErase 0, .tfPublishRemove, .tfQueue, .tfUpdate (.increasing Name) 0, .tfReturn]

theorem exec_idle {lib : Library ℚ} {cfg : Config ℚ} {s t : Sys ℚ} (ls : List (Label ℚ))
    (h : exec (step lib cfg) s (ls ++ [.tfReturn]) = some t) : t.tf = .idle := by
  obtain ⟨u, -, hu⟩ := (exec_append_eq_some _).mp h
  obtain ⟨v, hv, hnil⟩ := (exec_cons_eq_some _).mp hu
  obtain rfl : v = t := by simpa using hnil
  cases step_eq_some.mp hv with
  | tfReturn => rfl

end Sample

/-- The callback removes the box between the response with the box and its insertion. -/
theorem ghost_left : ∃ r : VanishingRun Sample.library Config.default "box".toList,
    ¬NoGhost Config.default "box".toList r.final := by
  obtain ⟨final, hrun, hend⟩ : ∃ t : Sys ℚ, exec (step Sample.library Config.default) Sys.init
      (Sample.boxFetched ++ (.tfMessage (.increasing Name) [] :: Sample.boxRemoved ++ Sample.boxPublished)) =
        some t ∧ (decide (t.data.Tracked "box/whole".toList) && t.calls.all Call.finished) = true :=
    (Option.any_eq_true _ _).mp (by decide +kernel)
  obtain ⟨htracked, hfinished⟩ := Bool.and_eq_true_iff.mp hend
  obtain ⟨start, hstart, hfrom⟩ := (exec_append_eq_some _).mp hrun
  obtain ⟨processed, hprocessing, hrest⟩ := (exec_append_eq_some _).mp hfrom
  refine ⟨{
    start, processed, final
    reachable := ⟨_, hstart⟩
    before := []
    atMessage := start
    run_before := rfl
    ord := .increasing Name
    msg := []
    processing := Sample.boxRemoved
    run_processing := hprocessing
    processed_idle :=
      Sample.exec_idle (.tfMessage (.increasing Name) [] :: Sample.boxRemoved.dropLast) hprocessing
    rest := Sample.boxPublished
    run_rest := hrest
    absent := by simp [Sample.boxRemoved, Sample.boxPublished, Label.Absent]
    calls_finished := fun i _ call hcall =>
      List.all_eq_true.mp hfinished call (List.mem_of_getElem? hcall) }, ?_⟩
  intro h
  exact (h "box/whole".toList ⟨"whole".toList, by decide⟩).1 (of_decide_eq_true htracked)

theorem not_carried_of_finished {s : Sys R} (h : s.calls.all Call.finished = true) (f : Name) :
    ¬Carried s f := by
  rintro ⟨⟨caller, objectNames, phase⟩, hcall, hf⟩
  have hfin := List.all_eq_true.mp h _ hcall
  cases phase with
  | requesting => exact hf
  | fetching todo => simp [Call.finished] at hfin
  | publishing msgs =>
    cases msgs with
    | nil => exact absurd hf (by simp [CallPhase.Carries])
    | cons msg msgs => simp [Call.finished] at hfin

/-- The callback removes the box after the request has published it. -/
theorem vanished_object_cleared_box : ∃ r : VanishingRun Sample.library Config.default "box".toList,
    r.start.data.Tracked "box/whole".toList ∧ NoGhost Config.default "box".toList r.final := by
  let frame : Name := "box/whole".toList
  obtain ⟨start, hstart, hbox⟩ : ∃ s : Sys ℚ, exec (step Sample.library Config.default) Sys.init
      (Sample.boxFetched ++ Sample.boxPublished) = some s ∧
      (decide (s.data.collisionTfFrameToMeshIds.keys = {frame}) && decide (s.data.tfFrameNames = {frame}) &&
        (s.published.all fun msg => decide (msg.id = frame)) && s.calls.all Call.finished) = true :=
    (Option.any_eq_true _ _).mp (by decide +kernel)
  simp only [Bool.and_eq_true, decide_eq_true_eq] at hbox
  obtain ⟨⟨⟨hkeys, hnames⟩, hids⟩, hfinished⟩ := hbox
  obtain ⟨final, hrun, hend⟩ : ∃ t : Sys ℚ, exec (step Sample.library Config.default) Sys.init
      ((Sample.boxFetched ++ Sample.boxPublished) ++ .tfMessage (.increasing Name) [] :: Sample.boxRemoved) =
        some t ∧ t.calls.all Call.finished = true :=
    (Option.any_eq_true _ _).mp (by decide +kernel)
  have hfinal : exec (step Sample.library Config.default) start
      (.tfMessage (.increasing Name) [] :: Sample.boxRemoved) = some final := by
    rwa [exec_append, hstart] at hrun
  let r : VanishingRun Sample.library Config.default "box".toList := {
    start, final
    processed := final
    reachable := ⟨_, hstart⟩
    before := []
    atMessage := start
    run_before := rfl
    ord := .increasing Name
    msg := []
    processing := Sample.boxRemoved
    run_processing := hfinal
    processed_idle := Sample.exec_idle (.tfMessage (.increasing Name) [] :: Sample.boxRemoved.dropLast) hfinal
    rest := []
    run_rest := rfl
    absent := by simp [Sample.boxRemoved, Label.Absent]
    calls_finished := fun i _ call hcall => List.all_eq_true.mp hend call (List.mem_of_getElem? hcall) }
  have hmessage : ∀ f, Held start f ∨ Shown start f → f ∈ start.data.tfFrameNames := by
    rintro f ((htracked | hcarried) | ⟨op, hop, -⟩)
    · rwa [Data.tracked_iff_mem_keys, hkeys, ← hnames] at htracked
    · exact absurd hcarried (not_carried_of_finished hfinished f)
    · obtain ⟨msg, hmsg, -⟩ := Option.map_eq_some_iff.mp hop
      obtain ⟨hmem, hid⟩ := List.mem_filter.mp (List.mem_of_getLast? hmsg)
      have hframe : msg.id = frame := of_decide_eq_true (List.all_eq_true.mp hids msg hmem)
      rw [hnames, Finset.mem_singleton, ← hframe, of_decide_eq_true hid]
  refine ⟨r, ?_, vanished_object_cleared r ⟨⟨trivial, fun f _ h => hmessage f h⟩, fun s hs => ?_⟩⟩
  · rw [Data.tracked_iff_mem_keys, hkeys]
    exact Finset.mem_singleton_self frame
  · have hcalls : s.calls.all Call.finished = true := by
      cases step_eq_some.mp hs with
      | tfMessage => exact hfinished
    exact ⟨⟨fun m f fs _ _ => not_carried_of_finished hcalls f, trivial⟩, fun _ _ => ⟨⟨trivial, trivial⟩,
      fun _ _ => ⟨⟨trivial, trivial⟩, fun _ _ => ⟨⟨trivial, trivial⟩, fun _ _ => ⟨⟨trivial, trivial⟩,
        fun _ _ => trivial⟩⟩⟩⟩⟩

end MoveitPlanning.Scene
