import MoveitPlanning.Scene.Threads

/-! What the REMOVEs of the TF callback delete. MoveIt takes a REMOVE with an empty id as
one of every object. The callback publishes a REMOVE for each frame that has vanished,
and a frame can have the empty name: a child frame without a name, or one that is a
prefix to be stripped, when there is no prefix to put before it. A fetch skips objects
without a name; the callback has no such test. Every other REMOVE deletes the object of
the frame that vanished, and no other. -/

namespace MoveitPlanning.Scene

open Foundation

variable {R : Type*}

/-- The objects of MoveIt's scene, by id. -/
abbrev MoveItScene (R : Type*) := HashMap Name (CollisionObject R)

/-- MoveIt processes a REMOVE. -/
def MoveItScene.remove (scene : MoveItScene R) (id : Name) : MoveItScene R :=
  if id = [] then ∅ else scene.erase id

/-- Only the object of the frame can be gone. -/
def DeletesAtMost (frame id : Name) : Prop :=
  ∀ scene : MoveItScene R, ∀ other, other ≠ frame → (scene.remove id).lookup other = scene.lookup other

theorem deletesAtMost_self {frame : Name} (hne : frame ≠ []) : DeletesAtMost (R := R) frame frame := by
  intro scene other hother
  rw [MoveItScene.remove, if_neg hne, Finmap.lookup_erase_ne hother]

/-- A REMOVE with an empty id deletes whatever there is. -/
theorem not_deletesAtMost_empty [Zero R] [One R] (frame : Name) : ¬DeletesAtMost (R := R) frame [] := by
  intro h
  have hne : 'x' :: frame ≠ frame := List.cons_ne_self _ _
  have hkept := h (Finmap.singleton ('x' :: frame) (removeMessage 0 frame)) _ hne
  rw [MoveItScene.remove, if_pos rfl, Finmap.lookup_singleton_eq, Finmap.lookup_empty] at hkept
  cases hkept

/-! ### The frames that are to be removed -/

/-- The callback has still to publish the REMOVEs of these frames. -/
def TfPhase.removals : TfPhase R → Option (TfUpdate R × List Name)
  | .removing m frames => some (m, frames)
  | .publishRemove m msg frames => some (m, msg.id :: frames)
  | _ => none

/-- The frames to be removed were in the TF message before, and are not in this one. -/
def Sys.RemovesVanished (s : Sys R) : Prop :=
  ∀ m frames, s.tf.removals = some (m, frames) → ∀ f ∈ frames, f ∈ s.data.tfFrameNames ∧ f ∉ m.newTfFrameNames

/-- The empty name is among them. -/
def Sys.RemovesEmpty (s : Sys R) : Prop := ∃ m frames, s.tf.removals = some (m, frames) ∧ [] ∈ frames

/-- What the callback publishes deletes at most the object of a frame that vanished. -/
def RemovesPrecisely (s : Sys R) : Label R → Prop
  | .tfPublishRemove => ∀ m msg frames, s.tf = .publishRemove m msg frames →
    ∃ f, f ∈ s.data.tfFrameNames ∧ f ∉ m.newTfFrameNames ∧ DeletesAtMost (R := R) f msg.id
  | _ => True

/-- No TF message is without a frame of the empty name when the one before it had one. -/
def EmptyNameKept (cfg : Config R) (s : Sys R) : Label R → Prop
  | .tfMessage _ msg => [] ∈ s.data.tfFrameNames → ∃ ts ∈ msg, cfg.rosFrame ts.childFrameId = []
  | _ => True

instance (cfg : Config R) (s : Sys R) : (l : Label R) → Decidable (EmptyNameKept cfg s l)
  | .tfMessage _ msg => inferInstanceAs (Decidable
    ([] ∈ s.data.tfFrameNames → ∃ ts ∈ msg, cfg.rosFrame ts.childFrameId = []))
  | .syncService | .planning _ | .takeRequest | .getObjects _ _ _ | .fetchSection _ | .snapshot _ _ _ | .publish _
  | .tfErase _ | .tfPublishRemove | .tfQueue | .tfUpdate _ _ | .tfPublishMove | .tfReturn | .shutdown =>
    inferInstanceAs (Decidable True)

section Step
variable [Field R] [LinearOrder R] {lib : Library R} {cfg : Config R}

/-- What a step makes of the frames to be removed. -/
inductive RemovalStep (cfg : Config R) (s s' : Sys R) : Label R → Prop
  /-- a message comes, and the frames that have vanished are to be removed -/
  | message {ord msg m frames} (hbefore : s.tf.removals = none) (hm : m = cfg.tfUpdate ord s.data.tfFrameNames msg)
      (hafter : s'.tf.removals = some (m, frames))
      (hframes : ∀ f, f ∈ frames ↔ f ∈ s.data.tfFrameNames ∧ f ∉ m.newTfFrameNames)
      (hdata : s'.data.tfFrameNames = s.data.tfFrameNames) : RemovalStep cfg s s' (.tfMessage ord msg)
  /-- the first REMOVE is published -/
  | publish {m msg frames} (htf : s.tf = .publishRemove m msg frames) (hafter : s'.tf.removals = some (m, frames))
      (hdata : s'.data.tfFrameNames = s.data.tfFrameNames) : RemovalStep cfg s s' .tfPublishRemove
  /-- there are none left -/
  | done {m} (hbefore : s.tf.removals = some (m, [])) (hafter : s'.tf.removals = none) : RemovalStep cfg s s' .tfQueue
  | other {l} (hafter : s'.tf.removals = s.tf.removals) (hdata : s'.data.tfFrameNames = s.data.tfFrameNames)
      (hmessage : ∀ ord msg, l ≠ .tfMessage ord msg) (hpublish : l ≠ .tfPublishRemove) : RemovalStep cfg s s' l

theorem removalStep {s s' : Sys R} {l : Label R} (hstep : step lib cfg s l = some s') : RemovalStep cfg s s' l := by
  cases step_eq_some.mp hstep with
  | tfMessage ord msg htf =>
    refine .message (by rw [htf]; rfl) rfl rfl (fun f => ?_) rfl
    rw [IterOrder.mem_visit, Finset.mem_sdiff]
  | tfErase now m frame frames htf => exact .other (by rw [htf]; rfl) rfl nofun nofun
  | tfPublishRemove m msg frames htf => exact .publish htf rfl rfl
  | tfQueue m htf => exact .done (by rw [htf]; rfl) rfl
  | tfUpdate ord now m htf =>
    refine .other (by rw [htf]; rfl) ?_ nofun nofun
    obtain ⟨poses, times, hdata⟩ := updateCollisionObjects_data lib cfg ord now m.transforms s.data
    rw [hdata]
  | tfPublishMove msg msgs htf => exact .other (by rw [htf]; rfl) rfl nofun nofun
  | tfReturn htf => exact .other (by rw [htf]; rfl) rfl nofun nofun
  | fetchSection i call sec todo hcall hphase => exact .other rfl (sec.run_request s.data).2.2 nofun nofun
  | _ => exact .other rfl rfl nofun nofun

theorem removesVanished_step {s s' : Sys R} {l : Label R} (hi : s.RemovesVanished)
    (hstep : step lib cfg s l = some s') : s'.RemovesVanished := by
  intro m frames hremovals f hf
  cases removalStep hstep with
  | message hbefore hm hafter hframes hdata =>
    obtain ⟨rfl, rfl⟩ := Prod.mk.inj (Option.some.inj (hafter.symm.trans hremovals))
    rw [hdata]
    exact (hframes f).mp hf
  | publish htf hafter hdata =>
    obtain ⟨rfl, rfl⟩ := Prod.mk.inj (Option.some.inj (hafter.symm.trans hremovals))
    rw [hdata]
    exact hi _ _ (by rw [htf]; rfl) f (List.mem_cons_of_mem _ hf)
  | done hbefore hafter => cases hafter.symm.trans hremovals
  | other hafter hdata hmessage hpublish =>
    rw [hdata]
    exact hi m frames (hafter.symm.trans hremovals) f hf

/-- The empty name comes to be removed only with a message that drops it. -/
theorem not_removesEmpty_step {s s' : Sys R} {l : Label R} (hi : ¬s.RemovesEmpty) (hkept : EmptyNameKept cfg s l)
    (hstep : step lib cfg s l = some s') : ¬s'.RemovesEmpty := by
  rintro ⟨m, frames, hremovals, hmem⟩
  cases removalStep hstep with
  | message hbefore hm hafter hframes hdata =>
    obtain ⟨rfl, rfl⟩ := Prod.mk.inj (Option.some.inj (hafter.symm.trans hremovals))
    obtain ⟨hold, hnew⟩ := (hframes []).mp hmem
    obtain ⟨ts, hts, hempty⟩ := hkept hold
    rw [hm, Config.tfUpdate, List.mem_toFinset] at hnew
    exact hnew (List.mem_map.mpr ⟨ts, hts, hempty⟩)
  | publish htf hafter hdata =>
    obtain ⟨rfl, rfl⟩ := Prod.mk.inj (Option.some.inj (hafter.symm.trans hremovals))
    exact hi ⟨_, _, by rw [htf]; rfl, List.mem_cons_of_mem _ hmem⟩
  | done hbefore hafter => cases hafter.symm.trans hremovals
  | other hafter hdata hmessage hpublish => exact hi ⟨m, frames, hafter.symm.trans hremovals, hmem⟩

omit [Field R] [LinearOrder R] in
theorem removesPrecisely_of_named {s : Sys R} (hi : s.RemovesVanished) (hnamed : ¬s.RemovesEmpty) (l : Label R) :
    RemovesPrecisely s l := by
  cases l with
  | tfPublishRemove =>
    intro m msg frames htf
    have hremovals : s.tf.removals = some (m, msg.id :: frames) := by rw [htf]; rfl
    obtain ⟨hold, hnew⟩ := hi m _ hremovals msg.id (by simp)
    refine ⟨msg.id, hold, hnew, deletesAtMost_self fun hempty => hnamed ?_⟩
    exact ⟨m, _, hremovals, by simp [hempty]⟩
  | _ => trivial

/-- While the empty name is to be removed, the callback does not get done without it. -/
theorem removesEmpty_or_not_precise {s s' : Sys R} {l : Label R} (hi : s.RemovesEmpty)
    (hprecise : RemovesPrecisely s l) (hstep : step lib cfg s l = some s') : s'.RemovesEmpty := by
  obtain ⟨m, frames, hremovals, hmem⟩ := hi
  cases removalStep hstep with
  | message hbefore hm hafter hframes hdata => cases hbefore.symm.trans hremovals
  | @publish m' msg frames' htf hafter hdata =>
    rw [htf] at hremovals
    obtain ⟨rfl, rfl⟩ := Prod.mk.inj (Option.some.inj hremovals)
    rcases List.mem_cons.mp hmem with hid | hmem
    · obtain ⟨f, -, -, hdeletes⟩ := hprecise _ _ _ htf
      exact absurd (hid ▸ hdeletes) (not_deletesAtMost_empty f)
    · exact ⟨_, _, hafter, hmem⟩
  | done hbefore hafter =>
    obtain ⟨-, rfl⟩ := Prod.mk.inj (Option.some.inj (hbefore.symm.trans hremovals))
    cases hmem
  | other hafter hdata hmessage hpublish => exact ⟨m, frames, hafter.trans hremovals, hmem⟩

theorem removesEmpty_of_dropped {s s' : Sys R} {l : Label R} (hdropped : ¬EmptyNameKept cfg s l)
    (hstep : step lib cfg s l = some s') : s'.RemovesEmpty := by
  cases removalStep hstep with
  | @message ord msg m frames hbefore hm hafter hframes hdata =>
    simp only [EmptyNameKept, not_forall, not_exists, not_and] at hdropped
    obtain ⟨hold, hnew⟩ := hdropped
    refine ⟨m, frames, hafter, (hframes []).mpr ⟨hold, ?_⟩⟩
    rw [hm, Config.tfUpdate, List.mem_toFinset]
    simpa using hnew
  | publish => exact absurd trivial hdropped
  | done => exact absurd trivial hdropped
  | other hafter hdata hmessage hpublish =>
    cases l with
    | tfMessage ord msg => exact absurd rfl (hmessage ord msg)
    | _ => exact absurd trivial hdropped

omit [Field R] [LinearOrder R] in
theorem removesVanished_init : (Sys.init : Sys R).RemovesVanished := fun m frames h => by cases h

omit [Field R] [LinearOrder R] in
theorem not_removesEmpty_init : ¬(Sys.init : Sys R).RemovesEmpty := fun ⟨_, _, h, _⟩ => by cases h

/-- A run with precise REMOVEs that leaves the callback idle has not had the empty name
to remove. -/
theorem not_removesEmpty_of_precise {s t : Sys R} {ls : List (Label R)} (hrun : exec (step lib cfg) s ls = some t)
    (hidle : t.tf = .idle) (hprecise : Along (step lib cfg) RemovesPrecisely s ls) : ¬s.RemovesEmpty := by
  intro hempty
  have hend : t.RemovesEmpty :=
    exec_invariant (fun _ _ _ hi hp hs => removesEmpty_or_not_precise hi hp hs) hprecise hrun hempty
  obtain ⟨m, frames, hremovals, -⟩ := hend
  rw [hidle] at hremovals
  cases hremovals

theorem emptyNameKept_of_precise {s t : Sys R} {ls : List (Label R)} (hrun : exec (step lib cfg) s ls = some t)
    (hidle : t.tf = .idle) (hprecise : Along (step lib cfg) RemovesPrecisely s ls) :
    Along (step lib cfg) (EmptyNameKept cfg) s ls := by
  induction ls generalizing s with
  | nil => trivial
  | cons l ls ih =>
    obtain ⟨s', hs, hrest⟩ := (exec_cons_eq_some _).mp hrun
    have hafter := hprecise.2 s' hs
    refine ⟨?_, fun u hu => ?_⟩
    · by_contra hdropped
      exact not_removesEmpty_of_precise hrest hidle hafter (removesEmpty_of_dropped hdropped hs)
    · obtain rfl : s' = u := Option.some.inj (hs.symm.trans hu)
      exact ih hrest hafter

/-- In every run whose TF messages do not drop the empty name, each REMOVE deletes at most
the object of a frame that vanished; and where the callback has returned, in no other. -/
theorem removes_precise (lib : Library R) (cfg : Config R) (ls : List (Label R)) :
    (Along (step lib cfg) (EmptyNameKept cfg) Sys.init ls → Along (step lib cfg) RemovesPrecisely Sys.init ls) ∧
      ∀ t, exec (step lib cfg) Sys.init ls = some t → t.tf = .idle →
        Along (step lib cfg) RemovesPrecisely Sys.init ls → Along (step lib cfg) (EmptyNameKept cfg) Sys.init ls := by
  let I (s : Sys R) : Prop := s.RemovesVanished ∧ ¬s.RemovesEmpty
  refine ⟨fun hkept => ?_, fun t hrun hidle hprecise => emptyNameKept_of_precise hrun hidle hprecise⟩
  exact Along.imp (I := I) (fun s l s' hi hp hs => ⟨removesVanished_step hi.1 hs, not_removesEmpty_step hi.2 hp hs⟩)
    (fun s l hi _ => removesPrecisely_of_named hi.1 hi.2 l) hkept ⟨removesVanished_init, not_removesEmpty_init⟩

end Step

/-! ### The frame that is a prefix -/

namespace Sample

/-- The whole callback for a message whose frames before have vanished. -/
def tfCallback (msg : List (TransformStamped ℚ)) (vanished : ℕ) : List (Label ℚ) :=
  [.tfMessage (.increasing Name) msg] ++ (List.replicate vanished [.tfErase 0, .tfPublishRemove]).flatten ++
    [.tfQueue, .tfUpdate (.increasing Name) 0, .tfReturn]

/-- The callback has returned. -/
def returned (s : Sys ℚ) : Bool :=
  match s.tf with
  | .idle => true
  | _ => false

theorem idle_of_returned {s : Sys ℚ} (h : returned s = true) : s.tf = .idle := by
  rw [returned] at h
  split at h
  · assumption
  · cases h

def stripCell : Config ℚ := { Config.default with stripTfPrefixes := ["cell".toList] }

end Sample

/-- The frame of the cell itself is stripped to nothing. When it vanishes, every object is
removed. -/
theorem cell_vanishes : ∃ (cfg : Config ℚ) (ls : List (Label ℚ)),
    (exec (step Sample.library cfg) Sys.init ls).isSome ∧
      ¬Along (step Sample.library cfg) RemovesPrecisely Sys.init ls := by
  let ls := Sample.tfCallback [Sample.transform "cell".toList] 0 ++ Sample.tfCallback [] 1
  obtain ⟨t, hrun, hidle⟩ : ∃ t, exec (step Sample.library Sample.stripCell) Sys.init ls = some t ∧
      Sample.returned t = true := (Option.any_eq_true _ _).mp (by decide +kernel)
  have hdropped : ¬Along (step Sample.library Sample.stripCell) (EmptyNameKept Sample.stripCell) Sys.init ls := by
    decide +kernel
  refine ⟨Sample.stripCell, ls, by rw [hrun]; rfl, fun hprecise => hdropped ?_⟩
  exact emptyNameKept_of_precise hrun (Sample.idle_of_returned hidle) hprecise

/-- A box in the cell vanishes. -/
theorem removes_precise_box :
    let ls := Sample.tfCallback [Sample.transform "cell/box/whole".toList] 0 ++ Sample.tfCallback [] 1
    (exec (step Sample.library Sample.stripCell) Sys.init ls).isSome ∧
      Along (step Sample.library Sample.stripCell) RemovesPrecisely Sys.init ls :=
  ⟨by decide +kernel, (removes_precise Sample.library Sample.stripCell _).1 (by decide +kernel)⟩

end MoveitPlanning.Scene
