import MoveitPlanning.Foundation.RotationAngle
import MoveitPlanning.Scene.Sections
import Mathlib.Analysis.InnerProductSpace.PiL2

/-! The deadband, over the real numbers. A frame that is held back is near the pose of its
last MOVE, since that pose is what the pass compares with; small moves do not add up. The
parent frame is not compared, so the MOVE of a frame that has changed its parent and
kept its pose is held back as well, and this is the only way in which what MoveIt was
told last can be wrong about a frame that is held back. -/

namespace MoveitPlanning.Scene

open Foundation Quaternion

/-- The library functions are those of the real numbers. -/
structure Library.Exact (lib : Library ℝ) : Prop where
  sqrt (x : ℝ) : lib.sqrt x = Real.sqrt x
  acos (x : ℝ) : lib.acos x = Real.arccos x

/-! ### Distances -/

def Vec3.point (v : Vec3 ℝ) : EuclideanSpace ℝ (Fin 3) := WithLp.toLp _ ![v.x, v.y, v.z]

def Quat.rotation (q : Quat ℝ) : ℍ[ℝ] := ⟨q.w, q.x, q.y, q.z⟩

section rotation
variable (q : Quat ℝ)

@[simp] theorem Quat.rotation_re : q.rotation.re = q.w := rfl

@[simp] theorem Quat.rotation_imI : q.rotation.imI = q.x := rfl

@[simp] theorem Quat.rotation_imJ : q.rotation.imJ = q.y := rfl

@[simp] theorem Quat.rotation_imK : q.rotation.imK = q.z := rfl

end rotation

def Quat.IsUnit (q : Quat ℝ) : Prop := normSq q.rotation = 1

/-- The pose is less than both deltas away. -/
structure Pose.Near (cfg : Config ℝ) (old new : Pose ℝ) : Prop where
  position : dist old.position.point new.position.point < cfg.collisionObjectsMinPositionDelta
  rotation : rotationAngle old.orientation.rotation new.orientation.rotation <
    cfg.collisionObjectsMinRotationDelta

section Distance
variable {lib : Library ℝ} {cfg : Config ℝ} (hexact : lib.Exact) (old new : Pose ℝ)
include hexact

theorem posDelta_eq : posDelta lib old new = dist old.position.point new.position.point := by
  rw [posDelta, hexact.sqrt, EuclideanSpace.dist_eq, Fin.sum_univ_three]
  simp only [Vec3.point, Real.dist_eq, sq_abs]
  congr 1
  simp
  ring

theorem rotDelta_eq (hold : old.orientation.IsUnit) (hnew : new.orientation.IsUnit) :
    rotDelta lib old new = rotationAngle old.orientation.rotation new.orientation.rotation := by
  have hdot : (star old.orientation.rotation * new.orientation.rotation).re =
      old.orientation.w * new.orientation.w + old.orientation.x * new.orientation.x +
        old.orientation.y * new.orientation.y + old.orientation.z * new.orientation.z := by
    simp
  have hle := abs_re_le_one (normSq_star_mul hold hnew)
  rw [rotationAngle_eq hold hnew, rotDelta, hexact.acos, hdot.symm, min_eq_right hle, Nat.cast_ofNat]

/-- The deadband compares the pose with the one kept for the frame. -/
theorem withinDeadband_iff {σ : Data ℝ} {f : Name} {old new : Pose ℝ}
    (hlast : σ.lastPublishedCollisionPose.lookup f = some old) (hold : old.orientation.IsUnit)
    (hnew : new.orientation.IsUnit) : withinDeadband lib cfg σ f new = true ↔ old.Near cfg new := by
  rw [withinDeadband, hlast, decide_eq_true_iff, posDelta_eq hexact, rotDelta_eq hexact old new hold hnew]
  exact ⟨fun h => ⟨h.1, h.2⟩, fun h => ⟨h.position, h.rotation⟩⟩

end Distance

/-! ### What a call holds back -/

section Call
variable (lib : Library ℝ) (cfg : Config ℝ)

/-- The rate limit holds the frame back: its last MOVE is less than a period ago. -/
def History.HeldBack (h : History ℝ) (now : ℤ) (f : Name) : Prop :=
  ∃ msg, lastMove f h.events = some msg ∧ withinPeriod lib cfg (now - msg.stamp) = true

/-- The call has the transform `ts` for the frame and publishes no MOVE of it, and it is
not the rate limit that holds the frame back. -/
structure Suppressed (h : History ℝ) (ord : IterOrder Name) (now : ℤ) (transforms : List (TransformStamped ℝ))
    (f : Name) (ts : TransformStamped ℝ) : Prop where
  tracked : h.data.Tracked f
  first : firstTransform transforms f = some ts
  silent : ∀ msg ∈ (updateCollisionObjects lib cfg ord now transforms h.data).2, msg.id ≠ f
  free : ¬h.HeldBack lib cfg now f

/-- MoveIt was told last where every suppressed frame is, up to the deltas, and under
which parent. -/
def SuppressionSound (h : History ℝ) : Section ℝ → Prop
  | .update ord now transforms => ∀ f ts, Suppressed lib cfg h ord now transforms f ts →
    ∃ msg, lastMove f h.events = some msg ∧ msg.frameId = ts.frameId ∧ msg.pose.Near cfg ts.pose
  | _ => True

/-- No frame comes under another parent near the pose of its last MOVE, unless the rate
limit holds it back. -/
def ParentKept (h : History ℝ) : Section ℝ → Prop
  | .update _ now transforms => ∀ f ts msg, h.data.Tracked f → firstTransform transforms f = some ts →
    lastMove f h.events = some msg → ¬h.HeldBack lib cfg now f → msg.pose.Near cfg ts.pose →
    msg.frameId = ts.frameId
  | _ => True

def Section.UnitRotations : Section ℝ → Prop
  | .update _ _ transforms => ∀ ts ∈ transforms, ts.rotation.IsUnit
  | _ => True

def History.UnitMoves (h : History ℝ) : Prop :=
  ∀ msg, SceneEvent.moved msg ∈ h.events → msg.pose.orientation.IsUnit

variable {lib cfg} {h h' : History ℝ}

theorem rateLimited_iff (hi : h.Referenced) {now : ℤ} {f : Name} :
    rateLimited lib cfg now h.data f = true ↔ h.HeldBack lib cfg now f := by
  rw [rateLimited, hi.time, History.HeldBack]
  cases hlast : lastMove f h.events with
  | none => simp
  | some msg => simp

theorem unitMoves_step (hu : h.UnitMoves) {sec : Section ℝ} (hunit : sec.UnitRotations)
    (hstep : sectionStep lib cfg h sec = some h') : h'.UnitMoves := by
  obtain rfl := sectionStep_eq_some hstep
  intro msg hmsg
  rcases List.mem_append.mp hmsg with hmsg | hmsg
  · exact hu msg hmsg
  · cases sec with
    | update ord now transforms =>
      simp only [Section.run, updateCollisionObjects_eq, List.mem_map] at hmsg
      obtain ⟨m, hm, he⟩ := hmsg
      obtain rfl := SceneEvent.moved.inj he
      obtain ⟨ts, hts, -, -, hmove⟩ := frameMove_eq_some (mem_dueMoves.mp hm).2
      rw [show m.pose.orientation = ts.rotation by rw [hmove]; rfl]
      exact hunit ts (List.mem_of_find?_eq_some hts)
    | _ => simp [Section.run] at hmsg

theorem unitMoves_of_run {secs : List (Section ℝ)} (hunit : ∀ sec ∈ secs, sec.UnitRotations)
    (hrun : exec (sectionStep lib cfg) .init secs = some h) : h.UnitMoves :=
  exec_invariant (P := fun _ sec => sec.UnitRotations) (fun _ _ _ hu hsec hs => unitMoves_step hu hsec hs)
    (Along.of_labels fun sec hsec _ => hunit sec hsec) hrun fun msg hmsg => by cases hmsg

section Invariant
variable (hexact : lib.Exact) (hi : h.Referenced) (hu : h.UnitMoves) {ord : IterOrder Name} {now : ℤ}
  {transforms : List (TransformStamped ℝ)} {f : Name} {ts : TransformStamped ℝ}
include hexact hi hu

theorem near_iff {msg : CollisionObject ℝ} (hlast : lastMove f h.events = some msg)
    (hunit : ts.rotation.IsUnit) : withinDeadband lib cfg h.data f ts.pose = true ↔ msg.pose.Near cfg ts.pose :=
  withinDeadband_iff hexact (by rw [hi.pose, hlast]; rfl) (hu msg (lastMove_mem hlast)) hunit

/-- Small moves do not add up: a suppressed frame is near the pose of its last MOVE. -/
theorem Suppressed.near (hunit : ts.rotation.IsUnit) (hs : Suppressed lib cfg h ord now transforms f ts) :
    ∃ msg, lastMove f h.events = some msg ∧ msg.pose.Near cfg ts.pose := by
  have hsilent := hs.silent
  rw [updateCollisionObjects_eq] at hsilent
  have hnone := frameMove_eq_none_of_not_mem hs.tracked hsilent
  rcases held_of_frameMove_eq_none hs.first hnone with hlimited | hband
  · exact absurd ((rateLimited_iff hi).mp hlimited) hs.free
  · cases hlast : lastMove f h.events with
    | none =>
      rw [withinDeadband, hi.pose, hlast] at hband
      cases hband
    | some msg => exact ⟨msg, rfl, (near_iff hexact hi hu hlast hunit).mp hband⟩

theorem suppressed_of_near (hunit : ts.rotation.IsUnit) (htracked : h.data.Tracked f)
    (hfirst : firstTransform transforms f = some ts) (hfree : ¬h.HeldBack lib cfg now f) {msg : CollisionObject ℝ}
    (hlast : lastMove f h.events = some msg) (hnear : msg.pose.Near cfg ts.pose) :
    Suppressed lib cfg h ord now transforms f ts := by
  refine ⟨htracked, hfirst, fun m hm hid => ?_, hfree⟩
  rw [updateCollisionObjects_eq, mem_dueMoves, hid] at hm
  obtain ⟨ts', hts', -, hband, -⟩ := frameMove_eq_some hm.2
  obtain rfl : ts = ts' := Option.some.inj (hfirst.symm.trans hts')
  rw [(near_iff hexact hi hu hlast hunit).mpr hnear] at hband
  cases hband

theorem suppressionSound_iff {sec : Section ℝ} (hunit : sec.UnitRotations) :
    SuppressionSound lib cfg h sec ↔ ParentKept lib cfg h sec := by
  cases sec with
  | update ord now transforms =>
    have hrotation : ∀ {f ts}, firstTransform transforms f = some ts → ts.rotation.IsUnit :=
      fun hfirst => hunit _ (List.mem_of_find?_eq_some hfirst)
    constructor
    · intro hsound f ts msg htracked hfirst hlast hfree hnear
      have hs : Suppressed lib cfg h ord now transforms f ts :=
        suppressed_of_near hexact hi hu (hrotation hfirst) htracked hfirst hfree hlast hnear
      obtain ⟨m, hm, hparent, -⟩ := hsound f ts hs
      obtain rfl : msg = m := Option.some.inj (hlast.symm.trans hm)
      exact hparent
    · intro hkept f ts hs
      obtain ⟨msg, hlast, hnear⟩ := hs.near hexact hi hu (hrotation hs.first)
      exact ⟨msg, hlast, hkept f ts msg hs.tracked hs.first hlast hs.free hnear, hnear⟩
  | _ => exact Iff.rfl

end Invariant

/-! ### Runs -/

/-- In every run, what is suppressed is sound exactly when no frame changes its parent
within the deadband. -/
theorem suppression_sound_iff_parent_kept (hexact : lib.Exact) {secs : List (Section ℝ)}
    (hunit : ∀ sec ∈ secs, sec.UnitRotations) :
    Along (sectionStep lib cfg) (SuppressionSound lib cfg) .init secs ↔
      Along (sectionStep lib cfg) (ParentKept lib cfg) .init secs := by
  let I (h : History ℝ) : Prop := h.Referenced ∧ h.UnitMoves
  have hinit : I .init := ⟨referenced_init, fun msg hmsg => by cases hmsg⟩
  have hstep : ∀ h sec h', I h → sec.UnitRotations → sectionStep lib cfg h sec = some h' → I h' :=
    fun h sec h' hi hunit hs => ⟨referenced_step hi.1 hs, unitMoves_step hi.2 hunit hs⟩
  have hunits : Along (sectionStep lib cfg) (fun _ sec => sec.UnitRotations) .init secs :=
    Along.of_labels fun sec hsec _ => hunit sec hsec
  constructor
  · intro hsound
    exact Along.imp (fun h sec h' hi hp => hstep h sec h' hi hp.2)
      (fun h sec hi hp => (suppressionSound_iff hexact hi.1 hi.2 hp.2).mp hp.1) (hsound.and hunits) hinit
  · intro hkept
    exact Along.imp (fun h sec h' hi hp => hstep h sec h' hi hp.2)
      (fun h sec hi hp => (suppressionSound_iff hexact hi.1 hi.2 hp.2).mpr hp.1) (hkept.and hunits) hinit

end Call

/-! ### A box that is put on another parent -/

namespace Sample

noncomputable def realLibrary : Library ℝ where
  rotationQuaternion _ := ⟨0, 0, 0, 1⟩
  createMeshFromBinary _ := none
  sqrt := Real.sqrt
  acos := Real.arccos
  rounding := .nearestEven

theorem realLibrary_exact : realLibrary.Exact := ⟨fun _ => rfl, fun _ => rfl⟩

def boxFrame : Name := "box/whole".toList

/-- A fetch records the box. -/
def boxRecorded : Section ℝ :=
  .fetch (.item ⟨boxFrame, "/box/whole/inner".toList, Pose.identity, .primitive ⟨.box, [1, 1, 1]⟩⟩)

/-- The box is at the origin of `parent`. -/
def boxUnder (parent : Name) (now : ℤ) : Section ℝ :=
  .update (.increasing Name) now [⟨parent, boxFrame, ⟨0, 0, 0⟩, ⟨0, 0, 0, 1⟩⟩]

theorem boxUnder_unit (parent : Name) (now : ℤ) : (boxUnder parent now).UnitRotations := by
  intro ts hts
  rw [List.mem_singleton.mp hts, Quat.IsUnit, normSq_def']
  simp

theorem firstMove (lib : Library ℝ) (cfg : Config ℝ) (parent : Name) : ∃ (h : History ℝ) (msg : CollisionObject ℝ),
    exec (sectionStep lib cfg) .init [boxRecorded, boxUnder parent 0] = some h ∧ h.data.Tracked boxFrame ∧
      lastMove boxFrame h.events = some msg ∧ msg.frameId = parent ∧ msg.pose = Pose.identity ∧ msg.stamp = 0 := by
  let σ : Data ℝ := (boxRecorded.run lib cfg Data.init).1
  let ts : TransformStamped ℝ := ⟨parent, boxFrame, ⟨0, 0, 0⟩, ⟨0, 0, 0, 1⟩⟩
  let msg : CollisionObject ℝ := moveMessage (.increasing Name) 0 σ boxFrame ts
  have htracked : ∀ f, σ.Tracked f ↔ f = boxFrame := fun f =>
    (Data.recordPrimitive_tracked _ _ _ _ _ f).trans (or_iff_left Finmap.notMem_empty)
  have hkeys : σ.collisionTfFrameToMeshIds.keys = {boxFrame} := by
    ext f
    rw [← Data.tracked_iff_mem_keys, htracked, Finset.mem_singleton]
  have hdue : dueMoves lib cfg (.increasing Name) 0 [ts] σ = [msg] := by
    have hvisit : (IterOrder.increasing Name).visit {boxFrame} = [boxFrame] := Finset.sort_singleton _ _
    rw [dueMoves, hkeys, hvisit]
    rfl
  have hpass : (boxUnder parent 0).run lib cfg σ = (σ.noteMove msg, [.moved msg]) := by
    rw [boxUnder, Section.run, updateCollisionObjects_eq, hdue]
    rfl
  refine ⟨⟨σ.noteMove msg, [.moved msg]⟩, msg, ?_, (htracked boxFrame).mpr rfl, ?_, rfl, rfl, rfl⟩
  · exact congrArg (fun r : Data ℝ × List (SceneEvent ℝ) => some (History.mk r.1 r.2)) hpass
  · rw [← List.nil_append [SceneEvent.moved msg], lastMove_moved]
    exact if_pos rfl

/-- A second later the box is still near its pose, and no longer held back. -/
theorem firstMove_near {h : History ℝ} {msg : CollisionObject ℝ} (hlast : lastMove boxFrame h.events = some msg)
    (hpose : msg.pose = Pose.identity) (hstamp : msg.stamp = 0) :
    ¬h.HeldBack realLibrary Config.default 1000000000 boxFrame ∧
      msg.pose.Near (Config.default : Config ℝ) Pose.identity := by
  constructor
  · rintro ⟨m, hm, hwithin⟩
    obtain rfl : msg = m := Option.some.inj (hlast.symm.trans hm)
    have hlt : (durationSeconds .nearestEven 1000000000).lt (Rounding.nearestEven.div 1 (.finite 10)) = false := by
      decide +kernel
    rw [hstamp, withinPeriod, Config.default, sub_zero, realLibrary, hlt, Bool.and_false] at hwithin
    cases hwithin
  · have hunit : (Pose.identity : Pose ℝ).orientation.IsUnit := by simp [Quat.IsUnit, Pose.identity, normSq_def']
    rw [hpose]
    constructor
    · rw [dist_self, Config.default]
      norm_num
    · rw [rotationAngle_eq hunit hunit, Pose.identity, Config.default]
      norm_num [Quaternion.re_mul]

end Sample

/-- The box is put on the table and keeps its pose, and MoveIt is not told. -/
theorem parent_change_suppressed : ∃ (lib : Library ℝ) (cfg : Config ℝ) (secs : List (Section ℝ)),
    lib.Exact ∧ (∀ sec ∈ secs, sec.UnitRotations) ∧
      ¬Along (sectionStep lib cfg) (SuppressionSound lib cfg) .init secs := by
  obtain ⟨h, msg, hrun, htracked, hlast, hparent, hpose, hstamp⟩ :=
    Sample.firstMove Sample.realLibrary Config.default "world".toList
  let onTable := Sample.boxUnder "table".toList 1000000000
  have hunit : ∀ sec ∈ [Sample.boxRecorded, Sample.boxUnder "world".toList 0], sec.UnitRotations := by
    simp only [List.forall_mem_cons]
    exact ⟨trivial, Sample.boxUnder_unit _ _, by simp⟩
  refine ⟨Sample.realLibrary, Config.default, [Sample.boxRecorded, Sample.boxUnder "world".toList 0] ++ [onTable],
    Sample.realLibrary_exact, ?_, fun hsound => ?_⟩
  · rw [List.forall_mem_append, List.forall_mem_singleton]
    exact ⟨hunit, Sample.boxUnder_unit _ _⟩
  · have hkept : ParentKept Sample.realLibrary Config.default h onTable :=
      (suppressionSound_iff Sample.realLibrary_exact (referenced_of_run hrun) (unitMoves_of_run hunit hrun)
        (Sample.boxUnder_unit _ _)).mp (hsound.append hrun).2.1
    obtain ⟨hfree, hnear⟩ := Sample.firstMove_near hlast hpose hstamp
    have hsame := hkept Sample.boxFrame _ msg htracked (List.find?_cons_of_pos (by decide)) hlast hfree hnear
    exact absurd (hparent.symm.trans hsame) (by decide)

/-- The box stays where it is, under the parent it has. -/
theorem suppression_sound_box :
    let secs := [Sample.boxRecorded, Sample.boxUnder "world".toList 0] ++
      [Sample.boxUnder "world".toList 1000000000]
    Along (sectionStep Sample.realLibrary Config.default) (SuppressionSound Sample.realLibrary Config.default)
      .init secs := by
  intro secs
  obtain ⟨h, msg, hrun, -, hlast, hparent, -⟩ :=
    Sample.firstMove Sample.realLibrary Config.default "world".toList
  have hunit : ∀ sec ∈ secs, sec.UnitRotations := by
    simp only [secs, List.cons_append, List.nil_append, List.forall_mem_cons]
    exact ⟨trivial, Sample.boxUnder_unit _ _, Sample.boxUnder_unit _ _, by simp⟩
  have hbefore : Along (sectionStep Sample.realLibrary Config.default) (ParentKept Sample.realLibrary Config.default) .init
      [Sample.boxRecorded, Sample.boxUnder "world".toList 0] := by
    refine ⟨trivial, fun h₁ hs => ⟨fun f ts m _ _ hm _ _ => ?_, fun _ _ => trivial⟩⟩
    obtain rfl := sectionStep_eq_some hs
    cases hm
  have hlastStep : ParentKept Sample.realLibrary Config.default h (Sample.boxUnder "world".toList 1000000000) := by
    intro f ts m _ hfirst hm _ _
    obtain rfl := List.mem_singleton.mp (List.mem_of_find?_eq_some hfirst)
    have hf : Sample.boxFrame = f := by simpa using List.find?_some hfirst
    obtain rfl : msg = m := Option.some.inj (hlast.symm.trans (hf ▸ hm))
    exact hparent
  exact (suppression_sound_iff_parent_kept Sample.realLibrary_exact hunit).mpr
    (hbefore.concat hrun ⟨hlastStep, fun _ _ => trivial⟩)

end MoveitPlanning.Scene
