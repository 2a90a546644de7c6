import Mathlib.Algebra.Order.Ring.Rat
import MoveitPlanning.Scene.Sections

/-! The rate limit. A pass makes a MOVE of a frame only a period after the time it has
kept for the frame, and that time is the stamp of the frame's last MOVE since its last
removal; so each MOVE comes a period after the last one, and two MOVEs without a removal
between them are a period apart, whatever readings of the clock the calls bring. The
period and the time that has passed are compared as doubles, and both are rounded: the
stamps may be closer than the period by the last places of a double. -/

namespace MoveitPlanning.Scene

open Foundation

variable {R : Type*}

section Period
variable (lib : Library R) (cfg : Config R)

/-- The MOVE `v` has its stamp a period after that of `u`, as the code measures both. -/
def PeriodAfter (u v : CollisionObject R) : Prop :=
  lib.rounding.div 1 cfg.collisionObjectsUpdateRateHz ≤ durationSeconds lib.rounding (v.stamp - u.stamp)

/-- Each MOVE of a frame comes a period after the last one before it. -/
def History.PeriodsKept (h : History R) : Prop :=
  ∀ f, Chained (SceneEvent.move? f) (SceneEvent.Removes f) (PeriodAfter lib cfg) h.events

/-- The stamps are a period apart, but for a part in `2 ^ 50`; whole nanoseconds are. -/
structure PeriodApart (cfg : Config R) (u v : CollisionObject R) : Prop where
  nearly : ∀ rate, cfg.collisionObjectsUpdateRateHz = .finite rate →
    (1 - 1 / 2 ^ 50) * (1 / rate) ≤ ((v.stamp - u.stamp : ℤ) : ℚ) / 10 ^ 9
  whole : ∀ rate (n : ℤ), cfg.collisionObjectsUpdateRateHz = .finite rate → 1 / rate = n / 10 ^ 9 → n < 2 ^ 50 →
    n ≤ v.stamp - u.stamp

variable {lib cfg} (hfp : lib.rounding.KeepsBinary64) (hrate : Double.lt 0 cfg.collisionObjectsUpdateRateHz = true)

include hfp hrate in
theorem PeriodAfter.nonneg {u v : CollisionObject R} (h : PeriodAfter lib cfg u v) : 0 ≤ v.stamp - u.stamp :=
  hfp.nonneg_of_durationSeconds ((one_div_pos_rate lib.rounding hrate).1.trans h)

include hfp hrate in
theorem PeriodAfter.trans (u v w : CollisionObject R) (huv : PeriodAfter lib cfg u v)
    (hvw : PeriodAfter lib cfg v w) : PeriodAfter lib cfg u w := by
  have hle : w.stamp - v.stamp ≤ w.stamp - u.stamp := by
    have := huv.nonneg hfp hrate
    omega
  exact le_trans hvw (durationSeconds_mono lib.rounding hle).1

include hfp hrate in
theorem PeriodAfter.apart {u v : CollisionObject R} (h : PeriodAfter lib cfg u v)
    (hformat : cfg.collisionObjectsUpdateRateHz.IsBinary64) (hstamp : v.stamp - u.stamp < 2 ^ 63) :
    PeriodApart cfg u v := by
  have hnearly : ∀ rate, cfg.collisionObjectsUpdateRateHz = .finite rate →
      (1 - 1 / 2 ^ 50) * (1 / rate) ≤ ((v.stamp - u.stamp : ℤ) : ℚ) / 10 ^ 9 := by
    intro rate hfinite
    rw [hfinite] at hrate hformat
    rw [PeriodAfter, hfinite] at h
    exact hfp.period_le (Double.lt_finite.mp hrate) hformat hstamp h
  exact ⟨hnearly, fun rate n hfinite hn hlt => le_of_period hn hlt (hnearly rate hfinite)⟩

/-! ### What a pass appends -/

/-- MOVEs of different frames, each a period after the last one of its frame. -/
theorem periodsKept_append {σ τ : Data R} {events : List (SceneEvent R)} {msgs : List (CollisionObject R)}
    (h : History.PeriodsKept lib cfg ⟨σ, events⟩) (hnodup : (msgs.map fun msg => msg.id).Nodup)
    (hperiod : ∀ msg ∈ msgs, ∀ u, lastMove msg.id events = some u → PeriodAfter lib cfg u msg) :
    History.PeriodsKept lib cfg ⟨τ, events ++ msgs.map .moved⟩ := by
  induction msgs generalizing σ events with
  | nil => rwa [List.map_nil, List.append_nil]
  | cons msg msgs ih =>
    rw [List.map_cons, List.nodup_cons] at hnodup
    have hfirst : History.PeriodsKept lib cfg ⟨σ, events ++ [.moved msg]⟩ := by
      refine fun f => (h f).concat fun v hv u hu => ?_
      obtain ⟨hmsg, hid⟩ := SceneEvent.move?_eq_some.mp hv
      obtain rfl := SceneEvent.moved.inj hmsg
      exact hperiod msg (by simp) u (hid ▸ hu)
    have hrest := ih hfirst hnodup.2 fun m hm u hu => by
      have hne : m.id ≠ msg.id := fun he => hnodup.1 (List.mem_map.mpr ⟨m, hm, he⟩)
      rw [lastMove_moved, if_neg hne] at hu
      exact hperiod m (by simp [hm]) u hu
    rwa [List.append_assoc] at hrest

theorem History.PeriodsKept.concat {σ τ : Data R} {events : List (SceneEvent R)} {frame : Name}
    (h : History.PeriodsKept lib cfg ⟨σ, events⟩) : History.PeriodsKept lib cfg ⟨τ, events ++ [.removed frame]⟩ :=
  fun f => (h f).concat fun v hv => by cases hv

/-! ### Runs -/

variable [Field R] [LinearOrder R]

include hrate in
theorem periodAfter_of_due {h : History R} (hi : h.Referenced)
    {ord : IterOrder Name} {now : ℤ} {transforms : List (TransformStamped R)} {msg u : CollisionObject R}
    (hmsg : msg ∈ dueMoves lib cfg ord now transforms h.data) (hu : lastMove msg.id h.events = some u) :
    PeriodAfter lib cfg u msg := by
  obtain ⟨ts, -, hlimited, -, hmove⟩ := frameMove_eq_some (mem_dueMoves.mp hmsg).2
  have hstamp : msg.stamp = now := by rw [hmove]; rfl
  rw [rateLimited, hi.time, hu, Option.map_some] at hlimited
  simp only [withinPeriod, hrate, Bool.true_and] at hlimited
  rw [← Bool.not_eq_true, Double.lt_iff (durationSeconds_mono lib.rounding le_rfl).2
    (one_div_pos_rate lib.rounding hrate).2, not_lt] at hlimited
  rwa [PeriodAfter, hstamp]

include hrate in
theorem periodsKept_step {h h' : History R} {sec : Section R} (hi : h.Referenced) (hkept : h.PeriodsKept lib cfg)
    (hstep : sectionStep lib cfg h sec = some h') : h'.PeriodsKept lib cfg := by
  obtain rfl := sectionStep_eq_some hstep
  cases sec with
  | remove frame => exact hkept.concat
  | update ord now transforms =>
    simp only [Section.run, updateCollisionObjects_eq]
    exact periodsKept_append hkept dueMoves_nodup fun msg hmsg u hu => periodAfter_of_due hrate hi hmsg hu
  | _ =>
    simp only [Section.run, List.append_nil]
    exact hkept

include hrate in
theorem periodsKept_of_run {h : History R} {secs : List (Section R)}
    (hrun : exec (sectionStep lib cfg) .init secs = some h) : h.PeriodsKept lib cfg := by
  have hboth : h.Referenced ∧ h.PeriodsKept lib cfg :=
    Reachable.invariant (I := fun h : History R => h.Referenced ∧ h.PeriodsKept lib cfg) ⟨secs, hrun⟩
      ⟨referenced_init, fun _ => chained_nil⟩ fun h sec h' hi hs =>
        ⟨referenced_step hi.1 hs, periodsKept_step hrate hi.1 hi.2 hs⟩
  exact hboth.2

include hfp hrate in
omit [Field R] [LinearOrder R] in
/-- Two MOVEs of a log that is kept, without a removal between them. -/
theorem History.PeriodsKept.periodAfter {h : History R} (hkept : h.PeriodsKept lib cfg)
    {before between after : List (SceneEvent R)}
    {m₁ m₂ : CollisionObject R} (hlog : h.events = before ++ .moved m₁ :: (between ++ .moved m₂ :: after))
    (hid : m₂.id = m₁.id) (hremoved : SceneEvent.removed m₁.id ∉ between) : PeriodAfter lib cfg m₁ m₂ := by
  have hchain := hkept m₁.id
  rw [hlog] at hchain
  refine hchain.follows_of_not_reset (PeriodAfter.trans hfp hrate) (SceneEvent.move?_eq_some.mpr ⟨rfl, rfl⟩)
    (SceneEvent.move?_eq_some.mpr ⟨rfl, hid⟩) fun e he => ?_
  rcases List.mem_cons.mp he with rfl | he
  · exact id
  · cases e with
    | moved m => exact id
    | removed frame =>
      rintro rfl
      exact hremoved he

end Period

/-! ### Any sections in any order -/

variable [Field R] [LinearOrder R] {lib : Library R} {cfg : Config R}

/-- At a positive rate, two MOVEs of a frame without a removal of it between them have
stamps a period apart as doubles, and nearly so in nanoseconds, a call makes at most one
MOVE of a frame, and both references are kept for the same frames, which are tracked. -/
theorem moves_rate_limited (hfp : lib.rounding.KeepsBinary64)
    (hrate : Double.lt 0 cfg.collisionObjectsUpdateRateHz = true) {h : History R} {secs : List (Section R)}
    (hrun : exec (sectionStep lib cfg) .init secs = some h) :
    (∀ before between after m₁ m₂, h.events = before ++ .moved m₁ :: (between ++ .moved m₂ :: after) →
      m₂.id = m₁.id → SceneEvent.removed m₁.id ∉ between →
      PeriodAfter lib cfg m₁ m₂ ∧ m₁.stamp ≤ m₂.stamp ∧
        (cfg.collisionObjectsUpdateRateHz.IsBinary64 → m₂.stamp - m₁.stamp < 2 ^ 63 → PeriodApart cfg m₁ m₂)) ∧
    (∀ ord now transforms,
      ((updateCollisionObjects lib cfg ord now transforms h.data).2.map fun msg => msg.id).Nodup) ∧
    h.data.lastPublishedCollisionPose.keys = h.data.lastPublishedCollisionTime.keys ∧
    h.data.lastPublishedCollisionTime.keys ⊆ h.data.collisionTfFrameToMeshIds.keys := by
  refine ⟨fun before between after m₁ m₂ hlog hid hremoved => ?_, fun ord now transforms => ?_,
    (referenced_of_run hrun).keys⟩
  · have hafter := (periodsKept_of_run hrate hrun).periodAfter hfp hrate hlog hid hremoved
    exact ⟨hafter, by have := hafter.nonneg hfp hrate; omega, hafter.apart hfp hrate⟩
  · rw [updateCollisionObjects_eq]
    exact dueMoves_nodup

namespace Sample

/-- The section in which a fetch records a box. -/
def boxSection : Section ℚ :=
  .fetch (.item ⟨"box/whole".toList, "/box/whole/inner".toList, Pose.identity, .primitive ⟨.box, [1, 1, 1]⟩⟩)

/-- The box at `x`, seen by a call that has read `now`. -/
def boxAt (x : ℚ) (now : ℤ) : Section ℚ :=
  .update (.increasing Name) now [{ transform "box/whole".toList with translation := ⟨x, 0, 0⟩ }]

/-- The double next to `3.000000003`. -/
def thirdRate : ℚ := 6755399447811143 / 2251799813685248

def thirdConfig : Config ℚ := { Config.default with collisionObjectsUpdateRateHz := .finite thirdRate }

end Sample

/-- The box moves twice; a call with an old reading of the clock in between is held back. -/
theorem moves_rate_limited_box : ∃ (secs : List (Section ℚ)) (h : History ℚ),
    exec (sectionStep Sample.library Config.default) .init secs = some h ∧ h.events.length = 2 ∧
    (∀ before between after m₁ m₂, h.events = before ++ .moved m₁ :: (between ++ .moved m₂ :: after) →
      m₂.id = m₁.id → SceneEvent.removed m₁.id ∉ between →
      PeriodAfter Sample.library Config.default m₁ m₂ ∧ m₁.stamp ≤ m₂.stamp ∧
        ((Config.default : Config ℚ).collisionObjectsUpdateRateHz.IsBinary64 → m₂.stamp - m₁.stamp < 2 ^ 63 →
          PeriodApart Config.default m₁ m₂)) ∧
    (∀ ord now transforms, ((updateCollisionObjects Sample.library Config.default ord now transforms
      h.data).2.map fun msg => msg.id).Nodup) ∧
    h.data.lastPublishedCollisionPose.keys = h.data.lastPublishedCollisionTime.keys ∧
    h.data.lastPublishedCollisionTime.keys ⊆ h.data.collisionTfFrameToMeshIds.keys := by
  let secs := [Sample.boxSection, Sample.boxAt 0 0, Sample.boxAt 1 (-5), Sample.boxAt 2 100000000]
  obtain ⟨h, hrun, hlength⟩ : ∃ h, exec (sectionStep Sample.library Config.default) .init secs = some h ∧
      decide (h.events.length = 2) = true := (Option.any_eq_true _ _).mp (by decide +kernel)
  exact ⟨secs, h, hrun, of_decide_eq_true hlength,
    moves_rate_limited Rounding.nearestEven_keepsBinary64 (by decide +kernel) hrun⟩

/-- The log has two MOVEs of one frame with stamps closer than the period. -/
def closerThanPeriod (rate : ℚ) : List (SceneEvent ℚ) → Bool
  | [.moved m₁, .moved m₂] => decide (m₂.id = m₁.id ∧ ((m₂.stamp - m₁.stamp : ℤ) : ℚ) / 10 ^ 9 < 1 / rate)
  | _ => false

theorem exists_of_closerThanPeriod {rate : ℚ} {events : List (SceneEvent ℚ)}
    (h : closerThanPeriod rate events = true) : ∃ m₁ m₂, events = [.moved m₁, .moved m₂] ∧ m₂.id = m₁.id ∧
      ((m₂.stamp - m₁.stamp : ℤ) : ℚ) / 10 ^ 9 < 1 / rate := by
  unfold closerThanPeriod at h
  split at h
  · exact ⟨_, _, rfl, of_decide_eq_true h⟩
  · cases h

/-- At a rate of about 3 Hz, a MOVE comes `333333333` ns after the last one; the period is
longer by less than a nanosecond, and the same as a double. -/
theorem moves_closer_than_period : ∃ (secs : List (Section ℚ)) (h : History ℚ) (m₁ m₂ : CollisionObject ℚ),
    exec (sectionStep Sample.library Sample.thirdConfig) .init secs = some h ∧
      Sample.library.rounding = .nearestEven ∧ Sample.thirdConfig.collisionObjectsUpdateRateHz.IsBinary64 ∧
      Double.lt 0 Sample.thirdConfig.collisionObjectsUpdateRateHz = true ∧
      h.events = [.moved m₁, .moved m₂] ∧ m₂.id = m₁.id ∧
      ((m₂.stamp - m₁.stamp : ℤ) : ℚ) / 10 ^ 9 < 1 / Sample.thirdRate := by
  let secs := [Sample.boxSection, Sample.boxAt 0 0, Sample.boxAt 1 333333333]
  obtain ⟨h, hrun, hcloser⟩ : ∃ h, exec (sectionStep Sample.library Sample.thirdConfig) .init secs = some h ∧
      closerThanPeriod Sample.thirdRate h.events = true := (Option.any_eq_true _ _).mp (by decide +kernel)
  obtain ⟨m₁, m₂, hmoves⟩ := exists_of_closerThanPeriod hcloser
  have hformat : IsBinary64 Sample.thirdRate :=
    ⟨6755399447811143, -51, by norm_num, by norm_num, by norm_num, by norm_num [Sample.thirdRate]⟩
  exact ⟨secs, h, m₁, m₂, hrun, rfl, hformat, by decide +kernel, hmoves⟩

/-! ### The threads of the node -/

/-- What the node has published: MOVEs of an object without a REMOVE of it between them. -/
theorem published_moves_rate_limited (hfp : lib.rounding.KeepsBinary64)
    (hrate : Double.lt 0 cfg.collisionObjectsUpdateRateHz = true) {t : Sys R} {ls : List (Label R)}
    (hrun : exec (step lib cfg) Sys.init ls = some t)
    {before between after : List (CollisionObject R)} {m₁ m₂ : CollisionObject R}
    (hpublished : t.published = before ++ m₁ :: (between ++ m₂ :: after)) (h₁ : m₁.operation = .move)
    (h₂ : m₂.operation = .move) (hid : m₂.id = m₁.id)
    (hremoved : ∀ m ∈ between, m.operation = .remove → m.id ≠ m₁.id) : PeriodAfter lib cfg m₁ m₂ := by
  obtain ⟨h, hsections, hlogs⟩ := sections_of_run logs_init hrun
  have hlog := hlogs.events
  have hmoved : ∀ {m : CollisionObject R}, m.operation = .move → m.event? = some (.moved m) := by
    intro m hm
    rw [CollisionObject.event?, hm]
  rw [hpublished, List.append_assoc, List.cons_append, List.append_assoc, List.cons_append,
    List.filterMap_append, List.filterMap_cons_some (hmoved h₁), List.filterMap_append,
    List.filterMap_cons_some (hmoved h₂)] at hlog
  refine (periodsKept_of_run hrate hsections).periodAfter hfp hrate hlog hid fun hmem => ?_
  obtain ⟨m, hm, hevent⟩ := List.mem_filterMap.mp hmem
  unfold CollisionObject.event? at hevent
  split at hevent
  · cases hevent
  · rename_i hop
    exact hremoved m hm hop (SceneEvent.removed.inj (Option.some.inj hevent))
  · cases hevent

end MoveitPlanning.Scene
