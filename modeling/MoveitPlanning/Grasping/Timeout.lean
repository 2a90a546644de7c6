import MoveitPlanning.Foundation.Binary64
import MoveitPlanning.Grasping.Skill
import Mathlib.Data.Rat.Floor

/-! The time the skill waits for the action. The goal grants the planner the timeout of the
parameters, in seconds, whatever it is; the client takes the same timeout back to
milliseconds, bounds it by 300 s, rounds it up and waits 5 s longer. So it waits as long as
the planner may take just when the timeout is at most 305 s. -/

namespace MoveitPlanning.Grasping

open Foundation Scene

/-- `bounded_timeout_ms`: a timeout that is finite and positive, up to 300 s. -/
def boundedTimeoutMs : Double → ℚ
  | .finite timeoutMs => if 0 < timeoutMs then min timeoutMs 300000 else 15000
  | _ => 15000

structure CallTimeouts where
  connectionMs : ℤ
  resultMs : ℤ
  deriving DecidableEq, Repr

/-- The timeouts of `CallGraspPlanningAction`. -/
def callTimeouts (timeoutMs : Double) : CallTimeouts :=
  let timeout := max 1 ⌈boundedTimeoutMs timeoutMs⌉
  ⟨min timeout 5000, timeout + 5000⟩

/-- `timeout_ms` of `Execute`. -/
def executeTimeoutMs (fp : Rounding) (goal : Goal) : Double := fp.mul goal.planningTimeoutSec (.finite 1000)

theorem planningResults_eq (fp : Rounding) (action : Goal → Double → ActionExchange) (params : GraspPlanningParams)
    (hne : params.candidateObjects.entries ≠ []) :
    planningResults fp action params =
      match callGraspPlanningAction (action (createPlanGraspsGoal fp params)
        (executeTimeoutMs fp (createPlanGraspsGoal fp params))) with
      | .error failure => .error failure
      | .ok result => checkedResults params result := by
  rw [planningResults, if_neg hne]
  rfl

/-- The client waits for the result at least for the planning time that the goal grants. -/
def WaitsForPlanning (goal : Goal) (timeoutMs : Double) : Prop :=
  goal.planningTimeoutSec.le (.finite ((callTimeouts timeoutMs).resultMs / 1000)) = true

/-- The client gives up on the goal, and cancels it, once its wait is over. -/
def GivesUp (timeoutMs : Double) (elapsedMs : ℚ) : Prop := (callTimeouts timeoutMs).resultMs ≤ elapsedMs

theorem waitsForPlanning_iff {goal : Goal} (timeoutMs : Double) (hgoal : goal.planningTimeoutSec ≠ .nan) :
    WaitsForPlanning goal timeoutMs ↔ ∀ elapsedMs, GivesUp timeoutMs elapsedMs →
      goal.planningTimeoutSec.le (.finite (elapsedMs / 1000)) = true := by
  constructor
  · intro h elapsedMs hgives
    rw [WaitsForPlanning, Double.le_iff hgoal (by simp)] at h
    rw [Double.le_iff hgoal (by simp)]
    refine h.trans (Double.finite_le_finite.mpr ?_)
    exact div_le_div_of_nonneg_right hgives (by norm_num)
  · exact fun h => h _ le_rfl

/-! ### The wait for the result -/

theorem boundedTimeoutMs_le (timeoutMs : Double) : boundedTimeoutMs timeoutMs ≤ 300000 := by
  cases timeoutMs with
  | finite t =>
    rw [boundedTimeoutMs]
    split_ifs
    · exact min_le_right t 300000
    · norm_num
  | _ => norm_num [boundedTimeoutMs]

theorem resultMs_eq (timeoutMs : Double) :
    (callTimeouts timeoutMs).resultMs = max 1 ⌈boundedTimeoutMs timeoutMs⌉ + 5000 := rfl

theorem resultMs_le (timeoutMs : Double) : ((callTimeouts timeoutMs).resultMs : ℚ) ≤ 305000 := by
  have hceil : ⌈boundedTimeoutMs timeoutMs⌉ ≤ 300000 := Int.ceil_le.mpr (boundedTimeoutMs_le timeoutMs)
  have hle : (callTimeouts timeoutMs).resultMs ≤ 305000 := by
    rw [resultMs_eq]
    omega
  exact_mod_cast hle

theorem bounded_add_le_resultMs (timeoutMs : Double) :
    boundedTimeoutMs timeoutMs + 5000 ≤ (callTimeouts timeoutMs).resultMs := by
  have hceil : boundedTimeoutMs timeoutMs ≤ ⌈boundedTimeoutMs timeoutMs⌉ := Int.le_ceil _
  have hmax : ((⌈boundedTimeoutMs timeoutMs⌉ : ℤ) : ℚ) ≤ (max 1 ⌈boundedTimeoutMs timeoutMs⌉ : ℤ) := by
    exact_mod_cast le_max_right _ _
  rw [resultMs_eq]
  push_cast at hmax ⊢
  linarith

/-- The goal takes a timeout that is finite and positive, and otherwise 15 s. -/
theorem timeoutMsOrDefault_cases (params : GraspPlanningParams) :
    (∃ t, 0 < t ∧ params.timeoutMs = some (.finite t) ∧ params.timeoutMsOrDefault = .finite t) ∨
      (∀ t, params.timeoutMs = some (.finite t) → t ≤ 0) ∧ params.timeoutMsOrDefault = .finite 15000 := by
  rw [GraspPlanningParams.timeoutMsOrDefault]
  cases params.timeoutMs with
  | none => exact .inr ⟨fun t ht => (by cases ht), rfl⟩
  | some timeoutMs =>
    cases timeoutMs with
    | finite t =>
      rcases lt_or_ge 0 t with hpos | hneg
      · exact .inl ⟨t, hpos, rfl, if_pos ⟨rfl, Double.lt_finite.mpr hpos⟩⟩
      · refine .inr ⟨fun t' ht' => ?_, if_neg fun h => ?_⟩
        · obtain rfl : t = t' := by simpa using ht'
          exact hneg
        · exact absurd (Double.lt_finite.mp h.2) (not_lt.mpr hneg)
    | _ => exact .inr ⟨fun t ht => (by cases ht), if_neg (by simp [Double.isFinite])⟩

section Rounded
variable {fp : Rounding} (hfp : fp.KeepsBinary64)
include hfp

/-- A planning time of up to 305 s, in milliseconds, is at most what the client makes of it. -/
theorem le_resultMs {sec : ℚ} (hnonneg : 0 ≤ sec) (hle : sec ≤ 305) :
    sec * 1000 ≤ (callTimeouts (fp.mul (.finite sec) (.finite 1000))).resultMs := by
  -- the whole milliseconds are numbers of the format, so only the fraction is rounded
  have hfloor : 0 ≤ ⌊sec * 1000⌋ := Int.floor_nonneg.mpr (by positivity)
  have hfloor_le : ⌊sec * 1000⌋ ≤ 305000 := Int.floor_le_iff.mpr (by push_cast; linarith)
  have hlo : IsBinary64 (⌊sec * 1000⌋ : ℤ) := IsBinary64.intCast (by rw [abs_of_nonneg hfloor]; omega)
  have hhi : IsBinary64 (305000 : ℤ) := IsBinary64.intCast (by norm_num)
  obtain ⟨r, hr, hlor, -⟩ := hfp.round_mem hlo hhi (Int.floor_le (sec * 1000)) (by push_cast; linarith)
  have hfrac : sec * 1000 < ⌊sec * 1000⌋ + 1 := Int.lt_floor_add_one _
  have hmargin := bounded_add_le_resultMs (fp.mul (.finite sec) (.finite 1000))
  rw [show fp.mul (.finite sec) (.finite 1000) = .finite r from hr] at hmargin ⊢
  refine le_trans ?_ hmargin
  rw [boundedTimeoutMs]
  split_ifs with hpos
  · rcases min_choice r 300000 with hmin | hmin
    · rw [hmin]
      linarith
    · rw [hmin]
      linarith
  · linarith

theorem planning_le_resultMs_iff {timeoutMs : ℚ} (hpos : 0 < timeoutMs) (hformat : IsBinary64 timeoutMs) :
    (fp.div (.finite timeoutMs) (.finite 1000)).le (.finite
      ((callTimeouts (fp.mul (fp.div (.finite timeoutMs) (.finite 1000)) (.finite 1000))).resultMs / 1000)) = true ↔
      timeoutMs ≤ 305000 := by
  have hdiv : fp.div (.finite timeoutMs) (.finite 1000) = fp.round (timeoutMs / 1000) := by
    rw [Rounding.div, if_pos (by norm_num)]
  rw [hdiv, Double.le_iff (fp.round_ne_nan _) (by simp)]
  constructor
  · intro h
    by_contra hgt
    -- the next number above 305000 gives a quotient that is not rounded down to 305
    have hnext : ((305000 * 2 ^ 34 : ℤ) + 1) * (2 : ℚ) ^ (-34 : ℤ) ≤ timeoutMs :=
      hformat.succ_le (by norm_num) (by norm_num; exact not_le.mp hgt)
    have hformat' : IsBinary64 (305 + 1 / 2 ^ 44) :=
      ⟨305 * 2 ^ 44 + 1, -44, by norm_num, by norm_num, by norm_num, by norm_num⟩
    have hround : .finite (305 + 1 / 2 ^ 44) ≤ fp.round (timeoutMs / 1000) := by
      apply hfp.le_round hformat'
      norm_num at hnext ⊢
      linarith
    have hle := Double.finite_le_finite.mp (hround.trans h)
    have hmax := resultMs_le (fp.mul (fp.round (timeoutMs / 1000)) (.finite 1000))
    norm_num at hle
    linarith
  · intro h
    have hzero : IsBinary64 (0 : ℤ) := IsBinary64.intCast (by norm_num)
    have hbound : IsBinary64 (305 : ℤ) := IsBinary64.intCast (by norm_num)
    obtain ⟨sec, hsec, hnonneg, hle⟩ := hfp.round_mem hzero hbound (q := timeoutMs / 1000)
      (by push_cast; positivity) (by push_cast; linarith)
    have hwait := le_resultMs hfp (by exact_mod_cast hnonneg) (by exact_mod_cast hle)
    rw [hsec, Double.finite_le_finite]
    linarith

/-- The client waits for as long as the goal lets the planner plan exactly when the timeout
of the parameters is not a number above 305 s. -/
theorem waits_for_planning_iff (params : GraspPlanningParams)
    (hformat : ∀ timeoutMs, params.timeoutMs = some timeoutMs → timeoutMs.IsBinary64) :
    WaitsForPlanning (createPlanGraspsGoal fp params) (executeTimeoutMs fp (createPlanGraspsGoal fp params)) ↔
      ∀ timeoutMs, params.timeoutMs = some (.finite timeoutMs) → timeoutMs ≤ 305000 := by
  rw [WaitsForPlanning, executeTimeoutMs, createPlanGraspsGoal]
  rcases timeoutMsOrDefault_cases params with ⟨t, hpos, ht, hor⟩ | ⟨hneg, hor⟩
  · rw [hor, planning_le_resultMs_iff hfp hpos (hformat _ ht), ht]
    simp
  · have hdefault : IsBinary64 (15000 : ℤ) := IsBinary64.intCast (by norm_num)
    rw [hor, planning_le_resultMs_iff hfp (by norm_num) (by exact_mod_cast hdefault)]
    exact ⟨fun _ t ht => (hneg t ht).trans (by norm_num), fun _ => by norm_num⟩

end Rounded

namespace Sample

/-- The request for the box with a timeout. -/
def timedParams (timeoutMs : Double) : GraspPlanningParams :=
  { sizedParams (.id "box".toList) with timeoutMs := some timeoutMs }

end Sample

/-- With a timeout of ten minutes the client gives up after five. -/
theorem long_timeout_given_up : ∃ params : GraspPlanningParams, params.timeoutMs = some (.finite 600000) ∧
    ¬WaitsForPlanning (createPlanGraspsGoal .exact params)
      (executeTimeoutMs .exact (createPlanGraspsGoal .exact params)) :=
  ⟨Sample.timedParams (.finite 600000), rfl, by unfold WaitsForPlanning; decide +kernel⟩

theorem waits_for_planning_five_seconds :
    WaitsForPlanning (createPlanGraspsGoal .exact (Sample.timedParams (.finite 5000)))
      (executeTimeoutMs .exact (createPlanGraspsGoal .exact (Sample.timedParams (.finite 5000)))) := by
  have hformat : IsBinary64 (5000 : ℤ) := IsBinary64.intCast (by norm_num)
  refine (waits_for_planning_iff Rounding.exact_keepsBinary64 _ fun t ht => ?_).mpr fun t ht => ?_
  · obtain rfl := Option.some.inj ht
    exact_mod_cast hformat
  · obtain rfl := Double.finite.inj (Option.some.inj ht)
    norm_num

end MoveitPlanning.Grasping
