import MoveitPlanning.Foundation.RoundingError
import MoveitPlanning.Grasping.PlanningNumbers
import MoveitPlanning.Grasping.Timeout

/-! The planning time of a goal, shared among its candidates. The pipeline divides it by their
number, so every task of a goal has the same timeout and together they have the planning
time, up to the error of one rounding. The skill's client waits for 5 s longer than that,
unless the planning time comes near the 300 s that it bounds its timeout by. -/

namespace MoveitPlanning.Grasping

open Foundation

section Budget
variable {fp : Rounding} (hfp : fp.KeepsBinary64) {goal : Goal}
include hfp

theorem numCandidates_eq (hne : goal.candidates ≠ []) (hlt : goal.candidates.length < 2 ^ 53) :
    goal.numCandidates fp = .finite goal.candidates.length := by
  have hpos : 1 ≤ goal.candidates.length := List.length_pos_iff.mpr hne
  have hformat : IsBinary64 (goal.candidates.length : ℤ) := by
    apply IsBinary64.intCast
    rw [abs_of_nonneg (by positivity)]
    exact_mod_cast hlt
  rw [Goal.numCandidates, max_eq_right hpos]
  exact_mod_cast hfp _ hformat

/-- The candidates' timeouts add up to the planning time, but for the rounding. -/
theorem candidateTimeout_error (hformat : goal.planningTimeoutSec.IsBinary64) (hne : goal.candidates ≠ [])
    (hlt : goal.candidates.length < 2 ^ 53) : ∃ c, resolveCandidateTimeoutSec fp goal = .finite c ∧
      |goal.candidates.length * c - goal.grantedTimeoutSec| ≤
        goal.grantedTimeoutSec / 2 ^ 52 + goal.candidates.length * (2 : ℚ) ^ (-1074 : ℤ) := by
  have hone : (1 : ℚ) ≤ goal.candidates.length := by exact_mod_cast List.length_pos_iff.mpr hne
  have hpos : (0 : ℚ) < goal.candidates.length := one_pos.trans_le hone
  have hgranted := goal.grantedTimeoutSec_pos
  have hshare : goal.grantedTimeoutSec / goal.candidates.length ≤ goal.grantedTimeoutSec := div_le_self hgranted.le hone
  obtain ⟨c, hc, herror⟩ := hfp.round_error (div_nonneg hgranted.le hpos.le) (goal.grantedTimeoutSec_isBinary64 hformat)
    hshare
  refine ⟨c, ?_, ?_⟩
  · rw [resolveCandidateTimeoutSec_eq, numCandidates_eq hfp hne hlt, Rounding.div, if_pos hpos.ne', hc]
  · have hsplit : goal.candidates.length * c - goal.grantedTimeoutSec =
        goal.candidates.length * (c - goal.grantedTimeoutSec / goal.candidates.length) := by field_simp
    rw [hsplit, abs_mul, abs_of_pos hpos]
    calc goal.candidates.length * |c - goal.grantedTimeoutSec / goal.candidates.length|
        ≤ goal.candidates.length *
            (goal.grantedTimeoutSec / goal.candidates.length / 2 ^ 52 + (2 : ℚ) ^ (-1074 : ℤ)) := by gcongr
      _ = goal.grantedTimeoutSec / 2 ^ 52 + goal.candidates.length * (2 : ℚ) ^ (-1074 : ℤ) := by field_simp

omit hfp in
theorem boundedTimeoutMs_of_nonpos {timeoutMs : Double} (h : ∀ t, timeoutMs = .finite t → t ≤ 0) :
    boundedTimeoutMs timeoutMs = 15000 := by
  cases timeoutMs with
  | finite t => exact if_neg (not_lt.mpr (h t rfl))
  | _ => rfl

theorem granted_add_le_resultMs (hle : goal.grantedTimeoutSec ≤ 304) :
    goal.grantedTimeoutSec * 1000 + 999 ≤ (callTimeouts (executeTimeoutMs fp goal)).resultMs := by
  have hmargin := bounded_add_le_resultMs (executeTimeoutMs fp goal)
  have hdefault : (∀ t, executeTimeoutMs fp goal = .finite t → t ≤ 0) → goal.grantedTimeoutSec = 5 →
      goal.grantedTimeoutSec * 1000 + 999 ≤ (callTimeouts (executeTimeoutMs fp goal)).resultMs := by
    intro hnonpos hfive
    rw [boundedTimeoutMs_of_nonpos hnonpos] at hmargin
    rw [hfive]
    linarith
  cases hgoal : goal.planningTimeoutSec with
  | finite sec =>
    by_cases hpos : 0 < sec
    · have hgranted : goal.grantedTimeoutSec = sec := by
        rw [Goal.grantedTimeoutSec, hgoal]
        exact if_pos hpos
      rw [hgranted] at hle ⊢
      -- only the fraction of the milliseconds is rounded
      have hfloor : 0 ≤ ⌊sec * 1000⌋ := Int.floor_nonneg.mpr (by positivity)
      have hfloor_le : ⌊sec * 1000⌋ ≤ 304000 := Int.floor_le_iff.mpr (by push_cast; linarith)
      have hlo : IsBinary64 (⌊sec * 1000⌋ : ℤ) := IsBinary64.intCast (by rw [abs_of_nonneg hfloor]; omega)
      have hhi : IsBinary64 (304000 : ℤ) := IsBinary64.intCast (by norm_num)
      obtain ⟨r, hr, hlor, -⟩ := hfp.round_mem hlo hhi (Int.floor_le (sec * 1000)) (by push_cast; linarith)
      have hfrac : sec * 1000 < ⌊sec * 1000⌋ + 1 := Int.lt_floor_add_one _
      rw [executeTimeoutMs, hgoal, show fp.mul (.finite sec) (.finite 1000) = .finite r from hr] at hmargin ⊢
      refine le_trans ?_ hmargin
      rw [boundedTimeoutMs]
      split_ifs
      · rcases min_choice r 300000 with hmin | hmin
        · rw [hmin]
          linarith
        · rw [hmin]
          linarith
      · linarith
    · apply hdefault
      · intro t ht
        rw [executeTimeoutMs, hgoal] at ht
        have hround : fp.round (sec * 1000) ≤ fp.round 0 := fp.monotone (by linarith)
        rw [show fp.round (sec * 1000) = .finite t from ht, fp.round_zero] at hround
        exact Double.finite_le_finite.mp hround
      · rw [Goal.grantedTimeoutSec, hgoal]
        exact if_neg hpos
  | _ =>
    apply hdefault
    · intro t ht
      rw [executeTimeoutMs, hgoal] at ht
      simp [Rounding.mul] at ht
    · rw [Goal.grantedTimeoutSec, hgoal]

/-- Every task of a goal has the same timeout; together they have the planning time that the
goal grants, up to the error of one rounding, and while that time is at most 304 s, no more
than the skill's client waits for the result. -/
theorem task_timeouts_within_wait (hformat : goal.planningTimeoutSec.IsBinary64) (hne : goal.candidates ≠ [])
    (hlt : goal.candidates.length < 2 ^ 53) : ∃ c : ℚ,
      (∀ env candidate candidateIndex task inputs,
        prepare fp env goal candidate candidateIndex = .ok (task, inputs) → task.candidateTimeoutSec = .finite c) ∧
      |goal.candidates.length * c - goal.grantedTimeoutSec| ≤
        goal.grantedTimeoutSec / 2 ^ 52 + goal.candidates.length * (2 : ℚ) ^ (-1074 : ℤ) ∧
      (goal.grantedTimeoutSec ≤ 304 →
        goal.candidates.length * c * 1000 ≤ (callTimeouts (executeTimeoutMs fp goal)).resultMs) := by
  obtain ⟨c, hc, herror⟩ := candidateTimeout_error hfp hformat hne hlt
  refine ⟨c, ?_, herror, ?_⟩
  · intro env candidate candidateIndex task inputs h
    rw [(taskOfGoal_of_ok h).candidateTimeoutSec, hc]
  · intro hle
    have hwait := granted_add_le_resultMs hfp hle
    have hlength : (goal.candidates.length : ℚ) ≤ 2 ^ 53 := by exact_mod_cast hlt.le
    have hsmall : (2 : ℚ) ^ (-1074 : ℤ) ≤ 2 ^ (-60 : ℤ) := zpow_le_zpow_right₀ one_le_two (by norm_num)
    have htiny : goal.candidates.length * (2 : ℚ) ^ (-1074 : ℤ) ≤ 1 / 4 := calc
      goal.candidates.length * (2 : ℚ) ^ (-1074 : ℤ) ≤ 2 ^ 53 * 2 ^ (-60 : ℤ) := by gcongr
      _ ≤ 1 / 4 := by norm_num
    have hshare : goal.grantedTimeoutSec / 2 ^ 52 ≤ 1 / 4 := by
      rw [div_le_iff₀ (by positivity)]
      linarith
    have hupper := (abs_le.mp herror).2
    linarith

end Budget

/-- Two candidates share the planning time of 1 s. -/
theorem task_timeouts_within_wait_two : ∃ c : ℚ,
    (∀ env candidate candidateIndex task inputs,
      prepare .exact env (Sample.goal [1, 1] 1) candidate candidateIndex = .ok (task, inputs) →
        task.candidateTimeoutSec = .finite c) ∧
    |(2 : ℕ) * c - 1| ≤ 1 / 2 ^ 52 + (2 : ℕ) * (2 : ℚ) ^ (-1074 : ℤ) ∧
    ((1 : ℚ) ≤ 304 → (2 : ℕ) * c * 1000 ≤ (6000 : ℤ)) := by
  have hformat : IsBinary64 (1 : ℤ) := IsBinary64.intCast (by norm_num)
  have hne : (Sample.goal [1, 1] 1).candidates ≠ [] := List.cons_ne_nil _ _
  have hlt : (Sample.goal [1, 1] 1).candidates.length < 2 ^ 53 := by decide
  have hwait : (callTimeouts (executeTimeoutMs .exact (Sample.goal [1, 1] 1))).resultMs = 6000 := by decide +kernel
  rw [← hwait]
  exact task_timeouts_within_wait Rounding.exact_keepsBinary64 (by exact_mod_cast hformat) hne hlt

end MoveitPlanning.Grasping
