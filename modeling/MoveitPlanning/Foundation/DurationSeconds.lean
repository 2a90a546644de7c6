import MoveitPlanning.Foundation.RoundingError

/-! `rclcpp::Duration::seconds`: whole nanoseconds as a double number of seconds, which is
rounded twice. A limit `1.0 / rate` that the seconds reach is reached by the nanoseconds
themselves, but for a part in `2 ^ 50`; and when the limit is a whole number of
nanoseconds below `2 ^ 50`, it is reached exactly. -/

namespace MoveitPlanning.Foundation

def durationSeconds (fp : Rounding) (nanoseconds : ℤ) : Double :=
  fp.div (fp.round nanoseconds) (.finite 1000000000)

theorem durationSeconds_mono (fp : Rounding) {a b : ℤ} (h : a ≤ b) :
    durationSeconds fp a ≤ durationSeconds fp b ∧ durationSeconds fp b ≠ .nan := by
  have hround : fp.round a ≤ fp.round b := fp.monotone (by exact_mod_cast h)
  exact fp.div_mono (fp.round_ne_nan _) (fp.round_ne_nan _) hround (by norm_num)

theorem durationSeconds_zero (fp : Rounding) : durationSeconds fp 0 = .finite 0 := by
  have hzero := fp.round_zero
  rw [durationSeconds, Int.cast_zero, hzero, Double.zero_def, Rounding.div, if_pos (by norm_num), zero_div, hzero,
    Double.zero_def]

theorem one_div_pos_rate (fp : Rounding) {rate : Double} (h : Double.lt 0 rate = true) :
    (0 : Double) ≤ fp.div 1 rate ∧ fp.div 1 rate ≠ .nan := by
  obtain ⟨-, hnan, hlt⟩ := of_decide_eq_true h
  cases rate with
  | nan => exact absurd rfl hnan
  | negInf => exact absurd hlt.le (Double.not_finite_le_negInf 0)
  | posInf => exact ⟨le_rfl, by simp [Rounding.div]⟩
  | finite r =>
    have hr : 0 < r := Double.finite_lt_finite.mp hlt
    rw [Double.one_def, Rounding.div, if_pos hr.ne', ← fp.round_zero]
    exact ⟨fp.monotone (by positivity), fp.round_ne_nan _⟩

theorem le_of_period {r : ℚ} {n d : ℤ} (hn : 1 / r = n / 10 ^ 9) (hlt : n < 2 ^ 50)
    (h : (1 - 1 / 2 ^ 50) * (1 / r) ≤ d / 10 ^ 9) : n ≤ d := by
  have hlt' : (n : ℚ) < 2 ^ 50 := by exact_mod_cast hlt
  rw [hn] at h
  have hd : (n : ℚ) - 1 < d := by linarith
  have hd' : n - 1 < d := by exact_mod_cast hd
  omega

theorem smallest_le : (2 : ℚ) ^ (-1074 : ℤ) ≤ 1 / 2 ^ 100 := by
  rw [one_div, ← zpow_natCast, ← zpow_neg]
  exact zpow_le_zpow_right₀ one_le_two (by norm_num)

namespace Rounding.KeepsBinary64

variable {fp : Rounding} (hfp : fp.KeepsBinary64)
include hfp

/-- Seconds that are not negative are those of nanoseconds that are not. -/
theorem nonneg_of_durationSeconds {d : ℤ} (h : (0 : Double) ≤ durationSeconds fp d) : 0 ≤ d := by
  by_contra! hneg
  have hminus : IsBinary64 ((-1 : ℤ) : ℚ) := .intCast (by norm_num)
  have hsmall : IsBinary64 (-(2 : ℚ) ^ (-30 : ℤ)) := ⟨-1, -30, by norm_num, by norm_num, by norm_num, by norm_num⟩
  have hle : durationSeconds fp d ≤ .finite (-(2 : ℚ) ^ (-30 : ℤ)) := by
    refine (durationSeconds_mono fp (show d ≤ -1 by omega)).1.trans ?_
    rw [durationSeconds, hfp _ hminus, Rounding.div, if_pos (by norm_num)]
    exact hfp.round_le hsmall (by norm_num)
  have := Double.finite_le_finite.mp (h.trans hle)
  norm_num at this

theorem durationSeconds_le {d : ℤ} (hpos : 0 < d) (hd : d < 2 ^ 63) : ∃ s, durationSeconds fp d = .finite s ∧
    s ≤ d / 10 ^ 9 * (1 + 1 / 2 ^ 51 + 1 / 2 ^ 60) := by
  have hone : (1 : ℚ) ≤ d := by exact_mod_cast hpos
  have hbound : (d : ℚ) ≤ 2 ^ 63 := by exact_mod_cast hd.le
  have hformat (n : ℕ) (hn : (n : ℤ) ≤ 971) : IsBinary64 ((2 : ℚ) ^ n) :=
    ⟨1, n, by norm_num, by omega, hn, by rw [Int.cast_one, one_mul, zpow_natCast]⟩
  have htiny := smallest_le
  obtain ⟨a, ha, hclose⟩ := hfp.round_error (by linarith) (hformat 63 (by norm_num)) hbound
  obtain ⟨hge, hle⟩ := abs_le.mp hclose
  have ha0 : 0 ≤ a / 1000000000 := by linarith
  obtain ⟨s, hs, hclose'⟩ := hfp.round_error ha0 (hformat 64 (by norm_num)) (by linarith)
  refine ⟨s, ?_, ?_⟩
  · rw [durationSeconds, ha, Rounding.div, if_pos (by norm_num), hs]
  · have := (abs_le.mp hclose').2
    linarith

/-- The nanoseconds have reached the period when their seconds have. -/
theorem period_le {r : ℚ} (hr : 0 < r) (hformat : IsBinary64 r) {d : ℤ} (hd : d < 2 ^ 63)
    (h : fp.div 1 (.finite r) ≤ durationSeconds fp d) : (1 - 1 / 2 ^ 50) * (1 / r) ≤ d / 10 ^ 9 := by
  have hrate : Double.lt 0 (.finite r) = true := Double.lt_finite.mpr hr
  have hd0 : 0 ≤ d := hfp.nonneg_of_durationSeconds ((one_div_pos_rate fp hrate).1.trans h)
  rw [Double.one_def, Rounding.div, if_pos hr.ne'] at h
  have htiny : IsBinary64 ((2 : ℚ) ^ (-1074 : ℤ)) := ⟨1, -1074, by norm_num, le_rfl, by norm_num, by norm_num⟩
  have hmin : (2 : ℚ) ^ (-1074 : ℤ) ≤ 1 / r := by
    have hmax : r ≤ 2 ^ (1074 : ℤ) := hformat.le_max.trans (by
      rw [show (1074 : ℤ) = (103 : ℕ) + 971 by norm_num, zpow_add₀ two_ne_zero, zpow_natCast]
      gcongr
      norm_num)
    rw [zpow_neg, ← one_div]
    exact one_div_le_one_div_of_le hr hmax
  have hpos : 0 < d := by
    refine hd0.lt_of_ne fun hzero => ?_
    rw [← hzero, durationSeconds_zero] at h
    have := Double.finite_le_finite.mp ((hfp.le_round htiny hmin).trans h)
    exact absurd this (not_le.mpr (by positivity))
  obtain ⟨s, hs, hle⟩ := hfp.durationSeconds_le hpos hd
  rw [hs] at h
  have hone : (1 : ℚ) ≤ d := by exact_mod_cast hpos
  have hbound : (d : ℚ) ≤ 2 ^ 63 := by exact_mod_cast hd.le
  have hbig : IsBinary64 ((2 : ℚ) ^ 63) := ⟨1, 63, by norm_num, by norm_num, by norm_num, by norm_num⟩
  have hlimit : 1 / r ≤ 2 ^ 63 := by
    by_contra! hlt
    have := Double.finite_le_finite.mp ((hfp.le_round hbig hlt.le).trans h)
    linarith
  obtain ⟨p, hp, hclose⟩ := hfp.round_error (by positivity) hbig hlimit
  rw [hp, Double.finite_le_finite] at h
  have hsmall := smallest_le
  have := (abs_le.mp hclose).1
  linarith

end Rounding.KeepsBinary64

end MoveitPlanning.Foundation
