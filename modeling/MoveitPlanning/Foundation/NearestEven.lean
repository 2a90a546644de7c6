import Mathlib.Data.Int.Log
import MoveitPlanning.Foundation.RoundingError

/-! The rounding of the default mode: to the nearest number of the 64-bit format, and from
the middle of two of them to the even one. What is rounded to `2 ^ 1024` or more is
infinite. The numbers of the format near `q` are the multiples of one power of two,
so rounding is a matter of rounding to an integer. -/

namespace MoveitPlanning.Foundation

/-! ### To an integer -/

/-- The nearest integer, the even one of two that are equally near. -/
def halfEven (x : ℚ) : ℤ :=
  if x - ⌊x⌋ < 1 / 2 then ⌊x⌋
  else if 1 / 2 < x - ⌊x⌋ then ⌊x⌋ + 1
  else ⌊x⌋ + ⌊x⌋ % 2

theorem halfEven_intCast (n : ℤ) : halfEven n = n := by
  rw [halfEven, Int.floor_intCast, if_pos (by norm_num)]

theorem floor_le_halfEven (x : ℚ) : ⌊x⌋ ≤ halfEven x ∧ halfEven x ≤ ⌊x⌋ + 1 := by
  unfold halfEven
  split_ifs <;> omega

theorem halfEven_mono {x y : ℚ} (h : x ≤ y) : halfEven x ≤ halfEven y := by
  rcases (Int.floor_le_floor h).lt_or_eq with hlt | heq
  · have hx := (floor_le_halfEven x).2
    have hy := (floor_le_halfEven y).1
    omega
  · have hy := floor_le_halfEven y
    unfold halfEven at hy ⊢
    rw [heq]
    split_ifs at hy ⊢ <;> first | omega | linarith

/-! ### To the format -/

/-- The exponent of the last place of a number of the size of `q`. -/
def lastPlace (q : ℚ) : ℤ := max (Int.log 2 q - 52) (-1074)

/-- What a number from 0 up is rounded to if the format has no end. -/
def roundNonneg (q : ℚ) : ℚ := halfEven (q / 2 ^ lastPlace q) * 2 ^ lastPlace q

theorem roundNonneg_zero : roundNonneg 0 = 0 := by
  rw [roundNonneg, zero_div, ← Int.cast_zero (R := ℚ), halfEven_intCast, Int.cast_zero, zero_mul]

theorem roundNonneg_nonneg {q : ℚ} (hq : 0 ≤ q) : 0 ≤ roundNonneg q := by
  have hint : halfEven 0 ≤ halfEven (q / 2 ^ lastPlace q) := halfEven_mono (by positivity)
  have hzero : halfEven 0 = 0 := halfEven_intCast 0
  rw [hzero] at hint
  have hcast : (0 : ℚ) ≤ halfEven (q / 2 ^ lastPlace q) := by exact_mod_cast hint
  exact mul_nonneg hcast (by positivity)

theorem lt_lastPlace (q : ℚ) : q < 2 ^ 53 * 2 ^ lastPlace q := by
  have hlog : q < 2 ^ (Int.log 2 q + 1) := Int.lt_zpow_succ_log_self one_lt_two q
  refine hlog.trans_le ?_
  rw [← zpow_natCast (2 : ℚ) 53, ← zpow_add₀ two_ne_zero]
  refine zpow_le_zpow_right₀ one_le_two ?_
  have := le_max_left (Int.log 2 q - 52) (-1074)
  rw [lastPlace]
  push_cast
  omega

theorem lastPlace_le {q : ℚ} (hq : 0 < q) (h : -1074 < lastPlace q) : 2 ^ 52 * 2 ^ lastPlace q ≤ q := by
  have hlast : lastPlace q = Int.log 2 q - 52 := by
    rw [lastPlace] at h ⊢
    omega
  have hlog : (2 : ℚ) ^ Int.log 2 q ≤ q := Int.zpow_log_le_self one_lt_two hq
  refine le_trans (le_of_eq ?_) hlog
  rw [hlast, ← zpow_natCast (2 : ℚ) 52, ← zpow_add₀ two_ne_zero]
  congr 1
  push_cast
  omega

theorem roundNonneg_mono {p q : ℚ} (hp : 0 ≤ p) (h : p ≤ q) : roundNonneg p ≤ roundNonneg q := by
  rcases hp.eq_or_lt with rfl | hp
  · rw [roundNonneg_zero]
    exact roundNonneg_nonneg h
  have hlast : lastPlace p ≤ lastPlace q := max_le_max_right _ (sub_le_sub_right (Int.log_mono_right hp h) _)
  rcases hlast.lt_or_eq with hlt | heq
  · -- a power of two lies between them
    have hpow : (2 : ℚ) ^ 53 * 2 ^ lastPlace p ≤ 2 ^ 52 * 2 ^ lastPlace q := calc
      (2 : ℚ) ^ 53 * 2 ^ lastPlace p = 2 ^ 52 * 2 ^ (lastPlace p + 1) := by rw [zpow_add_one₀ two_ne_zero]; ring
      _ ≤ 2 ^ 52 * 2 ^ lastPlace q := by
        have := zpow_le_zpow_right₀ (show (1 : ℚ) ≤ 2 from one_le_two) (Int.add_one_le_iff.mpr hlt)
        gcongr
    have hle : halfEven (p / 2 ^ lastPlace p) ≤ 2 ^ 53 := by
      rw [← halfEven_intCast (2 ^ 53)]
      refine halfEven_mono ((div_le_iff₀ (by positivity)).mpr ?_)
      push_cast
      exact (lt_lastPlace p).le
    have hge : 2 ^ 52 ≤ halfEven (q / 2 ^ lastPlace q) := by
      rw [← halfEven_intCast (2 ^ 52)]
      refine halfEven_mono ((le_div_iff₀ (by positivity)).mpr ?_)
      push_cast
      exact lastPlace_le (hp.trans_le h) ((le_max_right _ _).trans_lt hlt)
    have hle' : (halfEven (p / 2 ^ lastPlace p) : ℚ) ≤ 2 ^ 53 := by exact_mod_cast hle
    have hge' : (2 : ℚ) ^ 52 ≤ halfEven (q / 2 ^ lastPlace q) := by exact_mod_cast hge
    calc roundNonneg p ≤ 2 ^ 53 * 2 ^ lastPlace p := mul_le_mul_of_nonneg_right hle' (by positivity)
      _ ≤ 2 ^ 52 * 2 ^ lastPlace q := hpow
      _ ≤ roundNonneg q := mul_le_mul_of_nonneg_right hge' (by positivity)
  · rw [roundNonneg, roundNonneg, heq]
    have hint : halfEven (p / 2 ^ lastPlace q) ≤ halfEven (q / 2 ^ lastPlace q) :=
      halfEven_mono (by gcongr)
    have hcast : (halfEven (p / 2 ^ lastPlace q) : ℚ) ≤ halfEven (q / 2 ^ lastPlace q) := by exact_mod_cast hint
    exact mul_le_mul_of_nonneg_right hcast (by positivity)

theorem roundNonneg_of_isBinary64 {q : ℚ} (h : IsBinary64 q) (hq : 0 < q) : roundNonneg q = q := by
  obtain ⟨m, e, hm, he, -, rfl⟩ := h
  have hlog : Int.log 2 (m * (2 : ℚ) ^ e) < e + 53 := by
    refine (Int.lt_zpow_iff_log_lt one_lt_two hq).mp ?_
    have hm' : (m : ℚ) < 2 ^ 53 := by exact_mod_cast (le_abs_self m).trans_lt hm
    calc (m : ℚ) * 2 ^ e < 2 ^ 53 * 2 ^ e := by gcongr
      _ = ((2 : ℕ) : ℚ) ^ (e + 53) := by rw [Nat.cast_two, zpow_add₀ two_ne_zero, mul_comm]; rfl
  have hlast : lastPlace (m * (2 : ℚ) ^ e) ≤ e := max_le (by omega) he
  obtain ⟨k, hk⟩ := Int.le.dest hlast
  have hquot : m * (2 : ℚ) ^ e / 2 ^ lastPlace (m * (2 : ℚ) ^ e) = (m * 2 ^ k : ℤ) := by
    rw [div_eq_iff (by positivity)]
    have hpow : (2 : ℚ) ^ e = 2 ^ k * 2 ^ lastPlace (m * (2 : ℚ) ^ e) := by
      rw [← zpow_natCast, ← zpow_add₀ two_ne_zero, add_comm (k : ℤ), hk]
    push_cast
    rw [mul_assoc, ← hpow]
  rw [roundNonneg, hquot, halfEven_intCast, ← hquot, div_mul_cancel₀ _ (by positivity)]

def roundUnbounded (q : ℚ) : ℚ := if 0 ≤ q then roundNonneg q else -roundNonneg (-q)

theorem roundUnbounded_mono : Monotone roundUnbounded := by
  intro p q h
  unfold roundUnbounded
  split_ifs with hp hq hq
  · exact roundNonneg_mono hp h
  · exact absurd (hp.trans h) hq
  · have := roundNonneg_nonneg (neg_nonneg.mpr (not_le.mp hp).le)
    have := roundNonneg_nonneg hq
    linarith
  · exact neg_le_neg (roundNonneg_mono (neg_nonneg.mpr (not_le.mp hq).le) (neg_le_neg h))

theorem IsBinary64.neg {q : ℚ} (h : IsBinary64 q) : IsBinary64 (-q) := by
  obtain ⟨m, e, hm, he, he', rfl⟩ := h
  exact ⟨-m, e, by rwa [abs_neg], he, he', by push_cast; ring⟩

theorem roundUnbounded_of_isBinary64 {q : ℚ} (h : IsBinary64 q) : roundUnbounded q = q := by
  unfold roundUnbounded
  split_ifs with hq
  · rcases hq.eq_or_lt with rfl | hq
    · exact roundNonneg_zero
    · exact roundNonneg_of_isBinary64 h hq
  · rw [roundNonneg_of_isBinary64 h.neg (by linarith), neg_neg]

/-! ### Overflow -/

/-- What is beyond the format becomes infinite. -/
def overflow (q : ℚ) : Double :=
  if 2 ^ (1024 : ℤ) ≤ q then .posInf else if q ≤ -2 ^ (1024 : ℤ) then .negInf else .finite q

theorem overflow_mono : Monotone overflow := by
  intro p q h
  unfold overflow
  split_ifs
  · exact le_rfl
  · linarith
  · linarith
  · exact Double.le_posInf _
  · exact le_rfl
  · exact Double.negInf_le_finite q
  · exact Double.le_posInf _
  · linarith
  · exact Double.finite_le_finite.mpr h

theorem overflow_of_isBinary64 {q : ℚ} (h : IsBinary64 q) : overflow q = .finite q := by
  have hmax : (2 ^ 53 - 1) * (2 : ℚ) ^ (971 : ℤ) < 2 ^ (1024 : ℤ) := by
    rw [show (1024 : ℤ) = (53 : ℕ) + 971 by norm_num, zpow_add₀ two_ne_zero, zpow_natCast]
    gcongr
    norm_num
  have hle := h.le_max.trans_lt hmax
  have hge := h.neg.le_max.trans_lt hmax
  rw [overflow, if_neg hle.not_ge, if_neg (by linarith)]

/-- Round to nearest, ties to even. -/
def Rounding.nearestEven : Rounding where
  round q := overflow (roundUnbounded q)
  round_ne_nan q := by
    unfold overflow
    split_ifs <;> simp
  monotone := overflow_mono.comp roundUnbounded_mono
  round_zero := by
    have hzero : IsBinary64 0 := by exact_mod_cast IsBinary64.intCast (n := 0) (by norm_num)
    rw [roundUnbounded_of_isBinary64 hzero, overflow_of_isBinary64 hzero, Double.zero_def]
  round_one := by
    have hone : IsBinary64 1 := by exact_mod_cast IsBinary64.intCast (n := 1) (by norm_num)
    rw [roundUnbounded_of_isBinary64 hone, overflow_of_isBinary64 hone, Double.one_def]

theorem Rounding.nearestEven_keepsBinary64 : Rounding.nearestEven.KeepsBinary64 := fun q h => by
  show overflow (roundUnbounded q) = .finite q
  rw [roundUnbounded_of_isBinary64 h, overflow_of_isBinary64 h]

example : Rounding.nearestEven.round (1 / 10) = .finite (3602879701896397 / 2 ^ 55) := by decide +kernel

example : Rounding.nearestEven.round (2 ^ 53 + 1) = .finite (2 ^ 53) := by decide +kernel

end MoveitPlanning.Foundation
