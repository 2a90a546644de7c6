import Mathlib.Algebra.Order.Archimedean.Basic
import Mathlib.Data.Rat.Floor
import Mathlib.Tactic.Linarith
import MoveitPlanning.Foundation.Binary64

/-! The error of a rounding to the 64-bit format, in every rounding mode. A number that is not
beyond the format lies between two numbers of it that are neighbours, so it is rounded to
one that is off by less than their distance. -/

namespace MoveitPlanning.Foundation

variable {q b : ℚ}

theorem IsBinary64.le_max (hb : IsBinary64 b) : b ≤ (2 ^ 53 - 1) * (2 : ℚ) ^ (971 : ℤ) := by
  obtain ⟨m, e, hm, -, he, rfl⟩ := hb
  have hm' : m ≤ 2 ^ 53 - 1 := by
    have := le_abs_self m
    omega
  have hmq : (m : ℚ) ≤ 2 ^ 53 - 1 := by exact_mod_cast hm'
  have hpow : (2 : ℚ) ^ e ≤ 2 ^ (971 : ℤ) := zpow_le_zpow_right₀ one_le_two he
  have hnonneg : (0 : ℚ) ≤ 2 ^ 53 - 1 := by norm_num
  exact mul_le_mul hmq hpow (by positivity) hnonneg

theorem exists_exponent (hq : 0 ≤ q) (hmax : q ≤ (2 ^ 53 - 1) * (2 : ℚ) ^ (971 : ℤ)) :
    ∃ e : ℤ, -1074 ≤ e ∧ e ≤ 971 ∧ q < 2 ^ 53 * (2 : ℚ) ^ e ∧
      (2 : ℚ) ^ e ≤ q / 2 ^ 52 + (2 : ℚ) ^ (-1074 : ℤ) := by
  by_cases hsmall : q < 2 ^ 53 * (2 : ℚ) ^ (-1074 : ℤ)
  · exact ⟨-1074, le_rfl, by norm_num, hsmall, le_add_of_nonneg_left (by positivity)⟩
  · have hpos : 0 < q := lt_of_lt_of_le (by positivity) (not_lt.mp hsmall)
    obtain ⟨n, hle, hlt⟩ := exists_mem_Ico_zpow hpos one_lt_two
    have hshift : (2 : ℚ) ^ (n - 52) = 2 ^ n / 2 ^ 52 := by
      rw [zpow_sub₀ two_ne_zero]
      norm_num
    refine ⟨n - 52, ?_, ?_, ?_, ?_⟩
    · have hlt' : (2 : ℚ) ^ (-1021 : ℤ) < 2 ^ (n + 1) := by
        refine lt_of_le_of_lt ?_ hlt
        refine le_trans (le_of_eq ?_) (not_lt.mp hsmall)
        rw [← zpow_natCast (2 : ℚ) 53, ← zpow_add₀ two_ne_zero]
        norm_num
      have := (zpow_lt_zpow_iff_right₀ one_lt_two).mp hlt'
      omega
    · have hlt' : (2 : ℚ) ^ n < 2 ^ (1024 : ℤ) := by
        refine lt_of_le_of_lt (hle.trans hmax) ?_
        have hsplit : (2 : ℚ) ^ (1024 : ℤ) = 2 ^ 53 * 2 ^ (971 : ℤ) := by
          rw [← zpow_natCast (2 : ℚ) 53, ← zpow_add₀ two_ne_zero]
          norm_num
        rw [hsplit]
        gcongr
        norm_num
      have := (zpow_lt_zpow_iff_right₀ one_lt_two).mp hlt'
      omega
    · refine lt_of_lt_of_eq hlt ?_
      rw [hshift, zpow_add_one₀ two_ne_zero]
      ring
    · rw [hshift]
      have := div_le_div_of_nonneg_right hle (by positivity : (0 : ℚ) ≤ 2 ^ 52)
      have hpos' : (0 : ℚ) ≤ 2 ^ (-1074 : ℤ) := by positivity
      linarith

/-- The numbers of the format around a number that is not beyond it. -/
theorem exists_neighbours (hq : 0 ≤ q) (hb : IsBinary64 b) (hqb : q ≤ b) :
    ∃ lo hi, IsBinary64 lo ∧ IsBinary64 hi ∧ lo ≤ q ∧ q ≤ hi ∧ hi - lo ≤ q / 2 ^ 52 + (2 : ℚ) ^ (-1074 : ℤ) := by
  obtain ⟨e, he, he', hlt, hpow⟩ := exists_exponent hq (hqb.trans hb.le_max)
  have hpos : (0 : ℚ) < 2 ^ e := by positivity
  have hfloor : 0 ≤ ⌊q / 2 ^ e⌋ := Int.floor_nonneg.mpr (by positivity)
  have hfloor_lt : ⌊q / 2 ^ e⌋ < 2 ^ 53 := by
    rw [Int.floor_lt, div_lt_iff₀ hpos]
    push_cast
    exact hlt
  have hlo : ⌊q / 2 ^ e⌋ * (2 : ℚ) ^ e ≤ q := (le_div_iff₀ hpos).mp (Int.floor_le _)
  have hhi : q ≤ (⌊q / 2 ^ e⌋ + 1) * (2 : ℚ) ^ e := (div_le_iff₀ hpos).mp (Int.lt_floor_add_one _).le
  have hlo_format : IsBinary64 (⌊q / 2 ^ e⌋ * (2 : ℚ) ^ e) := ⟨_, e, by rwa [abs_of_nonneg hfloor], he, he', rfl⟩
  by_cases hnext : ⌊q / 2 ^ e⌋ + 1 < 2 ^ 53
  · refine ⟨_, (⌊q / 2 ^ e⌋ + 1) * (2 : ℚ) ^ e, hlo_format, ?_, hlo, hhi, by linarith⟩
    exact ⟨⌊q / 2 ^ e⌋ + 1, e, by rwa [abs_of_nonneg (by omega)], he, he', by push_cast; rfl⟩
  · have hlast : ⌊q / 2 ^ e⌋ = 2 ^ 53 - 1 := by omega
    rw [hlast] at hlo hhi hlo_format
    push_cast at hlo hhi hlo_format
    rcases he'.lt_or_eq with hlt971 | rfl
    · -- the next number has the next exponent
      refine ⟨_, 2 ^ 52 * (2 : ℚ) ^ (e + 1), hlo_format, ⟨2 ^ 52, e + 1, by norm_num, by omega, by omega, by norm_num⟩,
        hlo, ?_, ?_⟩
      · rw [zpow_add_one₀ two_ne_zero]
        linarith
      · rw [zpow_add_one₀ two_ne_zero]
        linarith
    · -- the number is the last of the format
      have hmax := hb.le_max
      rw [show (2 : ℚ) ^ 53 - 1 = 9007199254740991 by norm_num] at hmax
      obtain rfl : q = b := le_antisymm hqb (hmax.trans hlo)
      exact ⟨q, q, hb, hb, le_rfl, le_rfl, by rw [sub_self]; positivity⟩

theorem Rounding.KeepsBinary64.round_error {fp : Rounding} (hfp : fp.KeepsBinary64) (hq : 0 ≤ q) (hb : IsBinary64 b)
    (hqb : q ≤ b) : ∃ r, fp.round q = .finite r ∧ |r - q| ≤ q / 2 ^ 52 + (2 : ℚ) ^ (-1074 : ℤ) := by
  obtain ⟨lo, hi, hlo, hhi, hloq, hqhi, hdist⟩ := exists_neighbours hq hb hqb
  obtain ⟨r, hr, hlor, hrhi⟩ := hfp.round_mem hlo hhi hloq hqhi
  refine ⟨r, hr, abs_le.mpr ⟨?_, ?_⟩⟩
  · linarith
  · linarith

end MoveitPlanning.Foundation
