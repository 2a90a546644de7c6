import MoveitPlanning.Foundation.Double
import Mathlib.Algebra.Order.Field.Power
import Mathlib.Tactic.NormNum
import Mathlib.Tactic.Ring

/-! The finite numbers of the 64-bit format, and roundings that leave them as they are. A
number of the format is an integer of 53 bits times a power of two, so from `2 ^ (e + 52)`
up two of them are at least `2 ^ e` apart. -/

namespace MoveitPlanning.Foundation

/-- A finite number of the format. -/
def IsBinary64 (q : ℚ) : Prop :=
  ∃ m e : ℤ, |m| < 2 ^ 53 ∧ -1074 ≤ e ∧ e ≤ 971 ∧ q = m * (2 : ℚ) ^ e

/-- Not-a-number and the infinities are numbers of the format too. -/
def Double.IsBinary64 : Double → Prop
  | .finite q => Foundation.IsBinary64 q
  | _ => True

/-- The rounding of a number of the format is that number, in every rounding mode. -/
def Rounding.KeepsBinary64 (fp : Rounding) : Prop := ∀ q, IsBinary64 q → fp.round q = .finite q

theorem Rounding.exact_keepsBinary64 : Rounding.exact.KeepsBinary64 := fun _ _ => rfl

theorem IsBinary64.intCast {n : ℤ} (h : |n| < 2 ^ 53) : IsBinary64 n :=
  ⟨n, 0, h, by norm_num, by norm_num, by rw [zpow_zero, mul_one]⟩

/-- What is above a multiple of `2 ^ e`, from `2 ^ (e + 52)` up, is so by `2 ^ e`. -/
theorem IsBinary64.succ_le {q : ℚ} (hq : IsBinary64 q) {n e : ℤ} (hn : 2 ^ 52 ≤ n)
    (hlt : n * (2 : ℚ) ^ e < q) : (n + 1) * (2 : ℚ) ^ e ≤ q := by
  obtain ⟨m, e', hm, -, -, rfl⟩ := hq
  have hpos : (0 : ℚ) < 2 ^ e := by positivity
  rcases le_or_gt e e' with he | he
  · -- the number is a multiple of `2 ^ e` itself
    obtain ⟨k, rfl⟩ := Int.le.dest he
    have hmul : (m : ℚ) * 2 ^ (e + k) = (m * 2 ^ k : ℤ) * (2 : ℚ) ^ e := by
      rw [zpow_add₀ two_ne_zero, zpow_natCast]
      push_cast
      ring
    rw [hmul] at hlt ⊢
    have hint : n < m * 2 ^ k := by
      have := lt_of_mul_lt_mul_right hlt hpos.le
      exact_mod_cast this
    have hsucc : ((n + 1 : ℤ) : ℚ) ≤ (m * 2 ^ k : ℤ) := by exact_mod_cast hint
    push_cast at hsucc ⊢
    exact mul_le_mul_of_nonneg_right hsucc hpos.le
  · -- a smaller exponent leaves the number below `2 ^ (e + 52)`
    exfalso
    have hm' : (m : ℚ) ≤ 2 ^ 53 := by exact_mod_cast (le_abs_self m).trans hm.le
    have hhalf : (2 : ℚ) ^ e' ≤ 2 ^ (e - 1) := zpow_le_zpow_right₀ one_le_two (by omega)
    have hn' : (2 : ℚ) ^ 52 ≤ n := by exact_mod_cast hn
    have hle : (m : ℚ) * 2 ^ e' ≤ n * 2 ^ e := calc
      (m : ℚ) * 2 ^ e' ≤ 2 ^ 53 * 2 ^ (e - 1) := by gcongr
      _ = 2 ^ 52 * 2 ^ e := by rw [zpow_sub_one₀ two_ne_zero]; ring
      _ ≤ n * 2 ^ e := by gcongr
    exact absurd hlt hle.not_gt

namespace Rounding.KeepsBinary64

variable {fp : Rounding} (hfp : fp.KeepsBinary64) {b q : ℚ}
include hfp

theorem le_round (hb : IsBinary64 b) (h : b ≤ q) : .finite b ≤ fp.round q := by
  rw [← hfp b hb]
  exact fp.monotone h

theorem round_le (hb : IsBinary64 b) (h : q ≤ b) : fp.round q ≤ .finite b := by
  rw [← hfp b hb]
  exact fp.monotone h

/-- What lies between two numbers of the format is rounded to a number between them. -/
theorem round_mem {a : ℚ} (ha : IsBinary64 a) (hb : IsBinary64 b) (haq : a ≤ q) (hqb : q ≤ b) :
    ∃ r, fp.round q = .finite r ∧ a ≤ r ∧ r ≤ b := by
  have hle := hfp.le_round ha haq
  have hge := hfp.round_le hb hqb
  cases hr : fp.round q with
  | nan => exact absurd hr (fp.round_ne_nan q)
  | negInf => exact absurd (hr ▸ hle) (Double.not_finite_le_negInf a)
  | posInf => exact absurd (hr ▸ hge) (Double.not_posInf_le_finite b)
  | finite r =>
    rw [hr, Double.finite_le_finite] at hle hge
    exact ⟨r, rfl, hle, hge⟩

end Rounding.KeepsBinary64

end MoveitPlanning.Foundation
