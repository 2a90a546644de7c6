import MoveitPlanning.Foundation.Double
import Mathlib.Data.Rat.Floor

/-! The conversion of a double to a signed integer type. It takes the whole part, and is
undefined when the type does not have it; not-a-number and the infinities have none. -/

namespace MoveitPlanning.Foundation

/-- The whole part of a number, without its fraction. -/
def wholePart (q : ℚ) : ℤ := if 0 ≤ q then ⌊q⌋ else ⌈q⌉

theorem one_le_wholePart {q : ℚ} : 1 ≤ wholePart q ↔ 1 ≤ q := by
  unfold wholePart
  split_ifs with hq
  · rw [Int.le_floor, Int.cast_one]
  · have hceil : ⌈q⌉ ≤ 0 := Int.ceil_le.mpr (by push_cast; linarith)
    exact iff_of_false (by omega) (by linarith)

theorem wholePart_lt {q : ℚ} (hq : 0 ≤ q) {n : ℤ} : wholePart q < n ↔ q < n := by
  rw [wholePart, if_pos hq, Int.floor_lt]

namespace Double

/-- `static_cast` to a signed integer type of so many bits; `none` where it is undefined. -/
def castInt (bits : ℕ) : Double → Option ℤ
  | finite q =>
    if -2 ^ (bits - 1) ≤ wholePart q ∧ wholePart q < 2 ^ (bits - 1) then some (wholePart q) else none
  | _ => none

/-- `std::ceil`. -/
def ceil : Double → Double
  | finite q => finite ⌈q⌉
  | d => d

/-- The numbers that are converted to a positive integer. -/
theorem castInt_pos_iff {bits : ℕ} {d : Double} : (∃ n, d.castInt bits = some n ∧ 1 ≤ n) ↔
    ∃ q, d = finite q ∧ 1 ≤ q ∧ q < 2 ^ (bits - 1) := by
  have hpow : (0 : ℤ) < 2 ^ (bits - 1) := by positivity
  constructor
  · rintro ⟨n, hcast, hn⟩
    cases d with
    | finite q =>
      rw [castInt] at hcast
      split_ifs at hcast with hrange
      obtain rfl := Option.some.inj hcast
      have hq := one_le_wholePart.mp hn
      exact ⟨q, rfl, hq, by exact_mod_cast (wholePart_lt (by linarith)).mp hrange.2⟩
    | _ => cases hcast
  · rintro ⟨q, rfl, hq, hlt⟩
    have hwhole := one_le_wholePart.mpr hq
    have hrange : wholePart q < 2 ^ (bits - 1) := (wholePart_lt (by linarith)).mpr (by exact_mod_cast hlt)
    exact ⟨wholePart q, if_pos ⟨by omega, hrange⟩, hwhole⟩

end Double

end MoveitPlanning.Foundation
