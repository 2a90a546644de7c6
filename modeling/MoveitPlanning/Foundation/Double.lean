import Mathlib.Algebra.Order.Ring.Rat
import Mathlib.Algebra.Order.Field.Basic
import Mathlib.Order.WithBot
import Mathlib.Tactic.Linarith
import Mathlib.Tactic.Positivity

/-! Double precision numbers, as far as comparisons and a few operations on them go: a
finite number is a rational, there are two infinities, and not-a-number compares with
nothing. A zero has no sign here. An operation on finite numbers is the exact one
followed by a rounding; of the rounding only what holds in every rounding mode is
used: it is monotone, exact on 0 and 1, and never not-a-number. -/

namespace MoveitPlanning.Foundation

inductive Double
  | nan
  | negInf
  | finite (q : ℚ)
  | posInf
  deriving DecidableEq, Repr

namespace Double

/-- The place of a number in the order, with not-a-number below everything. -/
def rank : Double → WithBot (WithBot (WithTop ℚ))
  | nan => ⊥
  | negInf => ((⊥ : WithBot (WithTop ℚ)) : WithBot (WithBot (WithTop ℚ)))
  | finite q => (((q : WithTop ℚ) : WithBot (WithTop ℚ)) : WithBot (WithBot (WithTop ℚ)))
  | posInf => (((⊤ : WithTop ℚ) : WithBot (WithTop ℚ)) : WithBot (WithBot (WithTop ℚ)))

theorem rank_injective : Function.Injective rank := by
  intro a b h
  cases a <;> cases b <;> simp_all [rank]

instance : LinearOrder Double := LinearOrder.lift' rank rank_injective

instance : Zero Double := ⟨finite 0⟩

instance : One Double := ⟨finite 1⟩

/-- `a < b` of the language: false when either is not-a-number. -/
def lt (a b : Double) : Bool := decide (a ≠ nan ∧ b ≠ nan ∧ a < b)

/-- `a <= b` of the language. -/
def le (a b : Double) : Bool := decide (a ≠ nan ∧ b ≠ nan ∧ a ≤ b)

def isFinite : Double → Bool
  | finite _ => true
  | _ => false

/-- `std::max`: the first argument unless it is less than the second. -/
def max (a b : Double) : Double := if a.lt b then b else a

/-- `std::min`. -/
def min (a b : Double) : Double := if b.lt a then b else a

@[simp] theorem finite_le_finite {p q : ℚ} : finite p ≤ finite q ↔ p ≤ q := by
  show rank (finite p) ≤ rank (finite q) ↔ p ≤ q
  simp [rank]

@[simp] theorem finite_lt_finite {p q : ℚ} : finite p < finite q ↔ p < q := by
  rw [← not_le, finite_le_finite, not_le]

@[simp] theorem le_posInf (a : Double) : a ≤ posInf := by
  show rank a ≤ rank posInf
  cases a <;> simp [rank]

@[simp] theorem negInf_le_finite (q : ℚ) : negInf ≤ finite q := by
  show rank negInf ≤ rank (finite q)
  simp [rank]

@[simp] theorem nan_le (a : Double) : nan ≤ a := by
  show rank nan ≤ rank a
  simp [rank]

theorem negInf_le {a : Double} (h : a ≠ nan) : negInf ≤ a := by
  cases a with
  | nan => exact absurd rfl h
  | negInf => exact le_rfl
  | finite q => exact negInf_le_finite q
  | posInf => exact le_posInf _

theorem not_posInf_le_finite (q : ℚ) : ¬posInf ≤ finite q := by
  show ¬rank posInf ≤ rank (finite q)
  simp [rank]

theorem not_finite_le_negInf (q : ℚ) : ¬finite q ≤ negInf := by
  show ¬rank (finite q) ≤ rank negInf
  simp [rank]

@[simp] theorem zero_def : (0 : Double) = finite 0 := rfl

@[simp] theorem one_def : (1 : Double) = finite 1 := rfl

theorem le_iff {a b : Double} (ha : a ≠ nan) (hb : b ≠ nan) : a.le b = true ↔ a ≤ b := by
  simp [le, ha, hb]

theorem lt_iff {a b : Double} (ha : a ≠ nan) (hb : b ≠ nan) : a.lt b = true ↔ a < b := by
  simp [lt, ha, hb]

theorem lt_finite {p q : ℚ} : (finite p).lt (finite q) = true ↔ p < q := by
  simp [lt]

end Double

/-- How the result of an operation on finite numbers is rounded. -/
structure Rounding where
  round : ℚ → Double
  round_ne_nan : ∀ q, round q ≠ Double.nan
  monotone : Monotone round
  round_zero : round 0 = 0
  round_one : round 1 = 1

/-- Rounding that changes nothing. -/
def Rounding.exact : Rounding where
  round := .finite
  round_ne_nan _ := by simp
  monotone _ _ h := by simpa using h
  round_zero := rfl
  round_one := rfl

namespace Rounding

variable (fp : Rounding)

def add : Double → Double → Double
  | .finite p, .finite q => fp.round (p + q)
  | .nan, _ => .nan
  | _, .nan => .nan
  | .posInf, .negInf => .nan
  | .negInf, .posInf => .nan
  | .posInf, _ => .posInf
  | _, .posInf => .posInf
  | .negInf, _ => .negInf
  | _, .negInf => .negInf

/-- A zero divisor counts as positive. -/
def div : Double → Double → Double
  | .finite p, .finite q =>
    if q ≠ 0 then fp.round (p / q)
    else if p = 0 then .nan else if 0 < p then .posInf else .negInf
  | .nan, _ => .nan
  | _, .nan => .nan
  | .finite _, _ => 0
  | .posInf, .finite q => if 0 ≤ q then .posInf else .negInf
  | .negInf, .finite q => if 0 ≤ q then .negInf else .posInf
  | _, _ => .nan

def mul : Double → Double → Double
  | .finite p, .finite q => fp.round (p * q)
  | .nan, _ => .nan
  | _, .nan => .nan
  | .finite p, b => if p = 0 then .nan else if 0 < p then b else if b = .posInf then .negInf else .posInf
  | a, .finite q => if q = 0 then .nan else if 0 < q then a else if a = .posInf then .negInf else .posInf
  | a, b => if a = b then .posInf else .negInf

end Rounding

namespace Double

theorem exists_finite_of_unit {a : Double} (h0 : (0 : Double) ≤ a) (h1 : a ≤ 1) :
    ∃ q, a = finite q ∧ 0 ≤ q ∧ q ≤ 1 := by
  cases a with
  | nan => exact absurd (h0.antisymm (nan_le _)) (by simp)
  | negInf => exact absurd h0 (not_finite_le_negInf 0)
  | finite q => exact ⟨q, rfl, by simpa using h0, by simpa using h1⟩
  | posInf => exact absurd h1 (not_posInf_le_finite 1)

theorem cases_of_nonneg {a : Double} (h : (0 : Double) ≤ a) :
    (∃ q, a = finite q ∧ 0 ≤ q) ∨ a = posInf := by
  cases a with
  | nan => exact absurd (h.antisymm (nan_le _)) (by simp)
  | negInf => exact absurd h (not_finite_le_negInf 0)
  | finite q => exact .inl ⟨q, rfl, by simpa using h⟩
  | posInf => exact .inr rfl

/-- `std::max(0.0, a)` is not negative, and 0 when `a` is not-a-number. -/
theorem zero_le_max (a : Double) : (0 : Double) ≤ max 0 a := by
  unfold max
  split_ifs with h
  · exact (of_decide_eq_true h).2.2.le
  · exact le_rfl

theorem max_zero_mono {a b : Double} (h : a = nan ∨ a.le b = true) : max 0 a ≤ max 0 b := by
  rcases h with rfl | h
  · exact zero_le_max b
  · obtain ⟨ha, hb, hab⟩ := of_decide_eq_true h
    by_cases hpos : Double.lt 0 a = true
    · have hb' : Double.lt 0 b = true := (lt_iff (by simp) hb).mpr (((lt_iff (by simp) ha).mp hpos).trans_le hab)
      simp only [max, hpos, hb', if_true]
      exact hab
    · rw [max, if_neg hpos]
      exact zero_le_max b

end Double

namespace Rounding

variable (fp : Rounding)

/-- Rounding stays within bounds that are exact. -/
theorem round_unit {q : ℚ} (h0 : 0 ≤ q) (h1 : q ≤ 1) :
    (0 : Double) ≤ fp.round q ∧ fp.round q ≤ 1 := by
  constructor
  · rw [← fp.round_zero]
    exact fp.monotone h0
  · rw [← fp.round_one]
    exact fp.monotone h1

/-- Adding to 1 what is not negative is monotone and does not fall below 1. -/
theorem one_add_mono {a b : Double} (h0 : (0 : Double) ≤ a) (hab : a ≤ b) :
    (1 : Double) ≤ fp.add 1 a ∧ fp.add 1 a ≤ fp.add 1 b := by
  have hround : ∀ q : ℚ, 0 ≤ q → (1 : Double) ≤ fp.round (1 + q) := fun q hq => by
    rw [← fp.round_one]
    exact fp.monotone (by linarith)
  rcases Double.cases_of_nonneg h0 with ⟨p, rfl, hp⟩ | rfl
  · rcases Double.cases_of_nonneg (h0.trans hab) with ⟨q, rfl, hq⟩ | rfl
    · refine ⟨hround p hp, fp.monotone ?_⟩
      have := Double.finite_le_finite.mp hab
      linarith
    · exact ⟨hround p hp, Double.le_posInf _⟩
  · obtain rfl : b = .posInf := le_antisymm (Double.le_posInf b) hab
    exact ⟨Double.le_posInf _, le_rfl⟩

theorem div_mono {a b : Double} (ha : a ≠ .nan) (hb : b ≠ .nan) (hab : a ≤ b) {q : ℚ} (hq : 0 < q) :
    fp.div a (.finite q) ≤ fp.div b (.finite q) ∧ fp.div b (.finite q) ≠ .nan := by
  have hfinite : ∀ p, fp.div (.finite p) (.finite q) = fp.round (p / q) := fun p => by
    rw [div, if_pos hq.ne']
  have hne : fp.div b (.finite q) ≠ .nan := by
    cases b with
    | nan => exact absurd rfl hb
    | finite p => exact hfinite p ▸ fp.round_ne_nan _
    | _ => simp [div, hq.le]
  refine ⟨?_, hne⟩
  cases a with
  | nan => exact absurd rfl ha
  | negInf =>
    rw [show fp.div .negInf (.finite q) = .negInf by simp [div, hq.le]]
    exact Double.negInf_le hne
  | posInf =>
    obtain rfl : b = .posInf := le_antisymm (Double.le_posInf b) hab
    exact le_rfl
  | finite p =>
    cases b with
    | nan => exact absurd rfl hb
    | negInf => exact absurd hab (Double.not_finite_le_negInf p)
    | posInf =>
      rw [show fp.div .posInf (.finite q) = .posInf by simp [div, hq.le]]
      exact Double.le_posInf _
    | finite p' =>
      rw [hfinite, hfinite]
      exact fp.monotone (div_le_div_of_nonneg_right (Double.finite_le_finite.mp hab) hq.le)

/-- The reciprocal of a number from 1 up lies between 0 and 1 and is antitone. -/
theorem one_div_antitone {a b : Double} (h1 : (1 : Double) ≤ a) (hab : a ≤ b) :
    fp.div 1 b ≤ fp.div 1 a ∧ (0 : Double) ≤ fp.div 1 a ∧ fp.div 1 a ≤ 1 := by
  have hone : (0 : Double) ≤ 1 := by simp
  have hdiv : ∀ q : ℚ, 1 ≤ q → fp.div 1 (.finite q) = fp.round (1 / q) := fun q hq => by
    have hq0 : q ≠ 0 := by linarith
    simp [div, hq0]
  have hunit : ∀ q : ℚ, 1 ≤ q → (0 : Double) ≤ fp.round (1 / q) ∧ fp.round (1 / q) ≤ 1 := fun q hq =>
    fp.round_unit (by positivity) ((div_le_one (by linarith)).mpr hq)
  have hle : ∀ {x : Double}, (1 : Double) ≤ x → (∃ q, x = .finite q ∧ 1 ≤ q) ∨ x = .posInf := fun {x} hx => by
    rcases Double.cases_of_nonneg (hone.trans hx) with ⟨q, rfl, -⟩ | rfl
    · exact .inl ⟨q, rfl, by simpa using hx⟩
    · exact .inr rfl
  rcases hle h1 with ⟨p, rfl, hp⟩ | rfl
  · rw [hdiv p hp]
    refine ⟨?_, hunit p hp⟩
    rcases hle (h1.trans hab) with ⟨q, rfl, hq⟩ | rfl
    · rw [hdiv q hq]
      exact fp.monotone (one_div_le_one_div_of_le (by linarith) (Double.finite_le_finite.mp hab))
    · exact (hunit p hp).1
  · obtain rfl : b = .posInf := le_antisymm (Double.le_posInf b) hab
    exact ⟨le_rfl, le_rfl, hone⟩

end Rounding

end MoveitPlanning.Foundation
