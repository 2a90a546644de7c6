import MoveitPlanning.Foundation.Binary64

/-! Doubles that are finite and positive, and where the operations leave them. A quotient
is lost when it underflows, a difference when it overflows or one of its terms is infinite.
A running minimum or maximum passes over not-a-number, so what it knows of a list are the
other numbers. -/

namespace MoveitPlanning.Foundation

/-! ### Finite and positive -/

namespace Double

def IsPositive : Double → Prop
  | finite q => 0 < q
  | _ => False

instance : DecidablePred IsPositive
  | finite q => inferInstanceAs (Decidable (0 < q))
  | nan => .isFalse not_false
  | negInf => .isFalse not_false
  | posInf => .isFalse not_false

def neg : Double → Double
  | nan => nan
  | negInf => posInf
  | finite q => finite (-q)
  | posInf => negInf

/-- A number that is tested with `> 0` is positive unless it is infinite. -/
theorem isPositive_iff_of_lt {d : Double} (h : lt 0 d = true) : d.IsPositive ↔ d ≠ posInf := by
  cases d with
  | nan => simp [lt] at h
  | negInf => exact absurd (of_decide_eq_true h).2.2 (not_lt.mpr (negInf_le_finite 0))
  | finite q => exact iff_of_true (lt_finite.mp h) (by simp)
  | posInf => simp [IsPositive]

/-- A number that is tested with `<= 0` is not positive when it is infinite, or not a number. -/
theorem isPositive_iff_of_le {d : Double} (h : d.le 0 = false) : d.IsPositive ↔ d.isFinite = true := by
  cases d with
  | finite q =>
    have hpos : ¬finite q ≤ finite 0 := fun hle => absurd h (by simp [le, hle])
    exact iff_of_true (not_le.mp (by simpa using hpos) : 0 < q) rfl
  | _ => simp [IsPositive, isFinite]

end Double

namespace Rounding

variable (fp : Rounding)

def sub (a b : Double) : Double := fp.add a b.neg

/-- Of what is not negative, up to half of the least positive number is rounded to 0: so
does rounding to the nearest, with ties to even. -/
def Underflows : Prop := ∀ q, 0 ≤ q → (fp.round q = 0 ↔ q ≤ (2 : ℚ) ^ (-1075 : ℤ))

variable {fp}

theorem isPositive_div_iff (hfp : fp.KeepsBinary64) (hunderflow : fp.Underflows) {t : ℚ} (ht : IsBinary64 t)
    (hpos : 0 < t) {count : Double} (hcount : 1 ≤ count) :
    (fp.div (.finite t) count).IsPositive ↔ ∃ q, count = .finite q ∧ (2 : ℚ) ^ (-1075 : ℤ) < t / q := by
  rcases Double.cases_of_nonneg ((show (0 : Double) ≤ 1 by simp).trans hcount) with ⟨q, rfl, -⟩ | rfl
  · have hq : 1 ≤ q := by simpa using hcount
    have hquot : 0 ≤ t / q := by positivity
    have hdiv : fp.div (.finite t) (.finite q) = fp.round (t / q) := by rw [div, if_pos (by positivity)]
    have hzero : IsBinary64 0 := by exact_mod_cast IsBinary64.intCast (n := 0) (by norm_num)
    obtain ⟨r, hr, hr0, -⟩ := hfp.round_mem hzero ht hquot (div_le_self hpos.le hq)
    have hflushed := hunderflow (t / q) hquot
    rw [hr, Double.zero_def, Double.finite.injEq] at hflushed
    rw [hdiv, hr]
    constructor
    · intro h
      have hr1 : 0 < r := h
      exact ⟨q, rfl, not_le.mp fun hle => hr1.ne' (hflushed.mpr hle)⟩
    · rintro ⟨q', hq', hlt⟩
      obtain rfl := Double.finite.inj hq'
      exact hr0.lt_of_ne fun h0 => absurd (hflushed.mp h0.symm) (not_le.mpr hlt)
  · exact iff_of_false (by simp [div, Double.IsPositive]) (by rintro ⟨q, hq, -⟩; cases hq)

/-- Rounding that only changes what underflows. -/
def flush : Rounding where
  round q := if |q| ≤ (2 : ℚ) ^ (-1075 : ℤ) then 0 else .finite q
  round_ne_nan q := by split_ifs <;> simp
  monotone p q h := by
    dsimp only
    split_ifs with hp hq hq
    · exact le_rfl
    · have hpos : 0 ≤ q := by
        by_contra hneg
        rw [abs_of_neg (not_le.mp hneg)] at hq
        rw [abs_of_neg (h.trans_lt (not_le.mp hneg))] at hp
        linarith
      simpa using hpos
    · have hneg : p ≤ 0 := by
        by_contra hpos
        rw [abs_of_pos (not_le.mp hpos)] at hp
        rw [abs_of_pos ((not_le.mp hpos).trans_le h)] at hq
        linarith
      simpa using hneg
    · simpa using h
  round_zero := if_pos (by rw [abs_zero]; positivity)
  round_one := if_neg (by
    rw [abs_one, not_le]
    exact zpow_lt_one_of_neg₀ (by norm_num) (by norm_num))

theorem flush_underflows : flush.Underflows := by
  intro q hq
  rw [show flush.round q = if |q| ≤ (2 : ℚ) ^ (-1075 : ℤ) then 0 else .finite q from rfl, abs_of_nonneg hq]
  split_ifs with hle
  · exact iff_of_true rfl hle
  · refine iff_of_false (fun h => hle ?_) hle
    rw [Double.finite.inj h]
    positivity

theorem flush_keepsBinary64 : flush.KeepsBinary64 := by
  intro q hq
  rw [show flush.round q = if |q| ≤ (2 : ℚ) ^ (-1075 : ℤ) then 0 else .finite q from rfl]
  split_ifs with hle
  · obtain ⟨m, e, -, he, -, rfl⟩ := hq
    -- a number of the format other than 0 is at least `2 ^ (-1074)`
    have hm : m = 0 := by
      by_contra hm
      have hone : (1 : ℚ) ≤ |(m : ℚ)| := by exact_mod_cast Int.one_le_abs hm
      have hpow : (2 : ℚ) ^ (-1075 : ℤ) < 2 ^ e := zpow_lt_zpow_right₀ one_lt_two (by omega)
      rw [abs_mul, abs_of_pos (by positivity : (0 : ℚ) < 2 ^ e)] at hle
      exact absurd hle (not_le.mpr (hpow.trans_le (le_mul_of_one_le_left (by positivity) hone)))
    rw [hm]
    simp
  · rfl

end Rounding

/-! ### Running bounds -/

/-- A fold that picks one of two, where an `ok` value is before all the `ok` ones seen. -/
theorem foldl_pick {α : Type*} {r : α → α → Prop} [IsPreorder α r] {pick : α → α → α} {ok : α → Prop}
    (hpick : ∀ a b, ok a → r (pick a b) a ∧ (ok b → r (pick a b) b) ∧ (pick a b = a ∨ pick a b = b ∧ ok b))
    (cs : List α) {a : α} (ha : ok a) : ok (cs.foldl pick a) ∧ r (cs.foldl pick a) a ∧
      (∀ c ∈ cs, ok c → r (cs.foldl pick a) c) ∧ (cs.foldl pick a = a ∨ cs.foldl pick a ∈ cs) := by
  induction cs generalizing a with
  | nil => exact ⟨ha, refl_of r a, by simp, .inl rfl⟩
  | cons c cs ih =>
    obtain ⟨hle, hle', hone⟩ := hpick a c ha
    have hok : ok (pick a c) := by
      rcases hone with h | ⟨h, hc⟩
      · rwa [h]
      · rwa [h]
    obtain ⟨hokm, hm, hall, hmem⟩ := ih hok
    refine ⟨hokm, trans_of r hm hle, fun d hd hdok => ?_, ?_⟩
    · rcases List.mem_cons.mp hd with rfl | hd
      · exact trans_of r hm (hle' hdok)
      · exact hall d hd hdok
    · rcases hmem with hmem | hmem
      · rcases hone with h | ⟨h, -⟩
        · exact .inl (hmem.trans h)
        · exact .inr (List.mem_cons.mpr (.inl (hmem.trans h)))
      · exact .inr (List.mem_cons_of_mem c hmem)

namespace Double

def runningMin (cs : List Double) : Double := cs.foldl min posInf

def runningMax (cs : List Double) : Double := cs.foldl max negInf

/-- Below every number of the list that is one, and one of them unless there are none. -/
theorem runningMin_spec (cs : List Double) : runningMin cs ≠ nan ∧ (∀ c ∈ cs, c ≠ nan → runningMin cs ≤ c) ∧
    (runningMin cs = posInf ∨ runningMin cs ∈ cs) := by
  have hpick : ∀ a b : Double, a ≠ nan →
      min a b ≤ a ∧ (b ≠ nan → min a b ≤ b) ∧ (min a b = a ∨ min a b = b ∧ b ≠ nan) := fun a b ha => by
    rw [min]
    split_ifs with h
    · obtain ⟨hb, -, hlt⟩ := of_decide_eq_true h
      exact ⟨hlt.le, fun _ => le_rfl, .inr ⟨rfl, hb⟩⟩
    · exact ⟨le_rfl, fun hb => not_lt.mp fun hlt => h ((lt_iff hb ha).mpr hlt), .inl rfl⟩
  obtain ⟨hne, -, hle, hmem⟩ := foldl_pick hpick cs (a := posInf) (by simp)
  exact ⟨hne, hle, hmem⟩

theorem runningMax_spec (cs : List Double) : runningMax cs ≠ nan ∧ (∀ c ∈ cs, c ≠ nan → c ≤ runningMax cs) ∧
    (runningMax cs = negInf ∨ runningMax cs ∈ cs) := by
  have hpick : ∀ a b : Double, a ≠ nan →
      max a b ≥ a ∧ (b ≠ nan → max a b ≥ b) ∧ (max a b = a ∨ max a b = b ∧ b ≠ nan) := fun a b ha => by
    rw [max]
    split_ifs with h
    · obtain ⟨-, hb, hlt⟩ := of_decide_eq_true h
      exact ⟨hlt.le, fun _ => le_rfl, .inr ⟨rfl, hb⟩⟩
    · exact ⟨le_rfl, fun hb => not_lt.mp fun hlt => h ((lt_iff ha hb).mpr hlt), .inl rfl⟩
  obtain ⟨hne, -, hle, hmem⟩ := foldl_pick hpick cs (a := negInf) (by simp)
  exact ⟨hne, hle, hmem⟩

end Double

namespace Rounding

/-- No number of the list is infinite, and no difference of two of them overflows. -/
def KeepsSpan (fp : Rounding) (cs : List Double) : Prop :=
  ∀ a ∈ cs, a ≠ .negInf ∧ a ≠ .posInf ∧ ∀ b ∈ cs, fp.sub a b ≠ .posInf

variable {fp : Rounding}

theorem sub_finite (p q : ℚ) : fp.sub (.finite p) (.finite q) = fp.round (p - q) := by
  rw [sub_eq_add_neg]
  rfl

theorem exists_of_sub_isFinite {a b : Double} (h : (fp.sub a b).isFinite = true) :
    ∃ p q, a = .finite p ∧ b = .finite q := by
  cases a with
  | finite p =>
    cases b with
    | finite q => exact ⟨p, q, rfl, rfl⟩
    | _ => cases h
  | _ => cases b <;> cases h

/-- A span that is not found to be `<= 0` is finite exactly when the list keeps it so. -/
theorem span_isFinite_iff {cs : List Double}
    (hspan : (fp.sub (Double.runningMax cs) (Double.runningMin cs)).le 0 = false) :
    (fp.sub (Double.runningMax cs) (Double.runningMin cs)).isFinite = true ↔ fp.KeepsSpan cs := by
  obtain ⟨hmin, hminle, hminmem⟩ := Double.runningMin_spec cs
  obtain ⟨hmax, hlemax, hmaxmem⟩ := Double.runningMax_spec cs
  constructor
  · intro h
    obtain ⟨p, q, hp, hq⟩ := exists_of_sub_isFinite h
    rw [hp, hq, sub_finite] at h
    -- the numbers of the list lie between the bounds
    have hbetween : ∀ a ∈ cs, a = .nan ∨ ∃ x, a = .finite x ∧ q ≤ x ∧ x ≤ p := fun a ha => by
      cases a with
      | nan => exact .inl rfl
      | negInf => exact absurd (hq ▸ hminle _ ha (by simp)) (Double.not_finite_le_negInf q)
      | posInf => exact absurd (hp ▸ hlemax _ ha (by simp)) (Double.not_posInf_le_finite p)
      | finite x =>
        exact .inr ⟨x, rfl, Double.finite_le_finite.mp (hq ▸ hminle _ ha (by simp)),
          Double.finite_le_finite.mp (hp ▸ hlemax _ ha (by simp))⟩
    intro a ha
    rcases hbetween a ha with rfl | ⟨x, rfl, -, hxp⟩
    · exact ⟨by simp, by simp, fun b _ => by cases b <;> simp [sub, add]⟩
    refine ⟨by simp, by simp, fun b hb hover => ?_⟩
    rcases hbetween b hb with rfl | ⟨y, rfl, hqy, -⟩
    · simp [sub, add, Double.neg] at hover
    · have hle : fp.round (x - y) ≤ fp.round (p - q) := fp.monotone (by linarith)
      rw [← sub_finite, hover] at hle
      rw [le_antisymm (Double.le_posInf _) hle] at h
      cases h
  · intro hkeeps
    have hfinite : ∀ {a}, a ∈ cs → a ≠ .nan → ∃ x, a = .finite x := fun {a} ha hne => by
      obtain ⟨hneg, hpos, -⟩ := hkeeps a ha
      cases a with
      | finite x => exact ⟨x, rfl⟩
      | nan => exact absurd rfl hne
      | negInf => exact absurd rfl hneg
      | posInf => exact absurd rfl hpos
    have hmax' := hmaxmem.imp_right fun hmem => hfinite hmem hmax
    have hmin' := hminmem.imp_right fun hmem => hfinite hmem hmin
    have hnegative : Double.negInf.le 0 = true := by simp [Double.le]
    rcases hmax' with hp | ⟨p, hp⟩
    · have hsub : fp.sub (Double.runningMax cs) (Double.runningMin cs) = .negInf := by
        rw [hp]
        rcases hmin' with hq | ⟨q, hq⟩
        · rw [hq]
          rfl
        · rw [hq]
          rfl
      rw [hsub, hnegative] at hspan
      cases hspan
    rcases hmin' with hq | ⟨q, hq⟩
    · rw [hp, hq, show fp.sub (.finite p) .posInf = .negInf from rfl, hnegative] at hspan
      cases hspan
    · have hover := (hkeeps _ (hmaxmem.resolve_left (by simp [hp]))).2.2 _ (hminmem.resolve_left (by simp [hq]))
      rw [hp, hq, sub_finite] at hspan hover ⊢
      cases hr : fp.round (p - q) with
      | nan => exact absurd hr (fp.round_ne_nan _)
      | negInf =>
        rw [hr, hnegative] at hspan
        cases hspan
      | finite r => rfl
      | posInf => exact absurd hr hover

end Rounding

end MoveitPlanning.Foundation
