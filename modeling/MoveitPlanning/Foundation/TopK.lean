import Mathlib.Data.List.Sort
import Mathlib.Data.List.Flatten
import Mathlib.Data.List.Perm.Subperm
import Mathlib.Order.Basic

/-! The best `k` of a list under a key. A part of a list is its top when nothing left
over has a larger key. Cutting several descending lists at `k` before they are merged
and cut at `k` again loses none of the best `k`: whatever the first cut leaves out has
`k` elements before it that are at least as good. The keys of a top part are the first
`k` keys in descending order, whichever elements with equal keys were taken. -/

namespace MoveitPlanning.Foundation

open scoped List

variable {α κ : Type*} [LinearOrder κ] (key : α → κ)

/-- The list has its largest keys first. -/
def Descending (l : List α) : Prop := l.Pairwise fun a b => key b ≤ key a

/-- `top` is part of `all`, and no element left over has a larger key. -/
def IsTop (top all : List α) : Prop :=
  ∃ rest, top ++ rest ~ all ∧ ∀ a ∈ top, ∀ b ∈ rest, key b ≤ key a

/-- The first `k` keys in descending order. -/
def topKeys (k : ℕ) (l : List α) : List κ := ((l.map key).insertionSort (· ≥ ·)).take k

variable {key}

theorem Descending.take_le_drop {l : List α} (h : Descending key l) (k : ℕ) :
    ∀ a ∈ l.take k, ∀ b ∈ l.drop k, key b ≤ key a := by
  have happ : Descending key (l.take k ++ l.drop k) := by rwa [List.take_append_drop]
  exact (List.pairwise_append.mp happ).2.2

/-- In a descending list with `k` keys from `x` up, the first `k` are such keys. -/
theorem Descending.le_of_mem_take {l : List α} (h : Descending key l) {x : κ} {k : ℕ}
    (hk : k ≤ l.countP fun a => x ≤ key a) {a : α} (ha : a ∈ l.take k) : x ≤ key a := by
  induction l generalizing k with
  | nil => simp at ha
  | cons b l ih =>
    obtain ⟨hb, hl⟩ := List.pairwise_cons.mp h
    cases k with
    | zero => simp at ha
    | succ k =>
      by_cases hx : x ≤ key b
      · rw [List.countP_cons_of_pos (by simpa using hx)] at hk
        rcases List.mem_cons.mp ha with rfl | ha
        · exact hx
        · exact ih hl (by omega) ha
      · have hzero : l.countP (fun a => x ≤ key a) = 0 := by
          refine List.countP_eq_zero.mpr fun c hc => ?_
          simpa using lt_of_le_of_lt (hb c hc) (not_le.mp hx)
        rw [List.countP_cons_of_neg (by simpa using hx), hzero] at hk
        omega

theorem flatten_take_append_drop_perm (ls : List (List α)) (k : ℕ) :
    (ls.map (List.take k)).flatten ++ (ls.map (List.drop k)).flatten ~ ls.flatten := by
  induction ls with
  | nil => simp
  | cons l ls ih =>
    simp only [List.map_cons, List.flatten_cons, List.append_assoc]
    calc
      l.take k ++ ((ls.map (List.take k)).flatten ++ (l.drop k ++ (ls.map (List.drop k)).flatten)) ~
          l.take k ++ (l.drop k ++
            ((ls.map (List.take k)).flatten ++ (ls.map (List.drop k)).flatten)) := by
        refine List.Perm.append_left _ ?_
        rw [← List.append_assoc, ← List.append_assoc]
        exact List.perm_append_comm.append_right _
      _ = l ++ ((ls.map (List.take k)).flatten ++ (ls.map (List.drop k)).flatten) := by
        rw [← List.append_assoc, List.take_append_drop]
      _ ~ l ++ ls.flatten := ih.append_left l

/-- Merging the first `k` of each list keeps the best `k` of all of them. -/
theorem isTop_take_of_merge {ls : List (List α)} (hls : ∀ l ∈ ls, Descending key l) {k : ℕ}
    {merged : List α} (hp : merged ~ (ls.map (List.take k)).flatten) (hs : Descending key merged) :
    IsTop key (merged.take k) ls.flatten := by
  refine ⟨merged.drop k ++ (ls.map (List.drop k)).flatten, ?_, fun a ha b hb => ?_⟩
  · rw [← List.append_assoc, List.take_append_drop]
    exact (hp.append_right _).trans (flatten_take_append_drop_perm ls k)
  · rcases List.mem_append.mp hb with hb | hb
    · exact hs.take_le_drop k a ha b hb
    · obtain ⟨d, hd, hb⟩ := List.mem_flatten.mp hb
      obtain ⟨l, hl, rfl⟩ := List.mem_map.mp hd
      -- the `k` elements that `l` contributed are all at least as good as `b`
      have hlong : (l.take k).length = k := by
        have := List.length_pos_of_mem hb
        simp only [List.length_drop, List.length_take] at this ⊢
        omega
      have hcount : k ≤ merged.countP fun a => key b ≤ key a := by
        have hall : (l.take k).countP (fun a => key b ≤ key a) = (l.take k).length :=
          List.countP_eq_length.mpr fun c hc => by
            simpa using (hls l hl).take_le_drop k c hc b hb
        calc k = (l.take k).countP fun a => key b ≤ key a := by rw [hall, hlong]
          _ ≤ (ls.map (List.take k)).flatten.countP fun a => key b ≤ key a :=
              (List.sublist_flatten_of_mem (List.mem_map_of_mem hl)).countP_le
          _ = merged.countP fun a => key b ≤ key a := (hp.countP_eq _).symm
      exact hs.le_of_mem_take hcount ha

theorem length_flatten_take (k : ℕ) (ls : List (List α)) :
    min k (ls.map (List.take k)).flatten.length = min k ls.flatten.length := by
  induction ls with
  | nil => rfl
  | cons l ls ih =>
    simp only [List.map_cons, List.flatten_cons, List.length_append, List.length_take]
    omega

theorem IsTop.subperm {top all : List α} (h : IsTop key top all) : top.Subperm all := by
  obtain ⟨rest, hp, -⟩ := h
  exact (List.sublist_append_left top rest).subperm.trans hp.subperm

/-- A descending top part has the largest keys in descending order. -/
theorem IsTop.keys_eq {top all : List α} (h : IsTop key top all) (hs : Descending key top) {k : ℕ}
    (hk : top.length = min k all.length) : top.map key = topKeys key k all := by
  obtain ⟨rest, hp, hle⟩ := h
  have hsorted : (top.map key ++ (rest.map key).insertionSort (· ≥ ·)).Pairwise (· ≥ ·) := by
    refine List.pairwise_append.mpr ⟨List.pairwise_map.mpr hs, List.pairwise_insertionSort _ _, ?_⟩
    intro x hx y hy
    rw [List.mem_insertionSort] at hy
    obtain ⟨a, ha, rfl⟩ := List.mem_map.mp hx
    obtain ⟨b, hb, rfl⟩ := List.mem_map.mp hy
    exact hle a ha b hb
  have hperm : top.map key ++ (rest.map key).insertionSort (· ≥ ·) ~ all.map key := by
    refine ((List.perm_insertionSort _ _).append_left _).trans ?_
    rw [← List.map_append]
    exact hp.map key
  have heq : top.map key ++ (rest.map key).insertionSort (· ≥ ·) = (all.map key).insertionSort (· ≥ ·) :=
    (hperm.trans (List.perm_insertionSort _ _).symm).eq_of_pairwise' hsorted
      (List.pairwise_insertionSort _ _)
  have hlen : (top.map key).length ≤ k := by rw [List.length_map, hk]; exact min_le_left _ _
  rw [topKeys, ← heq, List.take_append]
  rcases Nat.lt_or_ge all.length k with hlt | hge
  · -- everything was taken, so nothing is left over
    have hrest : rest = [] := by
      have := hp.length_eq
      rw [List.length_append] at this
      exact List.eq_nil_of_length_eq_zero (by omega)
    simp [hrest, List.take_of_length_le hlen]
  · have : k - (top.map key).length = 0 := by rw [List.length_map, hk]; omega
    rw [this, List.take_of_length_le hlen, List.take_zero, List.append_nil]

end MoveitPlanning.Foundation
