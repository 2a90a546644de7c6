import MoveitPlanning.Foundation.TopK

/-! `std::sort`. It is given a comparison that must be a strict weak order on the
elements to be sorted; then the result is a permutation of them in which no element
comes before one it should come after. The order of equivalent elements is free, and
without a strict weak order nothing is promised, so a sort is a parameter with these
laws. A comparison by a key is a strict weak order wherever it agrees with the key's
linear order. -/

namespace MoveitPlanning.Foundation

open scoped List

variable {α κ : Type*} {lt : α → α → Bool}

/-- The comparison is a strict weak order on the elements of the list. -/
structure StrictWeakOn (lt : α → α → Bool) (l : List α) : Prop where
  irrefl : ∀ a ∈ l, lt a a = false
  trans : ∀ a ∈ l, ∀ b ∈ l, ∀ c ∈ l, lt a b = true → lt b c = true → lt a c = true
  incomparable_trans : ∀ a ∈ l, ∀ b ∈ l, ∀ c ∈ l, lt a b = false → lt b a = false →
    lt b c = false → lt c b = false → lt a c = false ∧ lt c a = false

/-- `std::sort` with the comparison `lt`. -/
structure StdSort (lt : α → α → Bool) where
  sort : List α → List α
  perm : ∀ l, StrictWeakOn lt l → sort l ~ l
  sorted : ∀ l, StrictWeakOn lt l → (sort l).Pairwise fun a b => lt b a = false

section Key
variable [LinearOrder κ] {key : α → κ}

theorem StrictWeakOn.of_key {l : List α} (h : ∀ a ∈ l, ∀ b ∈ l, lt a b = true ↔ key b < key a) :
    StrictWeakOn lt l := by
  have hfalse : ∀ a ∈ l, ∀ b ∈ l, lt a b = false ↔ key a ≤ key b := fun a ha b hb => by
    rw [← not_lt, ← h a ha b hb, Bool.not_eq_true]
  refine ⟨fun a ha => (hfalse a ha a ha).mpr le_rfl, ?_, ?_⟩
  · intro a ha b hb c hc hab hbc
    exact (h a ha c hc).mpr (((h b hb c hc).mp hbc).trans ((h a ha b hb).mp hab))
  · intro a ha b hb c hc hab hba hbc hcb
    have h1 : key a = key b := ((hfalse a ha b hb).mp hab).antisymm ((hfalse b hb a ha).mp hba)
    have h2 : key b = key c := ((hfalse b hb c hc).mp hbc).antisymm ((hfalse c hc b hb).mp hcb)
    exact ⟨(hfalse a ha c hc).mpr (h1.trans h2).le, (hfalse c hc a ha).mpr (h1.trans h2).ge⟩

theorem StdSort.descending (s : StdSort lt) {l : List α}
    (h : ∀ a ∈ l, ∀ b ∈ l, lt a b = true ↔ key b < key a) : Descending key (s.sort l) := by
  have hw := StrictWeakOn.of_key h
  have hmem : ∀ a, a ∈ s.sort l → a ∈ l := fun a => (s.perm l hw).mem_iff.mp
  refine (s.sorted l hw).imp_of_mem fun ha hb hlt => ?_
  rw [← not_lt, ← h _ (hmem _ hb) _ (hmem _ ha), hlt]
  exact Bool.false_ne_true

/-- Insertion sort by the key is such a sort. -/
def StdSort.insertion (key : α → κ) (h : ∀ a b, lt a b = true → key b < key a) : StdSort lt where
  sort l := l.insertionSort fun a b => key b ≤ key a
  perm l _ := List.perm_insertionSort _ l
  sorted l _ := by
    have htotal : Std.Total fun a b => key b ≤ key a := ⟨fun a b => le_total _ _⟩
    have htrans : IsTrans α fun a b => key b ≤ key a := ⟨fun _ _ _ hab hbc => hbc.trans hab⟩
    refine (List.pairwise_insertionSort (fun a b => key b ≤ key a) l).imp fun {a b} hab => ?_
    cases hlt : lt b a with
    | false => rfl
    | true => exact absurd (h b a hlt) (not_lt.mpr hab)

end Key

end MoveitPlanning.Foundation
