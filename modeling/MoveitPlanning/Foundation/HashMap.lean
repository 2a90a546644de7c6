import Mathlib.Data.Finmap
import Mathlib.Data.Finset.Sort
import Mathlib.Data.Multiset.Bind

/-! Hash maps and hash sets. Their contents have no order, so a map is a `Finmap`
and a set is a `Finset`. What a loop over one sees is an order chosen by the table
at that moment: an `IterOrder` is one such choice, and a pass over a table takes
the order it happened to see as an argument. A map that is only iterated over is the
list of its entries, and `SameEntries` relates the lists of two iterations. -/

namespace MoveitPlanning.Foundation

/-- `absl::flat_hash_map`. -/
abbrev HashMap (K V : Type*) := Finmap fun _ : K => V

/-- The order in which one pass visits hash sets: every element once. -/
structure IterOrder (α : Type*) where
  visit : Finset α → List α
  nodup : ∀ s, (visit s).Nodup
  mem_visit : ∀ s a, a ∈ visit s ↔ a ∈ s

attribute [simp] IterOrder.mem_visit

@[simp] theorem IterOrder.visit_empty {α : Type*} (ord : IterOrder α) : ord.visit ∅ = [] :=
  List.eq_nil_iff_forall_not_mem.mpr fun a ha => Finset.notMem_empty a ((ord.mem_visit ∅ a).mp ha)

/-- The pass that visits a set in increasing order. -/
def IterOrder.increasing (α : Type*) [LinearOrder α] : IterOrder α where
  visit s := s.sort (· ≤ ·)
  nodup s := s.sort_nodup _
  mem_visit s _ := s.mem_sort _

namespace HashMap

variable {K V : Type*} [DecidableEq K]

/-- `operator[]` followed by an assignment. -/
theorem lookup_insert_eq (m : HashMap K V) (k j : K) (v : V) :
    (m.insert k v).lookup j = if j = k then some v else m.lookup j := by
  by_cases h : j = k
  · subst h; simp
  · simp [h, Finmap.lookup_insert_of_ne _ h]

end HashMap

/-! ### Entries in any order -/

variable {α β γ : Type*} {r : α → β → Prop} {l : List α} {l' : List β}

/-- The same entries up to `r`, each list in an order of its own. -/
def SameEntries (r : α → β → Prop) (l : List α) (l' : List β) : Prop := Multiset.Rel r l l'

theorem SameEntries.refl {r : α → α → Prop} (h : ∀ a, r a a) (l : List α) : SameEntries r l l :=
  Multiset.rel_refl_of_refl_on fun a _ => h a

theorem SameEntries.singleton {a : α} {b : β} (h : r a b) : SameEntries r [a] [b] :=
  .cons h .zero

/-- Loops over both lists that reach the same for related entries reach the same. -/
theorem SameEntries.flatMap {f : α → List γ} {g : β → List γ} (h : SameEntries r l l')
    (hfg : ∀ a b, r a b → (f a).Perm (g b)) : (l.flatMap f).Perm (l'.flatMap g) := by
  rw [← Multiset.coe_eq_coe, ← Multiset.coe_bind, ← Multiset.coe_bind, ← Multiset.rel_eq]
  refine Multiset.rel_bind (fun a b hab => ?_) h
  exact Multiset.rel_eq.mpr (Multiset.coe_eq_coe.mpr (hfg a b hab))

end MoveitPlanning.Foundation
