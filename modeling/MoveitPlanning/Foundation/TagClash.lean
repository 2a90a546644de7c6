import MoveitPlanning.Foundation.StdSort

/-! Tags of the first `k` elements of a sorted list. The order of elements with equal keys
is free, so the tags are distinct in every outcome of the sort when no two elements with
one tag can both come among the first `k`: those with larger keys, and the two themselves
where their keys are equal, already fill these places. -/

namespace MoveitPlanning.Foundation

open scoped List

variable {α κ τ : Type*} [LinearOrder κ] {key : α → κ}

/-- Of two elements, the one with the smaller key comes after the first `k` of the sorted list. -/
def Apart (key : α → κ) (k : ℕ) (l : List α) (a b : α) : Prop :=
  k < (l.countP fun x => min (key a) (key b) < key x) + if key a = key b then 2 else 1

theorem Apart.symm {k : ℕ} {l : List α} {a b : α} (h : Apart key k l a b) : Apart key k l b a := by
  rwa [Apart, min_comm, if_congr eq_comm rfl rfl]

theorem apart_iff_of_le {k : ℕ} {l : List α} {a b : α} (h : key b ≤ key a) :
    Apart key k l a b ↔ k < (l.countP fun x => key b < key x) + if key a = key b then 2 else 1 := by
  rw [Apart, min_eq_right h]

theorem not_apart_of_sublist_take {m : List α} (hm : Descending key m) {k : ℕ} {a b : α}
    (h : [a, b] <+ m.take k) : ¬Apart key k m a b := by
  obtain ⟨rest, hperm⟩ := h.exists_perm_append
  have hab : key b ≤ key a :=
    List.pairwise_iff_forall_sublist.mp hm (h.trans (List.take_sublist k m))
  have hb : b ∈ m.take k := h.subset (by simp)
  have hlength := hperm.length_eq
  -- what has a larger key than `b` is among the first `k` too
  have hdrop : (m.drop k).countP (fun x => key b < key x) = 0 :=
    List.countP_eq_zero.mpr fun x hx => by simpa using hm.take_le_drop k b hb x hx
  have hcount : m.countP (fun x => key b < key x) = (m.take k).countP (fun x => key b < key x) := by
    conv_lhs => rw [← List.take_append_drop k m, List.countP_append, hdrop, Nat.add_zero]
  have hrest : rest.countP (fun x => key b < key x) ≤ rest.length := List.countP_le_length
  have hk : (m.take k).length ≤ k := List.length_take_le k m
  rw [apart_iff_of_le hab, hcount, hperm.countP_eq]
  rcases hab.lt_or_eq with hlt | heq
  · simp [hlt, hlt.ne'] at hlength ⊢
    omega
  · simp [heq.symm] at hlength ⊢
    omega

/-! ### Elements brought to the front of their key -/

section Insert
variable {r : α → α → Prop} [DecidableRel r]

theorem orderedInsert_take (a : α) {t : List α} {n : ℕ} (h : ∃ b ∈ t.take n, r a b) :
    (t.take n).orderedInsert r a = (t.orderedInsert r a).take (n + 1) := by
  induction t generalizing n with
  | nil => simp at h
  | cons c t ih =>
    cases n with
    | zero => simp at h
    | succ n =>
      rw [List.take_succ_cons] at h ⊢
      by_cases hac : r a c
      · rw [List.orderedInsert_cons_of_le _ _ hac, List.orderedInsert_cons_of_le _ _ hac, List.take_succ_cons,
          List.take_succ_cons]
      · obtain ⟨b, hb, hab⟩ := h
        have hbt : b ∈ t.take n := (List.mem_cons.mp hb).resolve_left fun hbc => hac (hbc ▸ hab)
        rw [List.orderedInsert_of_not_le _ _ hac, List.orderedInsert_of_not_le _ _ hac, List.take_succ_cons,
          ih ⟨b, hbt, hab⟩]

end Insert

/-- Before an inserted element come only elements with larger keys. -/
theorem mem_take_orderedInsert (a : α) (s : List α) :
    a ∈ (s.orderedInsert (fun x y => key y ≤ key x) a).take (s.countP (fun x => key a < key x) + 1) := by
  induction s with
  | nil => simp
  | cons b s ih =>
    by_cases hab : key b ≤ key a
    · rw [List.orderedInsert_cons_of_le (fun x y => key y ≤ key x) s hab, List.take_succ_cons]
      exact List.mem_cons_self
    · rw [List.orderedInsert_of_not_le (fun x y => key y ≤ key x) s hab,
        List.countP_cons_of_pos (by simpa using hab), List.take_succ_cons]
      exact List.mem_cons_of_mem _ ih

/-- Elements that are not apart both come among the first `k` in some sorted order. -/
theorem exists_descending_of_not_apart {l rest : List α} {a b : α} {k : ℕ} (hl : l ~ a :: b :: rest)
    (hab : key b ≤ key a) (h : ¬Apart key k l a b) :
    ∃ m, m ~ l ∧ Descending key m ∧ [a, b] <+ m.take k := by
  let r : α → α → Prop := fun x y => key y ≤ key x
  have htotal : Std.Total r := ⟨fun x y => le_total _ _⟩
  have htrans : IsTrans α r := ⟨fun _ _ _ hxy hyz => hyz.trans hxy⟩
  let s := rest.insertionSort r
  refine ⟨(a :: b :: rest).insertionSort r, (List.perm_insertionSort r _).trans hl.symm,
    List.pairwise_insertionSort r _, ?_⟩
  have hb : b ∈ (s.orderedInsert r b).take (s.countP (fun x => key b < key x) + 1) := mem_take_orderedInsert b s
  have hsub : [a, b] <+ ((s.orderedInsert r b).orderedInsert r a).take
      (s.countP (fun x => key b < key x) + 1 + 1) := by
    rw [← orderedInsert_take a ⟨b, hb, hab⟩]
    exact List.cons_sublist_orderedInsert (List.singleton_sublist.mpr hb) (by simpa using hab)
  refine hsub.trans (List.take_sublist_take_left ?_)
  rw [apart_iff_of_le hab, hl.countP_eq, not_lt] at h
  rw [show s.countP _ = rest.countP _ from (List.perm_insertionSort r rest).countP_eq _]
  rcases hab.lt_or_eq with hlt | heq
  · simp [hlt, hlt.ne'] at h
    omega
  · simp [heq.symm] at h
    omega

/-! ### Distinct tags in every outcome -/

/-- The first `k` tags are distinct in every sorted order just when elements with one tag
are apart. -/
theorem forall_descending_nodup_iff (tag : α → τ) (k : ℕ) (l : List α) :
    (∀ m, m ~ l → Descending key m → ((m.take k).map tag).Nodup) ↔
      l.Pairwise fun a b => tag a = tag b → Apart key k l a b := by
  constructor
  · intro h
    refine List.pairwise_iff_forall_sublist.mpr fun {a b} hab htag => ?_
    obtain ⟨rest, hrest⟩ := hab.exists_perm_append
    by_contra hnot
    -- in the order of their keys, the two would both be kept
    have hclash : ∀ {c d}, l ~ c :: d :: rest → key d ≤ key c → ¬Apart key k l c d → tag c = tag d → False := by
      intro c d hl hle hapart heq
      obtain ⟨m, hm, hdesc, hsub⟩ := exists_descending_of_not_apart hl hle hapart
      refine List.nodup_iff_sublist.mp (h m hm hdesc) (tag c) ?_
      have hmap := hsub.map tag
      rwa [List.map_cons, List.map_singleton, ← heq] at hmap
    rcases le_total (key b) (key a) with hle | hle
    · exact hclash hrest hle hnot htag
    · exact hclash (hrest.trans (List.Perm.swap b a rest)) hle (fun hapart => hnot hapart.symm) htag.symm
  · intro h m hm hdesc
    have hpairs : m.Pairwise fun a b => tag a = tag b → Apart key k l a b :=
      (hm.pairwise_iff fun hab htag => (hab htag.symm).symm).mpr h
    refine List.nodup_iff_sublist.mpr fun t ht => ?_
    obtain ⟨kept, hkept, hmap⟩ := List.sublist_map_iff.mp ht
    obtain ⟨a, tail, rfl, ha, htail⟩ := List.map_eq_cons_iff.mp hmap.symm
    obtain ⟨b, others, rfl, hb, hnil⟩ := List.map_eq_cons_iff.mp htail
    obtain rfl := List.map_eq_nil_iff.mp hnil
    have hapart := List.pairwise_iff_forall_sublist.mp hpairs (hkept.trans (List.take_sublist k m))
      (ha.trans hb.symm)
    refine not_apart_of_sublist_take hdesc hkept ?_
    rwa [Apart, hm.countP_eq]

section Outcomes
variable {lt : α → α → Bool}

theorem StdSort.exists_sort_eq (s : StdSort lt) {l m : List α} (hm : m ~ l)
    (hsorted : m.Pairwise fun a b => lt b a = false) : ∃ s' : StdSort lt, s'.sort l = m := by
  classical
  refine ⟨⟨fun l' => if l' = l then m else s.sort l', fun l' hl' => ?_, fun l' hl' => ?_⟩, if_pos rfl⟩
  · split_ifs with heq
    · exact heq ▸ hm
    · exact s.perm l' hl'
  · split_ifs with heq
    · exact hsorted
    · exact s.sorted l' hl'

theorem StdSort.forall_sort_iff (s : StdSort lt) {l : List α}
    (h : ∀ a ∈ l, ∀ b ∈ l, lt a b = true ↔ key b < key a) {P : List α → Prop} :
    (∀ s' : StdSort lt, P (s'.sort l)) ↔ ∀ m, m ~ l → Descending key m → P m := by
  constructor
  · intro hall m hm hdesc
    have hsorted : m.Pairwise fun a b => lt b a = false := by
      refine hdesc.imp_of_mem fun {a b} ha hb hab => ?_
      rw [← Bool.not_eq_true, h b (hm.subset hb) a (hm.subset ha)]
      exact not_lt.mpr hab
    obtain ⟨s', rfl⟩ := s.exists_sort_eq hm hsorted
    exact hall s'
  · exact fun hall s' => hall _ (s'.perm l (StrictWeakOn.of_key h)) (s'.descending h)

end Outcomes

end MoveitPlanning.Foundation
