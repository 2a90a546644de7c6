import MoveitPlanning.Grasping.TargetResolution

/-! `ResolveTargetObjectId` as a function of the ranks of the ids. It returns the first id
of the best rank there is, and the target where no id has one. An id of one of the first
three ranks is determined by the target, so the order of the ids counts only among
several of the fourth rank. What is returned is resolved to itself. -/

namespace MoveitPlanning.Grasping

open Foundation Scene

section Ranks
variable {ids ids' : List Name} {targetId id : Name}

theorem matchRank_le_five : matchRank targetId id ≤ 5 := by
  unfold matchRank
  split_ifs <;> omega

/-- There is a best match unless the target is empty or no id has a rank. -/
theorem not_bestMatch_iff : (∀ id, ¬BestMatch ids targetId id) ↔
    targetId = [] ∨ ∀ id ∈ ids, matchRank targetId id = 5 := by
  constructor
  · intro hnone
    by_contra hsome
    push Not at hsome
    obtain ⟨hne, id, hid, hrank⟩ := hsome
    cases hfirst : ids.argmin (matchRank targetId) with
    | none =>
      rw [List.argmin_eq_none.mp hfirst] at hid
      cases hid
    | some best =>
      have hle : matchRank targetId best ≤ matchRank targetId id := List.le_of_mem_argmin hid hfirst
      have hfive : matchRank targetId id ≤ 5 := matchRank_le_five
      exact hnone best ⟨hne, hfirst, by omega⟩
  · rintro (hempty | hfive) id hbest
    · exact hbest.target_ne hempty
    · have hrank := hfive id (List.argmin_mem hbest.first)
      exact absurd hbest.ranked (by omega)

theorem find?_eq_none_of_unranked (h : ∀ id ∈ ids, matchRank targetId id = 5) :
    ids.find? (fun id => (cleanId targetId ++ ['/']).isPrefixOf id) = none := by
  refine List.find?_eq_none.mpr fun id hid hprefix => ?_
  have hle := matchRank_le_four_iff.mpr (.inr hprefix)
  rw [h id hid] at hle
  omega

theorem resolve_of_unranked (h : targetId = [] ∨ ∀ id ∈ ids, matchRank targetId id = 5) :
    resolveTargetObjectId ids targetId = targetId := by
  rcases h with rfl | h
  · rfl
  · by_cases hne : targetId = []
    · rw [resolveTargetObjectId, if_pos hne]
    · have hnot : ∀ id, matchRank targetId id ≤ 3 → id ∉ ids := by
        intro id hle hid
        rw [h id hid] at hle
        omega
      rw [resolveTargetObjectId_eq hne, if_neg (hnot _ (matchRank_le_three_iff.mpr (.inl rfl))),
        if_neg (hnot _ (matchRank_le_three_iff.mpr (.inr (.inl rfl)))),
        if_neg (hnot _ (matchRank_le_three_iff.mpr (.inr (.inr rfl)))), find?_eq_none_of_unranked h,
        Option.getD_none]

/-- Every result is the best match, or the target where there is none. -/
theorem bestMatch_or_unranked (ids : List Name) (targetId : Name) :
    BestMatch ids targetId (resolveTargetObjectId ids targetId) ∨
      (targetId = [] ∨ ∀ id ∈ ids, matchRank targetId id = 5) := by
  by_cases hnone : ∀ id, ¬BestMatch ids targetId id
  · exact .inr (not_bestMatch_iff.mp hnone)
  · push Not at hnone
    obtain ⟨id, hbest⟩ := hnone
    rw [hbest.resolve]
    exact .inl hbest

theorem BestMatch.mem (h : BestMatch ids targetId id) : id ∈ ids := List.argmin_mem h.first

theorem resolve_mem_of_ne (h : resolveTargetObjectId ids targetId ≠ targetId) :
    resolveTargetObjectId ids targetId ∈ ids := by
  rcases bestMatch_or_unranked ids targetId with hbest | hunranked
  · exact hbest.mem
  · exact absurd (resolve_of_unranked hunranked) h

theorem resolve_of_mem (h : id ∈ ids) : resolveTargetObjectId ids id = id := by
  by_cases hne : id = []
  · rw [resolveTargetObjectId, if_pos hne]
  · rw [resolveTargetObjectId_eq hne, if_pos h]

/-- What a target is resolved to is resolved to itself. -/
theorem resolve_resolve (ids : List Name) (targetId : Name) :
    resolveTargetObjectId ids (resolveTargetObjectId ids targetId) = resolveTargetObjectId ids targetId := by
  by_cases hsame : resolveTargetObjectId ids targetId = targetId
  · rw [hsame, hsame]
  · exact resolve_of_mem (resolve_mem_of_ne hsame)

/-! ### The order of the ids -/

/-- Several ids have the fourth rank, and none has a better one. -/
def TiedAtPrefix (ids : List Name) (targetId : Name) : Prop :=
  (∀ id ∈ ids, 4 ≤ matchRank targetId id) ∧
    ∃ id ∈ ids, ∃ id' ∈ ids, matchRank targetId id = 4 ∧ matchRank targetId id' = 4 ∧ id ≠ id'

/-- A search with at most one possible result does not depend on the order. -/
theorem find?_congr_of_unique {α : Type*} {p : α → Bool} {l l' : List α} (hmem : ∀ a, a ∈ l' ↔ a ∈ l)
    (hunique : ∀ a ∈ l, ∀ b ∈ l, p a = true → p b = true → a = b) : l'.find? p = l.find? p := by
  cases hfind : l.find? p with
  | none =>
    refine List.find?_eq_none.mpr fun a ha => ?_
    exact List.find?_eq_none.mp hfind a ((hmem a).mp ha)
  | some a =>
    have ha := List.mem_of_find?_eq_some hfind
    have hp := List.find?_some hfind
    cases hfind' : l'.find? p with
    | none => exact absurd hp (List.find?_eq_none.mp hfind' a ((hmem a).mpr ha))
    | some b =>
      have hb := (hmem b).mp (List.mem_of_find?_eq_some hfind')
      rw [hunique b hb a ha (List.find?_some hfind') hp]

theorem resolve_congr (hmem : ∀ id, id ∈ ids' ↔ id ∈ ids) (htied : ¬TiedAtPrefix ids targetId) :
    resolveTargetObjectId ids' targetId = resolveTargetObjectId ids targetId := by
  by_cases hne : targetId = []
  · rw [resolveTargetObjectId, if_pos hne, resolveTargetObjectId, if_pos hne]
  · rw [resolveTargetObjectId_eq hne, resolveTargetObjectId_eq hne]
    simp only [hmem]
    split_ifs with h1 h2 h3
    · rfl
    · rfl
    · rfl
    · -- no id has one of the first three ranks
      have hfour : ∀ id ∈ ids, 4 ≤ matchRank targetId id := by
        intro id hid
        by_contra hlt
        rcases matchRank_le_three_iff.mp (show matchRank targetId id ≤ 3 by omega) with rfl | rfl | rfl
        · exact h1 hid
        · exact h2 hid
        · exact h3 hid
      rw [find?_congr_of_unique hmem]
      intro id hid id' hid' hprefix hprefix'
      by_contra hdiff
      have hle := matchRank_le_four_iff.mpr (.inr hprefix)
      have hle' := matchRank_le_four_iff.mpr (.inr hprefix')
      have hge := hfour id hid
      have hge' := hfour id' hid'
      exact htied ⟨hfour, id, hid, id', hid', by omega, by omega, hdiff⟩

/-- The target is resolved to the first id of the best rank, or stays as it is; resolving
it again changes nothing, and neither does the order or the repetition of the ids, apart
from ties at the fourth rank. -/
theorem resolve_by_rank (ids : List Name) (targetId : Name) :
    (∀ id, BestMatch ids targetId id → resolveTargetObjectId ids targetId = id) ∧
      ((∀ id, ¬BestMatch ids targetId id) ↔ targetId = [] ∨ ∀ id ∈ ids, matchRank targetId id = 5) ∧
      ((targetId = [] ∨ ∀ id ∈ ids, matchRank targetId id = 5) → resolveTargetObjectId ids targetId = targetId) ∧
      (resolveTargetObjectId ids targetId ≠ targetId → resolveTargetObjectId ids targetId ∈ ids) ∧
      resolveTargetObjectId ids (resolveTargetObjectId ids targetId) = resolveTargetObjectId ids targetId ∧
      (¬TiedAtPrefix ids targetId → ∀ ids', (∀ id, id ∈ ids' ↔ id ∈ ids) →
        resolveTargetObjectId ids' targetId = resolveTargetObjectId ids targetId) :=
  ⟨fun _ => BestMatch.resolve, not_bestMatch_iff, resolve_of_unranked, resolve_mem_of_ne,
    resolve_resolve ids targetId, fun htied _ hmem => resolve_congr hmem htied⟩

example : resolveTargetObjectId ["box/lid".toList, "box/whole".toList] "/box".toList = "box/whole".toList ∧
    resolveTargetObjectId ["box/lid".toList, "box/foot".toList] "box".toList = "box/lid".toList := by decide

end Ranks

end MoveitPlanning.Grasping
