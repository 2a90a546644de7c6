import MoveitPlanning.Grasping.Action

/-! The ranking of an action whose candidates all succeed. The quality is antitone in
the cost, so the grasps of a candidate, taken from solutions in cost order, are
descending in quality; cutting them off at the goal's bound, merging, sorting and
cutting off again then keeps the best of all of them. Every quality is between 0 and 1
whatever the cost, so the comparison of the sort is a strict weak order there. -/

namespace MoveitPlanning.Grasping

open Foundation Scene
open scoped List

/-! ### Quality and cost -/

/-- The task's solutions in non-decreasing order of cost. A cost that is
not-a-number, which counts as 0, can only come before the others. -/
def CostOrdered (solutions : List (Option Solution)) : Prop :=
  (solutions.filterMap id).Pairwise fun a b => a.cost = .nan ∨ a.cost.le b.cost = true

instance (solutions : List (Option Solution)) : Decidable (CostOrdered solutions) :=
  inferInstanceAs (Decidable (List.Pairwise _ _))

section Quality
variable (fp : Rounding)

theorem graspQuality_unit (cost : Double) :
    (0 : Double) ≤ graspQuality fp cost ∧ graspQuality fp cost ≤ 1 := by
  have hadd := (fp.one_add_mono (Double.zero_le_max cost) le_rfl).1
  exact (fp.one_div_antitone hadd le_rfl).2

theorem graspQuality_ne_nan (cost : Double) : graspQuality fp cost ≠ .nan := by
  obtain ⟨h0, h1⟩ := graspQuality_unit fp cost
  obtain ⟨q, hq, -⟩ := Double.exists_finite_of_unit h0 h1
  rw [hq]
  exact Double.noConfusion

theorem graspQuality_antitone {a b : Double} (h : a = .nan ∨ a.le b = true) :
    graspQuality fp b ≤ graspQuality fp a := by
  obtain ⟨hone, hadd⟩ := fp.one_add_mono (Double.zero_le_max a) (Double.max_zero_mono h)
  exact (fp.one_div_antitone hone hadd).1

variable (inputs : LoopInputs)

theorem extractGrasp_quality {n : ℕ} {solution : Option Solution} {g : RankedGrasp}
    (h : extractGrasp fp inputs n solution = some g) :
    ∃ s, solution = some s ∧ quality g = graspQuality fp s.cost := by
  obtain ⟨s, _, _, rfl, -, -, rfl⟩ := extractGrasp_eq_some fp inputs h
  exact ⟨s, rfl, rfl⟩

/-- The qualities of the grasps found are those of some of the solutions, in order. -/
theorem validGrasps_quality (solutions : List (Option Solution)) (n : ℕ) :
    ((validGrasps fp inputs n solutions).map quality).Sublist
      ((solutions.filterMap id).map fun s => graspQuality fp s.cost) := by
  induction solutions generalizing n with
  | nil => simp [validGrasps]
  | cons solution rest ih =>
    cases he : extractGrasp fp inputs n solution with
    | none =>
      simp only [validGrasps, he]
      refine (ih n).trans ?_
      cases solution with
      | none => exact List.Sublist.refl _
      | some s => exact (List.sublist_cons_self _ _)
    | some g =>
      obtain ⟨s, rfl, hq⟩ := extractGrasp_quality fp inputs he
      simp only [validGrasps, he, List.map_cons, hq]
      exact (ih (n + 1)).cons_cons _

theorem validGrasps_descending {solutions : List (Option Solution)} (h : CostOrdered solutions) (n : ℕ) :
    Descending quality (validGrasps fp inputs n solutions) := by
  have hcosts : ((solutions.filterMap id).map fun s => graspQuality fp s.cost).Pairwise (· ≥ ·) :=
    List.pairwise_map.mpr (h.imp fun hab => graspQuality_antitone fp hab)
  exact List.pairwise_map.mp (hcosts.sublist (validGrasps_quality fp inputs solutions n))

theorem validGrasps_ne_nan {solutions : List (Option Solution)} {n : ℕ} {g : RankedGrasp}
    (h : g ∈ validGrasps fp inputs n solutions) : quality g ≠ .nan := by
  have hg := (validGrasps_quality fp inputs solutions n).subset (List.mem_map_of_mem h)
  obtain ⟨s, -, hs⟩ := List.mem_map.mp hg
  rw [← hs]
  exact graspQuality_ne_nan fp s.cost

end Quality

/-! ### The result of the action -/

theorem qualityGreater_iff {a b : RankedGrasp} (ha : quality a ≠ .nan) (hb : quality b ≠ .nan) :
    qualityGreater a b = true ↔ quality b < quality a :=
  Double.lt_iff hb ha

section Outcome
variable (fp : Rounding) (env : ℕ → PlanningEnv) (goal : Goal)

/-- All grasps of the candidate at an index, before any cut. -/
def allGrasps (candidateIndex : ℕ) : List RankedGrasp :=
  match goal.candidates[candidateIndex]? with
  | none => []
  | some candidate =>
    candidateGrasps fp (env candidateIndex) goal candidate (UInt32.ofNat candidateIndex)

/-- A candidate with an outcome has contributed its first grasps, at least one. -/
theorem candidateOutcome_eq_some {i : ℕ} {grasps : List RankedGrasp}
    (h : candidateOutcome fp env goal i = some grasps) :
    grasps = (allGrasps fp env goal i).take goal.maxNumGraspsOrOne ∧ grasps ≠ [] := by
  unfold candidateOutcome at h
  unfold allGrasps
  cases hc : goal.candidates[i]? with
  | none => simp [hc] at h
  | some candidate =>
    simp only [hc, planGraspsForCandidate] at h
    split at h
    · cases h
    · rename_i hcode
      cases h
      exact planGrasps_of_success _ _ _ _ _ (not_not.mp hcode)

theorem allGrasps_ne_nan {i : ℕ} {g : RankedGrasp} (h : g ∈ allGrasps fp env goal i) :
    quality g ≠ .nan := by
  unfold allGrasps candidateGrasps at h
  split at h
  · cases h
  · split at h
    · cases h
    · exact validGrasps_ne_nan fp _ h

theorem allGrasps_descending (hcost : ∀ i task, CostOrdered ((env i).solutions task)) (i : ℕ) :
    Descending quality (allGrasps fp env goal i) := by
  unfold allGrasps candidateGrasps
  split
  · exact List.Pairwise.nil
  · split
    · exact List.Pairwise.nil
    · exact validGrasps_descending fp _ (hcost _ _) 0

theorem graspsBefore_ne_nan {i : ℕ} {g : RankedGrasp} (h : g ∈ graspsBefore fp env goal i) :
    quality g ≠ .nan := by
  obtain ⟨l, hl, hg⟩ := List.mem_flatten.mp h
  obtain ⟨j, -, rfl⟩ := List.mem_map.mp hl
  cases hout : candidateOutcome fp env goal j with
  | none => simp [hout] at hg
  | some grasps =>
    rw [hout, Option.getD_some, (candidateOutcome_eq_some fp env goal hout).1] at hg
    exact allGrasps_ne_nan fp env goal (List.mem_of_mem_take hg)

theorem sort_graspsBefore (sort : StdSort qualityGreater) (i : ℕ) :
    sort.sort (graspsBefore fp env goal i) ~ graspsBefore fp env goal i ∧
      Descending quality (sort.sort (graspsBefore fp env goal i)) := by
  have hkey : ∀ a ∈ graspsBefore fp env goal i, ∀ b ∈ graspsBefore fp env goal i,
      qualityGreater a b = true ↔ quality b < quality a := fun a ha b hb =>
    qualityGreater_iff (graspsBefore_ne_nan fp env goal ha) (graspsBefore_ne_nan fp env goal hb)
  exact ⟨sort.perm _ (.of_key hkey), sort.descending hkey⟩

variable {fp env goal} in
/-- Candidates that do not stop the run have contributed their first grasps. -/
theorem graspsBefore_eq_flatten {isCanceling : ℕ → Bool}
    (h : ∀ i < goal.candidates.length, ¬Stops fp isCanceling env goal i) :
    graspsBefore fp env goal goal.candidates.length = ((List.range goal.candidates.length).map fun i =>
      (allGrasps fp env goal i).take goal.maxNumGraspsOrOne).flatten := by
  rw [graspsBefore]
  congr 1
  refine List.map_congr_left fun i hi => ?_
  exact (candidateOutcome_eq_some fp env goal (outcome_of_not_stops (h i (List.mem_range.mp hi))).2).1

end Outcome

/-- When every candidate succeeds, the result is in order of quality, is part of the
valid grasps of all candidates, and has the best qualities among them. -/
theorem result_has_best_grasps (fp : Rounding) (sort : StdSort qualityGreater) (env : ℕ → PlanningEnv)
    (goal : Goal) (hcost : ∀ i task, CostOrdered ((env i).solutions task))
    (hall : ∀ i < goal.candidates.length, (candidateOutcome fp env goal i).isSome) :
    let result := (executePlanGraspsAction fp sort (fun _ => false) env goal).result.rankedGrasps
    let all := ((List.range goal.candidates.length).map (allGrasps fp env goal)).flatten
    let k := if 0 < goal.maxNumGrasps then goal.maxNumGrasps.toNat else 1
    (result.Pairwise fun a b => b.grasp.graspQuality.le a.grasp.graspQuality = true) ∧
    result.length = min k all.length ∧ result <+~ all ∧
    result.map quality = topKeys quality k all := by
  intro result all k
  have hk : k = goal.maxNumGraspsOrOne := rfl
  have hpasses : ∀ i < goal.candidates.length, ¬Stops fp (fun _ => false) env goal i := by
    intro i hi hstop
    exact Option.isSome_iff_ne_none.mp (hall i hi) (hstop.resolve_left Bool.noConfusion)
  obtain ⟨-, hresult, -⟩ := execute_of_no_stop sort hpasses
  obtain ⟨hperm, hsorted⟩ := sort_graspsBefore fp env goal sort goal.candidates.length
  have hmerge : graspsBefore fp env goal goal.candidates.length =
      (((List.range goal.candidates.length).map (allGrasps fp env goal)).map (List.take k)).flatten := by
    rw [graspsBefore_eq_flatten hpasses, List.map_map]
    rfl
  rw [hmerge] at hperm hsorted hresult
  have htop : IsTop quality result all := by
    rw [show result = _ from hresult, rankGrasps, ← hk]
    refine isTop_take_of_merge (fun l hl => ?_) hperm hsorted
    obtain ⟨i, -, rfl⟩ := List.mem_map.mp hl
    exact allGrasps_descending fp env goal hcost i
  have hdesc : Descending quality result := by
    rw [show result = _ from hresult]
    exact hsorted.sublist (List.take_sublist _ _)
  have hlen : result.length = min k all.length := by
    rw [show result = _ from hresult, rankGrasps, ← hk, List.length_take, hperm.length_eq]
    exact length_flatten_take k _
  refine ⟨?_, hlen, htop.subperm, htop.keys_eq hdesc hlen⟩
  have hnan : ∀ g ∈ result, quality g ≠ .nan := fun g hg => by
    obtain ⟨l, hl, hg⟩ := List.mem_flatten.mp (htop.subperm.subset hg)
    obtain ⟨i, -, rfl⟩ := List.mem_map.mp hl
    exact allGrasps_ne_nan fp env goal hg
  exact hdesc.imp_of_mem fun ha hb hab => (Double.le_iff (hnan _ hb) (hnan _ ha)).mpr hab

theorem result_has_best_grasps_two :
    let costs := [.nan, .finite (-1), .finite 2, .posInf]
    let env : ℕ → PlanningEnv := fun _ => Sample.env costs
    let goal := Sample.goal [1, 1] 3
    let result := (executePlanGraspsAction .exact Sample.sort (fun _ => false) env goal).result.rankedGrasps
    let all := ((List.range goal.candidates.length).map (allGrasps .exact env goal)).flatten
    let k := if 0 < goal.maxNumGrasps then goal.maxNumGrasps.toNat else 1
    (result.Pairwise fun a b => b.grasp.graspQuality.le a.grasp.graspQuality = true) ∧
    result.length = min k all.length ∧ result <+~ all ∧
    result.map quality = topKeys quality k all := by
  intro costs env goal
  have hcost : CostOrdered (Sample.solutions costs) := by decide +kernel
  exact result_has_best_grasps .exact Sample.sort env goal (fun _ _ => hcost) (by decide +kernel)

end MoveitPlanning.Grasping
