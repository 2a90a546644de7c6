import MoveitPlanning.Grasping.Ranking

/-! What the result carries on the early exits. The grasps are ranked and cut off only
after the loop; where a cancel request or a failing candidate ends the loop, the result
is delivered with the grasps of the candidates before it, in the order in which they
were planned. -/

namespace MoveitPlanning.Grasping

open Foundation Scene

/-- In order of quality, and no more than the goal asks for. -/
def RankedAndCut (goal : Goal) (grasps : List RankedGrasp) : Prop :=
  (grasps.Pairwise fun a b => b.grasp.graspQuality.le a.grasp.graspQuality = true) ∧
    grasps.length ≤ if 0 < goal.maxNumGrasps then goal.maxNumGrasps.toNat else 1

instance (goal : Goal) (grasps : List RankedGrasp) : Decidable (RankedAndCut goal grasps) :=
  inferInstanceAs (Decidable (_ ∧ _))

section Exit
variable (fp : Rounding) (sort : StdSort qualityGreater) (isCanceling : ℕ → Bool) (env : ℕ → PlanningEnv)
  (goal : Goal)

/-- What comes after the loop ranks and cuts whatever the loop has left. -/
theorem rankGrasps_rankedAndCut (i : ℕ) :
    RankedAndCut goal (rankGrasps sort goal (graspsBefore fp env goal i)) := by
  obtain ⟨hperm, hsorted⟩ := sort_graspsBefore fp env goal sort i
  have hdesc : Descending quality (rankGrasps sort goal (graspsBefore fp env goal i)) :=
    hsorted.sublist (List.take_sublist _ _)
  have hnan : ∀ g ∈ rankGrasps sort goal (graspsBefore fp env goal i), quality g ≠ .nan := by
    intro g hg
    exact graspsBefore_ne_nan fp env goal (hperm.mem_iff.mp (List.mem_of_mem_take hg))
  constructor
  · apply hdesc.imp_of_mem
    intro a b ha hb hab
    exact (Double.le_iff (hnan b hb) (hnan a ha)).mpr hab
  · exact List.length_take_le _ _

/-- The result is ranked and cut exactly when no candidate stops the loop, or the grasps
of those before it happen to be in order and few enough. -/
theorem delivered_ranked_iff :
    RankedAndCut goal (executePlanGraspsAction fp sort isCanceling env goal).result.rankedGrasps ↔
      ∀ i, FirstStop fp isCanceling env goal i → RankedAndCut goal (graspsBefore fp env goal i) := by
  rcases exists_firstStop_or fp isCanceling env goal with ⟨i, hi⟩ | hnone
  · rw [(execute_of_firstStop sort hi).1]
    constructor
    · intro h j hj
      -- there is only one first stop
      have hle : ¬i < j := fun hlt => hj.passes i hlt hi.stops
      have hge : ¬j < i := fun hlt => hi.passes j hlt hj.stops
      rwa [show j = i by omega]
    · exact fun h => h i hi
  · rw [(execute_of_no_stop sort hnone).2.1]
    apply iff_of_true
    · exact rankGrasps_rankedAndCut fp sort env goal _
    · exact fun i hi => absurd hi.stops (hnone i hi.lt)

end Exit

/-- Two grasps where one was asked for, the better one last: when the third candidate is
canceled, and when it fails. -/
theorem unranked_result_delivered :
    let env : ℕ → PlanningEnv := fun i => Sample.env [if i = 0 then .finite 2 else .finite 0]
    let canceled := executePlanGraspsAction .exact Sample.sort (fun i => decide (2 ≤ i)) env
      (Sample.goal [1, 1, 1] 1)
    let aborted := executePlanGraspsAction .exact Sample.sort (fun _ => false) env (Sample.goal [1, 1, 0] 2)
    (canceled.terminal = .canceled ∧ ¬RankedAndCut (Sample.goal [1, 1, 1] 1) canceled.result.rankedGrasps) ∧
      (aborted.terminal = .abort ∧ ¬RankedAndCut (Sample.goal [1, 1, 0] 2) aborted.result.rankedGrasps) := by
  decide +kernel

end MoveitPlanning.Grasping
