import MoveitPlanning.Grasping.Ranking

/-! What one failing candidate does to the others. The pool is evaluated as its
interface says when every candidate is planned, the action succeeds if some candidate
did, and its result ranks the grasps of those that did. The loop aborts at the first
failure, so with more than one candidate this needs all of them to succeed. -/

namespace MoveitPlanning.Grasping

open Foundation Scene

section Pool
variable (fp : Rounding) (sort : StdSort qualityGreater) (env : ℕ → PlanningEnv) (goal : Goal)

/-- The run evaluates all candidates and ranks the grasps of those that succeed. -/
def EvaluatesPool : Prop :=
  let run := executePlanGraspsAction fp sort (fun _ => false) env goal
  let pool := List.range goal.candidates.length
  run.planned = pool ∧
  (run.terminal = .succeed ↔ ∃ i ∈ pool, (candidateOutcome fp env goal i).isSome) ∧
  run.result.rankedGrasps =
    rankGrasps sort goal (pool.map fun i => (candidateOutcome fp env goal i).getD []).flatten

variable {fp sort env goal}

theorem not_stops_of_isSome {i : ℕ} (h : (candidateOutcome fp env goal i).isSome) :
    ¬Stops fp (fun _ => false) env goal i := by
  rintro (hcancel | hfail)
  · cases hcancel
  · simp [hfail] at h

theorem evaluatesPool_of_all (hne : goal.candidates ≠ [])
    (hall : ∀ i < goal.candidates.length, (candidateOutcome fp env goal i).isSome) :
    EvaluatesPool fp sort env goal := by
  have hpos : 0 < goal.candidates.length := List.length_pos_iff.mpr hne
  obtain ⟨hplanned, hresult, hterminal, -⟩ :=
    execute_of_no_stop sort fun i hi => not_stops_of_isSome (hall i hi)
  refine ⟨hplanned, ?_, hresult⟩
  -- the first candidate has a grasp, so the merged list is not empty, nor is its cut
  obtain ⟨grasps, hfirst⟩ := Option.isSome_iff_exists.mp (hall 0 hpos)
  obtain ⟨g, hg⟩ := List.exists_mem_of_ne_nil _ (candidateOutcome_eq_some fp env goal hfirst).2
  have hmem : g ∈ graspsBefore fp env goal goal.candidates.length :=
    List.mem_flatten.mpr ⟨_, List.mem_map_of_mem (List.mem_range.mpr hpos), by rwa [hfirst]⟩
  have hsorted := (sort_graspsBefore fp env goal sort goal.candidates.length).1.mem_iff.mpr hmem
  have hranked : rankGrasps sort goal (graspsBefore fp env goal goal.candidates.length) ≠ [] := by
    rw [rankGrasps, ne_eq, List.take_eq_nil_iff, not_or]
    exact ⟨goal.maxNumGraspsOrOne_pos.ne', List.ne_nil_of_mem hsorted⟩
  rw [hterminal, if_neg hranked]
  exact ⟨fun _ => ⟨0, List.mem_range.mpr hpos, hall 0 hpos⟩, fun _ => rfl⟩

variable (sort) in
theorem execute_of_first_failure {i : ℕ} (hi : i < goal.candidates.length)
    (hfail : candidateOutcome fp env goal i = none)
    (hbefore : ∀ j < i, (candidateOutcome fp env goal j).isSome) :
    let run := executePlanGraspsAction fp sort (fun _ => false) env goal
    run.planned = List.range (i + 1) ∧ run.terminal = .abort := by
  have hfirst : FirstStop fp (fun _ => false) env goal i :=
    ⟨hi, .inr hfail, fun j hj => not_stops_of_isSome (hbefore j hj)⟩
  obtain ⟨-, hplanned, hterminal, -⟩ := execute_of_firstStop sort hfirst
  exact ⟨hplanned, hterminal⟩

/-- A candidate that fails alone leaves nothing out: there are no grasps to rank. -/
theorem evaluatesPool_of_single (hone : goal.candidates.length = 1)
    (hfail : candidateOutcome fp env goal 0 = none) : EvaluatesPool fp sort env goal := by
  have hrange : List.range goal.candidates.length = [0] := by rw [hone]; rfl
  have hempty : sort.sort ([] : List RankedGrasp) = [] := by
    have hw : StrictWeakOn qualityGreater [] := ⟨by simp, by simp, by simp⟩
    exact List.perm_nil.mp (sort.perm [] hw)
  have hrun : executePlanGraspsAction fp sort (fun _ => false) env goal =
      { Progress.init with planned := [0] }.finish .abort .failure := by
    simp only [executePlanGraspsAction, hrange, planCandidates, hfail, Bool.false_eq_true, if_false]
    rfl
  rw [EvaluatesPool, hrun, hrange]
  refine ⟨rfl, ?_, ?_⟩
  · simp [Progress.finish, hfail]
  · simp [Progress.finish, Progress.init, hfail, rankGrasps, hempty]

/-- The pool is evaluated exactly when every candidate succeeds, or when there is only
one. -/
theorem evaluatesPool_iff {sceneReady : Bool}
    (haccept : handlePlanGraspsGoal sceneReady goal = .acceptAndExecute) :
    EvaluatesPool fp sort env goal ↔
      (∀ i < goal.candidates.length, (candidateOutcome fp env goal i).isSome) ∨
        goal.candidates.length = 1 := by
  have hne := candidates_ne_nil_of_accepted haccept
  have hpos : 0 < goal.candidates.length := List.length_pos_iff.mpr hne
  by_cases hall : ∀ i < goal.candidates.length, (candidateOutcome fp env goal i).isSome
  · exact iff_of_true (evaluatesPool_of_all hne hall) (.inl hall)
  · have hex : ∃ i, i < goal.candidates.length ∧ candidateOutcome fp env goal i = none := by
      push Not at hall
      obtain ⟨i, hi, hnone⟩ := hall
      exact ⟨i, hi, by simpa using hnone⟩
    -- the first candidate that fails
    obtain ⟨hi, hfail⟩ := Nat.find_spec hex
    have hbefore : ∀ j < Nat.find hex, (candidateOutcome fp env goal j).isSome := fun j hj => by
      have := Nat.find_min hex hj
      rw [not_and] at this
      exact Option.isSome_iff_ne_none.mpr (this (hj.trans hi))
    obtain ⟨hplanned, hterminal⟩ := execute_of_first_failure sort hi hfail hbefore
    generalize Nat.find hex = i at *
    rw [or_iff_right hall]
    constructor
    · rintro ⟨hpool, hsucceed, -⟩
      have hlast : i + 1 = goal.candidates.length := by
        have := congrArg List.length (hplanned.symm.trans hpool)
        simpa using this
      by_contra hone
      have hzero : (candidateOutcome fp env goal 0).isSome := hbefore 0 (by omega)
      have := hsucceed.mpr ⟨0, List.mem_range.mpr hpos, hzero⟩
      rw [hterminal] at this
      cases this
    · intro hone
      obtain rfl : i = 0 := by omega
      exact evaluatesPool_of_single hone hfail

end Pool

/-- The second of two candidates is not in the scene: the action is aborted, although
the first one has a grasp. -/
theorem failing_candidate_aborts_pool :
    let env : ℕ → PlanningEnv := fun _ => Sample.env [.finite 0]
    let goal := Sample.goal [1, 0] 1
    handlePlanGraspsGoal true goal = .acceptAndExecute ∧
      (candidateOutcome .exact env goal 0).isSome ∧ candidateOutcome .exact env goal 1 = none ∧
      ¬EvaluatesPool .exact Sample.sort env goal := by
  intro env goal
  have hfirst : (candidateOutcome .exact env goal 0).isSome := by decide +kernel
  have haborted : (executePlanGraspsAction .exact Sample.sort (fun _ => false) env goal).terminal ≠ .succeed := by
    decide +kernel
  refine ⟨by decide +kernel, hfirst, by decide +kernel, fun h => ?_⟩
  exact haborted (h.2.1.mpr ⟨0, by decide, hfirst⟩)

theorem evaluatesPool_iff_two :
    let env : ℕ → PlanningEnv := fun _ => Sample.env [.finite 0]
    let goal := Sample.goal [1, 1] 1
    EvaluatesPool .exact Sample.sort env goal ↔
      (∀ i < goal.candidates.length, (candidateOutcome .exact env goal i).isSome) ∨
        goal.candidates.length = 1 := by
  intro env goal
  have haccept : handlePlanGraspsGoal true goal = .acceptAndExecute := by decide +kernel
  exact evaluatesPool_iff haccept

end MoveitPlanning.Grasping
