import MoveitPlanning.Grasping.Skill

/-! The way of an error code from the pipeline to the skill's caller. A candidate that
fails leaves the loop as `nullopt`, and the action's result says `FAILURE` whatever the
pipeline has found; the skill then has a status for every code and is given one. -/

namespace MoveitPlanning.Grasping

open Foundation Scene

/-- The action's result has the code, and the skill's caller gets the status of it. -/
structure CauseReported (run : ActionRun) (answer : Except Failure GraspPlanningResult) (code : MoveItErrorCode) :
    Prop where
  code_eq : run.result.errorCode = code
  status : ∃ failure, moveItErrorCodeToStatus code [] = .error failure ∧ answer = .error failure

section Skill
variable {W Object Node : Type*} (fp : Rounding) (nowMs : ℤ) (world : ObjectWorld W Object Node)
  {params : GraspPlanningParams} (w : W)

/-- The skill passes the code of an aborted action on as its status. -/
theorem execute_of_aborted {run : ActionRun} (hparams : params.candidateObjects.entries ≠ [])
    (hterminal : run.terminal = .abort) {failure : Failure}
    (hcode : moveItErrorCodeToStatus run.result.errorCode [] = .error failure) :
    execute fp nowMs (fun _ _ => run.exchange) world (.ok params) w = (.error failure, w) := by
  have hcall : callGraspPlanningAction run.exchange = .ok run.result := by
    simp only [callGraspPlanningAction, ActionRun.exchange, hterminal, Terminal.code]
    rfl
  have hresults : planningResults fp (fun _ _ => run.exchange) params = .error failure := by
    simp only [planningResults, if_neg hparams, hcall, checkedResults, hcode]
  simp only [execute, hresults]

end Skill

section Action
variable (fp : Rounding) (sort : StdSort qualityGreater) (isCanceling : ℕ → Bool) (env : ℕ → PlanningEnv)
  (goal : Goal)

/-- A candidate that was planned and failed ends the action with `FAILURE`. -/
theorem execute_of_planned_failure {i : ℕ} (hfail : candidateOutcome fp env goal i = none)
    (hplanned : i ∈ (executePlanGraspsAction fp sort isCanceling env goal).planned) :
    let run := executePlanGraspsAction fp sort isCanceling env goal
    run.terminal = .abort ∧ run.result.errorCode = .failure := by
  intro run
  have hstops : Stops fp isCanceling env goal i := .inr hfail
  rcases exists_firstStop_or fp isCanceling env goal with ⟨j, hj⟩ | hnone
  · have hge : ¬i < j := fun hlt => hj.passes i hlt hstops
    obtain ⟨-, hend⟩ := execute_of_firstStop sort hj
    split_ifs at hend with hcancel
    · rw [hend.1, List.mem_range] at hplanned
      exact absurd hplanned hge
    · exact hend.2
  · rw [(execute_of_no_stop sort hnone).1, List.mem_range] at hplanned
    exact absurd hstops (hnone i hplanned)

variable {fp sort isCanceling env goal}

/-- The code of a candidate that makes the action fail is reported exactly when it is
the one code that every failure is reported with. -/
theorem cause_reported_iff {W Object Node : Type*} (nowMs : ℤ) (world : ObjectWorld W Object Node) (w : W)
    {params : GraspPlanningParams} (hparams : params.candidateObjects.entries ≠ []) {i : ℕ}
    {candidate : GraspCandidate} (hcandidate : goal.candidates[i]? = some candidate)
    (hplanned : i ∈ (executePlanGraspsAction fp sort isCanceling env goal).planned)
    (hcode : (planGrasps fp (env i) goal candidate (UInt32.ofNat i)).errorCode ≠ .success) :
    let run := executePlanGraspsAction fp sort isCanceling env goal
    let code := (planGrasps fp (env i) goal candidate (UInt32.ofNat i)).errorCode
    CauseReported run (execute fp nowMs (fun _ _ => run.exchange) world (.ok params) w).1 code ↔
      code = .failure := by
  intro run code
  have hfail : candidateOutcome fp env goal i = none := by
    simp only [candidateOutcome, hcandidate, planGraspsForCandidate, if_pos hcode]
  obtain ⟨hterminal, hresult⟩ := execute_of_planned_failure fp sort isCanceling env goal hfail hplanned
  constructor
  · intro h
    exact h.code_eq.symm.trans hresult
  · intro hfailure
    have hstatus : ∃ failure, moveItErrorCodeToStatus .failure [] = .error failure := ⟨_, rfl⟩
    obtain ⟨failure, hstatus⟩ := hstatus
    refine ⟨hresult.trans hfailure.symm, failure, by rw [hfailure, hstatus], ?_⟩
    rw [execute_of_aborted fp nowMs world w hparams hterminal (by rw [hresult, hstatus])]

end Action

/-- The only candidate is not in the planning scene, and the caller is told of an
internal error. -/
theorem object_not_found_unreported :
    let goal := Sample.goal [0] 1
    let env : ℕ → PlanningEnv := fun _ => Sample.env []
    let run := executePlanGraspsAction .exact Sample.sort (fun _ => false) env goal
    let answer := (execute .exact 0 (fun _ _ => run.exchange) Sample.emptyWorld
      (.ok (Sample.params (.id "box".toList))) ()).1
    (planGrasps .exact (env 0) goal (Sample.candidate 0) 0).errorCode = .invalidObjectName ∧
      run.planned = [0] ∧ run.result.errorCode = .failure ∧
      answer = .error ⟨.internal, "Grasp planning failed with MoveIt error code: 99999.".toList⟩ ∧
      ¬CauseReported run answer .invalidObjectName := by
  intro goal env run answer
  have hresult : run.result.errorCode = .failure := by decide +kernel
  refine ⟨by decide +kernel, by decide +kernel, hresult, by decide +kernel, fun h => ?_⟩
  exact MoveItErrorCode.noConfusion (hresult.symm.trans h.code_eq)

theorem cause_reported_iff_box :
    let goal := Sample.goal [0] 1
    let env : ℕ → PlanningEnv := fun _ => Sample.env []
    let run := executePlanGraspsAction .exact Sample.sort (fun _ => false) env goal
    let code := (planGrasps .exact (env 0) goal (Sample.candidate 0) (UInt32.ofNat 0)).errorCode
    CauseReported run (execute .exact 0 (fun _ _ => run.exchange) Sample.emptyWorld
      (.ok (Sample.params (.id "box".toList))) ()).1 code ↔ code = .failure :=
  cause_reported_iff 0 Sample.emptyWorld () (by simp [Sample.params, Repeated.one]) rfl (by decide +kernel)
    (by decide +kernel)

end MoveitPlanning.Grasping
