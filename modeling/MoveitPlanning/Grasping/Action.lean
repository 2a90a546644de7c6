import MoveitPlanning.Grasping.Pipeline
import MoveitPlanning.Foundation.StdSort

/-! The action server around the pipeline. `execute_plan_grasps_action` plans the
candidates one after another, ends early when a cancel request has come in or a
candidate fails, and otherwise sorts the grasps by quality and cuts them off. A run is
recorded as the candidates it planned, the feedback it published, and the one terminal
call with its result. `is_canceling` is an oracle that is asked once for each candidate. -/

namespace MoveitPlanning.Grasping

open Foundation Scene

/-! ### Goals -/

inductive GoalResponse
  | reject | acceptAndExecute
  deriving DecidableEq, Repr

/-- `handle_plan_grasps_goal`. -/
def handlePlanGraspsGoal (sceneReady : Bool) (goal : Goal) : GoalResponse :=
  if !sceneReady then .reject
  else if goal.candidates = [] then .reject
  else if goal.candidates.any fun candidate => candidate.targetId = [] then .reject
  else .acceptAndExecute

theorem candidates_ne_nil_of_accepted {sceneReady : Bool} {goal : Goal}
    (h : handlePlanGraspsGoal sceneReady goal = .acceptAndExecute) : goal.candidates ≠ [] := by
  intro hnil
  simp [handlePlanGraspsGoal, hnil] at h

/-! ### Execution -/

/-- The terminal calls on a goal handle. -/
inductive Terminal
  | succeed | abort | canceled
  deriving DecidableEq, Repr

structure ActionRun where
  /-- the candidates for which `PlanGrasps` was called -/
  planned : List ℕ
  feedback : List Feedback
  terminal : Terminal
  result : Result
  deriving DecidableEq, Repr

/-- The state of the loop over the candidates. -/
structure Progress where
  planned : List ℕ
  feedback : List Feedback
  rankedGrasps : List RankedGrasp

def Progress.init : Progress := ⟨[], [], []⟩

def Progress.finish (p : Progress) (terminal : Terminal) (errorCode : MoveItErrorCode) : ActionRun where
  planned := p.planned
  feedback := p.feedback
  terminal
  result := ⟨p.rankedGrasps, errorCode⟩

/-- `PlanGraspsForCandidate`, given what `PlanGrasps` left in its result. -/
def planGraspsForCandidate (candidateResult : Result) : Option (List RankedGrasp) :=
  if candidateResult.errorCode ≠ .success then none else some candidateResult.rankedGrasps

section Loop
variable (isCanceling : ℕ → Bool) (outcome : ℕ → Option (List RankedGrasp)) (totalCandidates : ℕ)

/-- The loop over the candidates that are left; an error is an early return. -/
def planCandidates : List ℕ → Progress → Except ActionRun Progress
  | [], p => .ok p
  | candidateIndex :: rest, p =>
    if isCanceling candidateIndex then .error (p.finish .canceled .preempted)
    else
      match outcome candidateIndex with
      | none =>
        .error ({ p with planned := p.planned ++ [candidateIndex] }.finish .abort .failure)
      | some candidateGrasps =>
        planCandidates rest {
          planned := p.planned ++ [candidateIndex]
          feedback := p.feedback ++
            [⟨UInt32.ofNat (candidateIndex + 1), UInt32.ofNat totalCandidates⟩]
          rankedGrasps := p.rankedGrasps ++ candidateGrasps }

end Loop

def quality (g : RankedGrasp) : Double := g.grasp.graspQuality

/-- The comparison of the final sort. -/
def qualityGreater (lhs rhs : RankedGrasp) : Bool := rhs.grasp.graspQuality.lt lhs.grasp.graspQuality

section Execute
variable (fp : Rounding) (sort : StdSort qualityGreater) (isCanceling : ℕ → Bool)

/-- The sort and the cut at the end. -/
def rankGrasps (goal : Goal) (grasps : List RankedGrasp) : List RankedGrasp :=
  (sort.sort grasps).take goal.maxNumGraspsOrOne

/-- The outcome of planning the candidate at an index. -/
def candidateOutcome (env : ℕ → PlanningEnv) (goal : Goal) (candidateIndex : ℕ) :
    Option (List RankedGrasp) :=
  match goal.candidates[candidateIndex]? with
  | none => none
  | some candidate => planGraspsForCandidate
      (planGrasps fp (env candidateIndex) goal candidate (UInt32.ofNat candidateIndex))

/-- `execute_plan_grasps_action`; the pipeline meets `env i` when it plans candidate `i`. -/
def executePlanGraspsAction (env : ℕ → PlanningEnv) (goal : Goal) : ActionRun :=
  match planCandidates isCanceling (candidateOutcome fp env goal) goal.candidates.length
      (List.range goal.candidates.length) Progress.init with
  | .error run => run
  | .ok p =>
    let ranked := rankGrasps sort goal p.rankedGrasps
    if ranked = [] then { p with rankedGrasps := ranked }.finish .abort .planningFailed
    else { p with rankedGrasps := ranked }.finish .succeed .success

end Execute

/-! ### The loop as far as it goes -/

section Loop
variable {isCanceling : ℕ → Bool} {outcome : ℕ → Option (List RankedGrasp)} (totalCandidates : ℕ)
  {grasps : ℕ → List RankedGrasp} {is : List ℕ}

/-- Candidates that are not canceled and have grasps are taken one after another. -/
theorem planCandidates_append (rest : List ℕ)
    (h : ∀ i ∈ is, isCanceling i = false ∧ outcome i = some (grasps i)) (p : Progress) :
    ∃ feedback, planCandidates isCanceling outcome totalCandidates (is ++ rest) p =
      planCandidates isCanceling outcome totalCandidates rest {
        planned := p.planned ++ is
        feedback
        rankedGrasps := p.rankedGrasps ++ (is.map grasps).flatten } := by
  induction is generalizing p with
  | nil => exact ⟨p.feedback, by simp⟩
  | cons i is ih =>
    obtain ⟨⟨hcancel, hi⟩, his⟩ := List.forall_mem_cons.mp h
    obtain ⟨feedback, hrest⟩ := ih his {
      planned := p.planned ++ [i]
      feedback := p.feedback ++ [⟨UInt32.ofNat (i + 1), UInt32.ofNat totalCandidates⟩]
      rankedGrasps := p.rankedGrasps ++ grasps i }
    refine ⟨feedback, ?_⟩
    simp only [List.cons_append, planCandidates, hcancel, Bool.false_eq_true, if_false, hi, hrest]
    simp

theorem planCandidates_of_all (h : ∀ i ∈ is, isCanceling i = false ∧ outcome i = some (grasps i))
    (p : Progress) :
    ∃ feedback, planCandidates isCanceling outcome totalCandidates is p = .ok {
      planned := p.planned ++ is
      feedback
      rankedGrasps := p.rankedGrasps ++ (is.map grasps).flatten } := by
  obtain ⟨feedback, hloop⟩ := planCandidates_append totalCandidates [] h p
  rw [List.append_nil] at hloop
  exact ⟨feedback, hloop⟩

/-- The first candidate that fails is the last one planned, and the action is aborted
with the grasps of those before it. -/
theorem planCandidates_of_failure {i : ℕ} (rest : List ℕ)
    (h : ∀ j ∈ is, isCanceling j = false ∧ outcome j = some (grasps j)) (hcancel : isCanceling i = false)
    (hi : outcome i = none) (p : Progress) :
    ∃ run, planCandidates isCanceling outcome totalCandidates (is ++ i :: rest) p = .error run ∧
      run.planned = p.planned ++ is ++ [i] ∧ run.terminal = .abort ∧
      run.result = ⟨p.rankedGrasps ++ (is.map grasps).flatten, .failure⟩ := by
  obtain ⟨feedback, hloop⟩ := planCandidates_append totalCandidates (i :: rest) h p
  refine ⟨Progress.finish ⟨p.planned ++ is ++ [i], feedback, p.rankedGrasps ++ (is.map grasps).flatten⟩
    .abort .failure, ?_, rfl, rfl, rfl⟩
  simp only [hloop, planCandidates, hcancel, Bool.false_eq_true, if_false, hi]

/-- The first reading that is true ends the action before its candidate is planned. -/
theorem planCandidates_of_canceled {i : ℕ} (rest : List ℕ)
    (h : ∀ j ∈ is, isCanceling j = false ∧ outcome j = some (grasps j)) (hcancel : isCanceling i = true)
    (p : Progress) :
    ∃ run, planCandidates isCanceling outcome totalCandidates (is ++ i :: rest) p = .error run ∧
      run.planned = p.planned ++ is ∧ run.terminal = .canceled ∧
      run.result = ⟨p.rankedGrasps ++ (is.map grasps).flatten, .preempted⟩ := by
  obtain ⟨feedback, hloop⟩ := planCandidates_append totalCandidates (i :: rest) h p
  refine ⟨Progress.finish ⟨p.planned ++ is, feedback, p.rankedGrasps ++ (is.map grasps).flatten⟩
    .canceled .preempted, ?_, rfl, rfl, rfl⟩
  simp only [hloop, planCandidates, hcancel, if_true]

end Loop

/-! ### Where the action stops -/

section Stop
variable (fp : Rounding) (sort : StdSort qualityGreater) (isCanceling : ℕ → Bool) (env : ℕ → PlanningEnv)
  (goal : Goal)

/-- The loop does not get past the candidate. -/
def Stops (i : ℕ) : Prop := isCanceling i = true ∨ candidateOutcome fp env goal i = none

/-- The candidate is the first that the loop does not get past. -/
structure FirstStop (i : ℕ) : Prop where
  lt : i < goal.candidates.length
  stops : Stops fp isCanceling env goal i
  passes : ∀ j < i, ¬Stops fp isCanceling env goal j

/-- The grasps of the candidates before the `i`-th, in the order in which they were planned. -/
def graspsBefore (i : ℕ) : List RankedGrasp :=
  ((List.range i).map fun j => (candidateOutcome fp env goal j).getD []).flatten

variable {fp isCanceling env goal}

theorem outcome_of_not_stops {i : ℕ} (h : ¬Stops fp isCanceling env goal i) :
    isCanceling i = false ∧
      candidateOutcome fp env goal i = some ((candidateOutcome fp env goal i).getD []) := by
  rw [Stops, not_or] at h
  obtain ⟨grasps, hg⟩ := Option.ne_none_iff_exists'.mp h.2
  exact ⟨by simpa using h.1, by rw [hg, Option.getD_some]⟩

/-- Either no candidate stops the loop or one is the first to do so. -/
theorem exists_firstStop_or (fp : Rounding) (isCanceling : ℕ → Bool) (env : ℕ → PlanningEnv) (goal : Goal) :
    (∃ i, FirstStop fp isCanceling env goal i) ∨
      ∀ i < goal.candidates.length, ¬Stops fp isCanceling env goal i := by
  classical
  by_cases h : ∃ i, i < goal.candidates.length ∧ Stops fp isCanceling env goal i
  · obtain ⟨hlt, hstops⟩ := Nat.find_spec h
    refine .inl ⟨Nat.find h, hlt, hstops, fun j hj hstop => ?_⟩
    exact Nat.find_min h hj ⟨hj.trans hlt, hstop⟩
  · exact .inr fun i hi hstop => h ⟨i, hi, hstop⟩

theorem range_eq_append_cons {i n : ℕ} (h : i < n) :
    ∃ rest, List.range n = List.range i ++ i :: rest := by
  obtain ⟨m, rfl⟩ : ∃ m, n = i + 1 + m := ⟨n - (i + 1), by omega⟩
  exact ⟨_, by rw [List.range_add, List.range_succ, List.append_assoc, List.singleton_append]⟩

theorem execute_of_firstStop {i : ℕ} (h : FirstStop fp isCanceling env goal i) :
    let run := executePlanGraspsAction fp sort isCanceling env goal
    run.result.rankedGrasps = graspsBefore fp env goal i ∧
      if isCanceling i then
        run.planned = List.range i ∧ run.terminal = .canceled ∧ run.result.errorCode = .preempted
      else run.planned = List.range (i + 1) ∧ run.terminal = .abort ∧ run.result.errorCode = .failure := by
  intro run
  have hbefore : ∀ j ∈ List.range i, isCanceling j = false ∧
      candidateOutcome fp env goal j = some ((candidateOutcome fp env goal j).getD []) :=
    fun j hj => outcome_of_not_stops (h.passes j (List.mem_range.mp hj))
  obtain ⟨rest, hrange⟩ := range_eq_append_cons h.lt
  cases hcancel : isCanceling i with
  | true =>
    obtain ⟨r, hr, hplanned, hterminal, hresult⟩ :=
      planCandidates_of_canceled goal.candidates.length rest hbefore hcancel Progress.init
    have hrun : run = r := by simp only [run, executePlanGraspsAction, hrange, hr]
    rw [if_pos rfl, hrun, hplanned, hterminal, hresult]
    exact ⟨rfl, rfl, rfl, rfl⟩
  | false =>
    have hfail : candidateOutcome fp env goal i = none := h.stops.resolve_left (by simp [hcancel])
    obtain ⟨r, hr, hplanned, hterminal, hresult⟩ :=
      planCandidates_of_failure goal.candidates.length rest hbefore hcancel hfail Progress.init
    have hrun : run = r := by simp only [run, executePlanGraspsAction, hrange, hr]
    rw [if_neg Bool.false_ne_true, hrun, hplanned, hterminal, hresult, List.range_succ]
    exact ⟨rfl, rfl, rfl, rfl⟩

/-- A run without a stop plans all candidates and ranks their grasps. -/
theorem execute_of_no_stop (h : ∀ i < goal.candidates.length, ¬Stops fp isCanceling env goal i) :
    let run := executePlanGraspsAction fp sort isCanceling env goal
    let ranked := rankGrasps sort goal (graspsBefore fp env goal goal.candidates.length)
    run.planned = List.range goal.candidates.length ∧ run.result.rankedGrasps = ranked ∧
      run.terminal = (if ranked = [] then .abort else .succeed) ∧
      run.result.errorCode = if ranked = [] then .planningFailed else .success := by
  intro run ranked
  obtain ⟨feedback, hloop⟩ := planCandidates_of_all goal.candidates.length
    (fun i hi => outcome_of_not_stops (h i (List.mem_range.mp hi))) Progress.init
  simp only [Progress.init, List.nil_append] at hloop
  simp only [run, executePlanGraspsAction, Progress.init, hloop]
  split_ifs with hranked hempty hempty
  · exact ⟨rfl, rfl, rfl, rfl⟩
  · exact absurd hranked hempty
  · exact absurd hempty hranked
  · exact ⟨rfl, rfl, rfl, rfl⟩

end Stop

/-! ### A small goal for concrete cases -/

namespace Sample

def candidate (size : Double) : GraspCandidate := ⟨"box/whole".toList, ⟨size, size, size⟩, Pose.identity⟩

/-- A goal for candidates of the given sizes; a size of 0 is looked up in the scene. -/
def goal (sizes : List Double) (maxNumGrasps : ℤ) : Goal where
  groupName := "arm".toList
  endEffectorGroup := []
  toolFrame := []
  planningTimeoutSec := 1
  gripperMotionDurationSec := 1
  retractDistM := 1
  surfaces := []
  numRotations := 1
  maxNumGrasps
  candidates := sizes.map candidate

def solutions (costs : List Double) : List (Option Solution) := costs.map fun cost =>
  some ⟨false, true, cost, .ok ⟨⟨[], Pose.identity⟩, [], some ⟨[], Pose.identity⟩, none⟩⟩

/-- An empty planning scene and a task with solutions of the given costs. -/
def env (costs : List Double) : PlanningEnv where
  node := true
  planningSceneObjectIds := []
  planningSceneCollisionObject _ := none
  computeObjectBoundingBox _ := none
  robotModel := .ok (some ⟨[], fun _ => true, fun _ => true, fun _ => some ⟨[], [], fun _ => some fun _ => none⟩⟩)
  initTask _ := .ok ()
  planTask _ := .ok true
  solutions _ := solutions costs
  publishSolution _ := .ok ()

def sort : StdSort qualityGreater := .insertion quality fun _ _ h => (of_decide_eq_true h).2.2

end Sample

end MoveitPlanning.Grasping
