import MoveitPlanning.Grasping.Action
import MoveitPlanning.Foundation.Run

/-! `execute_plan_grasps_action` step by step. A cancel request may be accepted between
any two of its steps; the loop reads it once for each candidate, at the top. Every run
makes one terminal call, whose kind goes with its error code, and a run that has ended
is one of the function as a whole. -/

namespace MoveitPlanning.Grasping

open Foundation Scene

/-! ### The handle and the loop -/

inductive CancelResponse
  | reject | accept
  deriving DecidableEq, Repr

/-- `handle_plan_grasps_cancel`. -/
def handlePlanGraspsCancel : CancelResponse := .accept

/-- Where the function is. -/
inductive ActionPhase
  | top (candidateIndex : ℕ)
  | planning (candidateIndex : ℕ)
  /-- the candidate's grasps are taken, its feedback is still to be published -/
  | reporting (candidateIndex : ℕ)
  | ended
  deriving DecidableEq, Repr

structure ActionState where
  /-- `is_canceling()` -/
  canceling : Bool
  phase : ActionPhase
  /-- what `PlanGraspsForCandidate` has returned, call by call -/
  outcomes : List (Option (List RankedGrasp))
  feedback : List Feedback
  rankedGrasps : List RankedGrasp
  /-- the terminal calls on the handle -/
  terminals : List (Terminal × Result)

def ActionState.init : ActionState := ⟨false, .top 0, [], [], [], []⟩

/-- A terminal call, and the return that follows it. -/
def ActionState.finish (s : ActionState) (terminal : Terminal) (rankedGrasps : List RankedGrasp)
    (errorCode : MoveItErrorCode) : ActionState :=
  { s with phase := .ended, terminals := s.terminals ++ [(terminal, ⟨rankedGrasps, errorCode⟩)] }

inductive ActionLabel
  | cancelRequest
  /-- the test at the top of the loop, inside it -/
  | readCanceling
  /-- `PlanGraspsForCandidate`, whose call of the pipeline meets `env` -/
  | planCandidate (env : PlanningEnv)
  | publishFeedback
  /-- what comes after the loop -/
  | rank

def ActionLabel.isOwn : ActionLabel → Bool
  | .cancelRequest => false
  | _ => true

section Step
variable (fp : Rounding) (sort : StdSort qualityGreater) (goal : Goal)

def actionStep (s : ActionState) : ActionLabel → Option ActionState
  | .cancelRequest =>
    -- a goal with a terminal state cannot be canceled any more
    if s.phase = .ended then none
    else some { s with canceling := s.canceling || decide (handlePlanGraspsCancel = .accept) }
  | .readCanceling =>
    match s.phase with
    | .top i =>
      if i < goal.candidates.length then
        if s.canceling then some (s.finish .canceled s.rankedGrasps .preempted)
        else some { s with phase := .planning i }
      else none
    | _ => none
  | .planCandidate env =>
    match s.phase with
    | .planning i =>
      match candidateOutcome fp (fun _ => env) goal i with
      | none => some ({ s with outcomes := s.outcomes ++ [none] }.finish .abort s.rankedGrasps .failure)
      | some candidateGrasps => some { s with
          phase := .reporting i
          outcomes := s.outcomes ++ [some candidateGrasps]
          rankedGrasps := s.rankedGrasps ++ candidateGrasps }
    | _ => none
  | .publishFeedback =>
    match s.phase with
    | .reporting i => some { s with
        phase := .top (i + 1)
        feedback := s.feedback ++
          [⟨UInt32.ofNat (i + 1), UInt32.ofNat goal.candidates.length⟩] }
    | _ => none
  | .rank =>
    match s.phase with
    | .top i =>
      if i < goal.candidates.length then none
      else
        let ranked := rankGrasps sort goal s.rankedGrasps
        if ranked = [] then some (s.finish .abort ranked .planningFailed)
        else some (s.finish .succeed ranked .success)
    | _ => none

/-- The branches of `actionStep`, each with what it needs. -/
inductive ActionStep : ActionState → ActionLabel → ActionState → Prop
  | cancelRequest (s) (hphase : s.phase ≠ .ended) : ActionStep s .cancelRequest { s with canceling := true }
  | observe (s i) (hphase : s.phase = .top i) (hi : i < goal.candidates.length) (hcancel : s.canceling = true) :
      ActionStep s .readCanceling (s.finish .canceled s.rankedGrasps .preempted)
  | enter (s i) (hphase : s.phase = .top i) (hi : i < goal.candidates.length) (hcancel : s.canceling = false) :
      ActionStep s .readCanceling { s with phase := .planning i }
  | fail (s i env) (hphase : s.phase = .planning i) (hout : candidateOutcome fp (fun _ => env) goal i = none) :
      ActionStep s (.planCandidate env)
        ({ s with outcomes := s.outcomes ++ [none] }.finish .abort s.rankedGrasps .failure)
  | take (s i env grasps) (hphase : s.phase = .planning i)
      (hout : candidateOutcome fp (fun _ => env) goal i = some grasps) : ActionStep s (.planCandidate env)
        { s with
          phase := .reporting i
          outcomes := s.outcomes ++ [some grasps]
          rankedGrasps := s.rankedGrasps ++ grasps }
  | publishFeedback (s i) (hphase : s.phase = .reporting i) : ActionStep s .publishFeedback { s with
      phase := .top (i + 1)
      feedback := s.feedback ++ [⟨UInt32.ofNat (i + 1), UInt32.ofNat goal.candidates.length⟩] }
  | rankNone (s i) (hphase : s.phase = .top i) (hi : goal.candidates.length ≤ i)
      (hranked : rankGrasps sort goal s.rankedGrasps = []) :
      ActionStep s .rank (s.finish .abort (rankGrasps sort goal s.rankedGrasps) .planningFailed)
  | rank (s i) (hphase : s.phase = .top i) (hi : goal.candidates.length ≤ i)
      (hranked : rankGrasps sort goal s.rankedGrasps ≠ []) :
      ActionStep s .rank (s.finish .succeed (rankGrasps sort goal s.rankedGrasps) .success)

variable {fp sort goal}

theorem actionStep_eq_some {s s' : ActionState} {l : ActionLabel} (h : actionStep fp sort goal s l = some s') :
    ActionStep fp sort goal s l s' := by
  cases l with
  | cancelRequest =>
    simp only [actionStep] at h
    split_ifs at h with hphase
    obtain rfl := Option.some.inj h
    simpa [handlePlanGraspsCancel] using ActionStep.cancelRequest s hphase
  | readCanceling =>
    simp only [actionStep] at h
    split at h
    · rename_i i hphase
      split_ifs at h with hi hcancel
      · obtain rfl := Option.some.inj h
        exact .observe s i hphase hi hcancel
      · obtain rfl := Option.some.inj h
        exact .enter s i hphase hi (by simpa using hcancel)
    · cases h
  | planCandidate env =>
    simp only [actionStep] at h
    split at h
    · rename_i i hphase
      split at h
      · rename_i hout
        obtain rfl := Option.some.inj h
        exact .fail s i env hphase hout
      · rename_i grasps hout
        obtain rfl := Option.some.inj h
        exact .take s i env grasps hphase hout
    · cases h
  | publishFeedback =>
    simp only [actionStep] at h
    split at h
    · rename_i i hphase
      obtain rfl := Option.some.inj h
      exact .publishFeedback s i hphase
    · cases h
  | rank =>
    simp only [actionStep] at h
    split at h
    · rename_i i hphase
      split_ifs at h with hi hranked
      · obtain rfl := Option.some.inj h
        exact .rankNone s i hphase (not_lt.mp hi) hranked
      · obtain rfl := Option.some.inj h
        exact .rank s i hphase (not_lt.mp hi) hranked
    · cases h

/-! ### What holds along a run -/

/-- The feedback for the first `m` of `n` candidates. -/
def progressReports (n m : ℕ) : List Feedback :=
  (List.range m).map fun k => ⟨UInt32.ofNat (k + 1), UInt32.ofNat n⟩

theorem progressReports_succ (n m : ℕ) :
    progressReports n (m + 1) = progressReports n m ++ [⟨UInt32.ofNat (m + 1), UInt32.ofNat n⟩] := by
  simp [progressReports, List.range_succ]

@[simp] theorem progressReports_length (n m : ℕ) : (progressReports n m).length = m := by
  simp [progressReports]

/-- With as many candidates as a message can carry, the numbers count up from 1. -/
theorem progressReports_toNat {n m : ℕ} (hm : m ≤ n) (hn : n < 2 ^ 32) :
    (progressReports n m).map (fun f => f.completedCandidates.toNat) = List.range' 1 m := by
  rw [progressReports, List.map_map, List.range'_eq_map_range]
  refine List.map_congr_left fun k hk => ?_
  have hk := List.mem_range.mp hk
  rw [Function.comp_apply, UInt32.toNat_ofNat_of_lt' (by rw [UInt32.size]; omega), Nat.add_comm]

/-- The number of candidates whose planning has succeeded. -/
def ActionState.succeeded (s : ActionState) : ℕ := s.outcomes.countP Option.isSome

/-- `i` candidates have been planned, all with success, and `m` have been reported. -/
structure Underway (n : ℕ) (s : ActionState) (i m : ℕ) : Prop where
  planned : s.outcomes.length = i
  succeeded : ∀ outcome ∈ s.outcomes, outcome.isSome = true
  feedback : s.feedback = progressReports n m
  terminals : s.terminals = []

theorem Underway.succeeded_eq {n i m : ℕ} {s : ActionState} (h : Underway n s i m) : s.succeeded = i := by
  rw [ActionState.succeeded, List.countP_eq_length.mpr h.succeeded, h.planned]

/-- The phase of the function and the state of its handle do not count. -/
theorem Underway.of_eq {n i m : ℕ} {s s' : ActionState} (h : Underway n s i m) (houtcomes : s'.outcomes = s.outcomes)
    (hfeedback : s'.feedback = s.feedback) (hterminals : s'.terminals = s.terminals) : Underway n s' i m where
  planned := houtcomes ▸ h.planned
  succeeded := houtcomes ▸ h.succeeded
  feedback := hfeedback.trans h.feedback
  terminals := hterminals.trans h.terminals

/-- The error code goes with the kind of the call. -/
def AllowedCall (n : ℕ) (s : ActionState) (result : Result) : Terminal → Prop
  | .succeed => result.errorCode = .success ∧ result.rankedGrasps ≠ [] ∧ s.succeeded = n
  | .canceled => result.errorCode = .preempted ∧ s.canceling = true
  | .abort => result.errorCode ≠ .success

def ActionInvariant (n : ℕ) (s : ActionState) : Prop :=
  match s.phase with
  | .top i => i ≤ n ∧ Underway n s i i
  | .planning i => i < n ∧ Underway n s i i
  | .reporting i => i < n ∧ Underway n s (i + 1) i
  | .ended => ∃ terminal result, s.terminals = [(terminal, result)] ∧
      s.feedback = progressReports n s.succeeded ∧ s.succeeded ≤ n ∧ AllowedCall n s result terminal

theorem actionInvariant_init (n : ℕ) : ActionInvariant n .init :=
  ⟨Nat.zero_le n, rfl, by simp [ActionState.init], rfl, rfl⟩

theorem ActionInvariant.finish {n : ℕ} {s : ActionState} (hterminals : s.terminals = [])
    (hfeedback : s.feedback = progressReports n s.succeeded) (hle : s.succeeded ≤ n) (terminal : Terminal)
    {rankedGrasps : List RankedGrasp} {errorCode : MoveItErrorCode}
    (hcall : AllowedCall n s ⟨rankedGrasps, errorCode⟩ terminal) :
    ActionInvariant n (s.finish terminal rankedGrasps errorCode) := by
  refine ⟨terminal, ⟨rankedGrasps, errorCode⟩, by simp [ActionState.finish, hterminals], hfeedback, hle, ?_⟩
  cases terminal <;> exact hcall

theorem Underway.finish {n i : ℕ} {s : ActionState} (h : Underway n s i i) (hi : i ≤ n) (terminal : Terminal)
    {rankedGrasps : List RankedGrasp} {errorCode : MoveItErrorCode}
    (hcall : AllowedCall n s ⟨rankedGrasps, errorCode⟩ terminal) :
    ActionInvariant n (s.finish terminal rankedGrasps errorCode) :=
  .finish h.terminals (by rw [h.succeeded_eq, h.feedback]) (h.succeeded_eq.trans_le hi) terminal hcall

theorem actionInvariant_step {s s' : ActionState} {l : ActionLabel}
    (hi : ActionInvariant goal.candidates.length s) (hstep : actionStep fp sort goal s l = some s') :
    ActionInvariant goal.candidates.length s' := by
  cases actionStep_eq_some hstep with
  | cancelRequest hphase =>
    unfold ActionInvariant at hi ⊢
    cases hs : s.phase with
    | top i =>
      obtain ⟨hlt, h⟩ : _ ∧ _ := by simpa only [hs] using hi
      exact ⟨hlt, h.of_eq rfl rfl rfl⟩
    | planning i =>
      obtain ⟨hlt, h⟩ : _ ∧ _ := by simpa only [hs] using hi
      exact ⟨hlt, h.of_eq rfl rfl rfl⟩
    | reporting i =>
      obtain ⟨hlt, h⟩ : _ ∧ _ := by simpa only [hs] using hi
      exact ⟨hlt, h.of_eq rfl rfl rfl⟩
    | ended => exact absurd hs hphase
  | observe i hphase hlt hcancel =>
    simp only [ActionInvariant, hphase] at hi
    exact hi.2.finish hi.1 .canceled ⟨rfl, hcancel⟩
  | enter i hphase hlt hcancel =>
    simp only [ActionInvariant, hphase] at hi
    exact ⟨hlt, hi.2.of_eq rfl rfl rfl⟩
  | fail i env hphase hout =>
    simp only [ActionInvariant, hphase] at hi
    obtain ⟨hlt, h⟩ := hi
    let failed : ActionState := { s with outcomes := s.outcomes ++ [none] }
    have hsucceeded : failed.succeeded = i := by
      rw [ActionState.succeeded, List.countP_append, List.countP_eq_length.mpr h.succeeded, h.planned]
      rfl
    have hfeedback : failed.feedback = progressReports goal.candidates.length failed.succeeded := by
      rw [hsucceeded]
      exact h.feedback
    have hcall : AllowedCall goal.candidates.length failed ⟨s.rankedGrasps, .failure⟩ .abort :=
      MoveItErrorCode.noConfusion
    exact ActionInvariant.finish (s := failed) h.terminals hfeedback (hsucceeded.trans_le hlt.le) .abort hcall
  | take i env grasps hphase hout =>
    simp only [ActionInvariant, hphase] at hi
    obtain ⟨hlt, h⟩ := hi
    refine ⟨hlt, by simp [h.planned], fun outcome ho => ?_, h.feedback, h.terminals⟩
    rcases List.mem_append.mp ho with ho | ho
    · exact h.succeeded outcome ho
    · rw [List.mem_singleton.mp ho]
      rfl
  | publishFeedback i hphase =>
    simp only [ActionInvariant, hphase] at hi
    obtain ⟨hlt, h⟩ := hi
    exact ⟨hlt, h.planned, h.succeeded, by rw [h.feedback, progressReports_succ], h.terminals⟩
  | rankNone i hphase hge hranked =>
    simp only [ActionInvariant, hphase] at hi
    exact hi.2.finish hi.1 .abort MoveItErrorCode.noConfusion
  | rank i hphase hge hranked =>
    simp only [ActionInvariant, hphase] at hi
    exact hi.2.finish hi.1 .succeed ⟨rfl, hranked, hi.2.succeeded_eq.trans (le_antisymm hi.1 hge)⟩

theorem cancelRequest_of_canceling {s s' : ActionState} {l : ActionLabel}
    (hstep : actionStep fp sort goal s l = some s') (h : s'.canceling = true) :
    s.canceling = true ∨ l = .cancelRequest := by
  cases actionStep_eq_some hstep with
  | cancelRequest => exact .inr rfl
  | _ => exact .inl h

theorem cancelRequest_mem {s t : ActionState} {ls : List ActionLabel}
    (hrun : exec (actionStep fp sort goal) s ls = some t) (h : t.canceling = true) :
    s.canceling = true ∨ .cancelRequest ∈ ls := by
  induction ls generalizing s with
  | nil =>
    obtain rfl : s = t := by simpa using hrun
    exact .inl h
  | cons l ls ih =>
    obtain ⟨s', hs, hrun⟩ := (exec_cons_eq_some _).mp hrun
    rcases ih hrun with h' | hmem
    · exact (cancelRequest_of_canceling hs h').imp_right fun hl => by simp [hl]
    · exact .inr (List.mem_cons_of_mem _ hmem)

theorem actionStep_of_ended {s : ActionState} (h : s.phase = .ended) (l : ActionLabel) :
    actionStep fp sort goal s l = none := by
  cases l <;> simp [actionStep, h]

/-- Until its terminal call the function can go on, whatever the next call of the pipeline meets. -/
theorem exists_actionStep {s : ActionState} (h : s.phase ≠ .ended) (env : PlanningEnv) :
    ∃ l ∈ [.readCanceling, .planCandidate env, .publishFeedback, .rank],
      (actionStep fp sort goal s l).isSome = true := by
  cases hphase : s.phase with
  | top i =>
    by_cases hi : i < goal.candidates.length
    · refine ⟨.readCanceling, by simp, ?_⟩
      simp only [actionStep, hphase, if_pos hi]
      split_ifs <;> rfl
    · refine ⟨.rank, by simp, ?_⟩
      simp only [actionStep, hphase, if_neg hi]
      split_ifs <;> rfl
  | planning i =>
    refine ⟨.planCandidate env, by simp, ?_⟩
    simp only [actionStep, hphase]
    split <;> rfl
  | reporting i => exact ⟨.publishFeedback, by simp, by simp [actionStep, hphase]⟩
  | ended => exact absurd hphase h

/-- A bound on the steps that the function has left, not counting cancel requests. -/
def ActionState.stepsLeft (n : ℕ) (s : ActionState) : ℕ :=
  match s.phase with
  | .top i => 3 * (n - i) + 1
  | .planning i => 3 * (n - i)
  | .reporting i => 3 * (n - i) - 1
  | .ended => 0

theorem stepsLeft_step {s s' : ActionState} {l : ActionLabel}
    (hi : ActionInvariant goal.candidates.length s) (hstep : actionStep fp sort goal s l = some s') :
    s'.stepsLeft goal.candidates.length + (if l.isOwn then 1 else 0) ≤ s.stepsLeft goal.candidates.length := by
  cases actionStep_eq_some hstep with
  | cancelRequest hphase => exact le_rfl
  | observe i hphase hlt hcancel =>
    simp only [ActionState.stepsLeft, ActionState.finish, ActionLabel.isOwn, hphase, if_true]
    omega
  | enter i hphase hlt hcancel =>
    simp only [ActionState.stepsLeft, ActionLabel.isOwn, hphase, if_true]
    omega
  | fail i env hphase hout =>
    simp only [ActionInvariant, hphase] at hi
    simp only [ActionState.stepsLeft, ActionState.finish, ActionLabel.isOwn, hphase, if_true]
    omega
  | take i env grasps hphase hout =>
    simp only [ActionInvariant, hphase] at hi
    simp only [ActionState.stepsLeft, ActionLabel.isOwn, hphase, if_true]
    omega
  | publishFeedback i hphase =>
    simp only [ActionInvariant, hphase] at hi
    simp only [ActionState.stepsLeft, ActionLabel.isOwn, hphase, if_true]
    omega
  | rankNone i hphase hge hranked =>
    simp only [ActionState.stepsLeft, ActionState.finish, ActionLabel.isOwn, hphase, if_true]
    omega
  | rank i hphase hge hranked =>
    simp only [ActionState.stepsLeft, ActionState.finish, ActionLabel.isOwn, hphase, if_true]
    omega

/-! ### The function as a whole -/

/-- What the loop of `executePlanGraspsAction` has when it is where `s` is. -/
def ActionState.progress (s : ActionState) : Progress :=
  ⟨List.range s.outcomes.length, s.feedback, s.rankedGrasps⟩

/-- The record of a run that has ended. -/
def ActionState.run (s : ActionState) : Option ActionRun :=
  s.terminals.head?.map fun call => ⟨List.range s.outcomes.length, s.feedback, call.1, call.2⟩

variable (fp goal) in
/-- With these answers to the first `a` readings and these surroundings of the first `b`
calls, whatever come after them, the loop gets to candidate `i` with `p`. -/
def RunsTo (a b : ℕ) (isCanceling : ℕ → Bool) (env : ℕ → PlanningEnv) (i : ℕ) (p : Progress) : Prop :=
  ∀ isCanceling' env', (∀ j < a, isCanceling' j = isCanceling j) → (∀ j < b, env' j = env j) →
    planCandidates isCanceling' (candidateOutcome fp env' goal) goal.candidates.length
        (List.range goal.candidates.length) .init =
      planCandidates isCanceling' (candidateOutcome fp env' goal) goal.candidates.length
        (List.range' i (goal.candidates.length - i)) p

theorem candidateOutcome_congr {env env' : ℕ → PlanningEnv} {i : ℕ} (h : env i = env' i) :
    candidateOutcome fp env goal i = candidateOutcome fp env' goal i := by
  unfold candidateOutcome
  rw [h]

theorem range'_sub {i n : ℕ} (h : i < n) : List.range' i (n - i) = i :: List.range' (i + 1) (n - (i + 1)) := by
  rw [show n - i = (n - (i + 1)) + 1 by omega, List.range'_succ]

variable (fp sort goal) in
/-- A run so far is one of the function, with the answers it has been given. -/
def RunsAlong (s : ActionState) : Prop :=
  ∃ (isCanceling : ℕ → Bool) (env : ℕ → PlanningEnv),
    match s.phase with
    | .top i => RunsTo fp goal i i isCanceling env i s.progress
    | .planning i => isCanceling i = false ∧ RunsTo fp goal (i + 1) i isCanceling env i s.progress
    | .reporting i => RunsTo fp goal (i + 1) (i + 1) isCanceling env (i + 1) { s.progress with
        feedback := s.feedback ++ [⟨UInt32.ofNat (i + 1), UInt32.ofNat goal.candidates.length⟩] }
    | .ended => s.run = some (executePlanGraspsAction fp sort isCanceling env goal)

theorem runsAlong_init : RunsAlong fp sort goal .init :=
  ⟨fun _ => false, fun _ => ⟨false, [], fun _ => none, fun _ => none, .ok none, fun _ => .ok (), fun _ => .ok false,
    fun _ => [], fun _ => .ok ()⟩, fun _ _ _ _ => by rw [List.range_eq_range']; rfl⟩

theorem runsAlong_step {s s' : ActionState} {l : ActionLabel} (hr : RunsAlong fp sort goal s)
    (hi : ActionInvariant goal.candidates.length s) (hstep : actionStep fp sort goal s l = some s') :
    RunsAlong fp sort goal s' := by
  obtain ⟨isCanceling, env, hr⟩ := hr
  cases actionStep_eq_some hstep with
  | cancelRequest hphase => exact ⟨isCanceling, env, hr⟩
  | observe i hphase hlt hcancel =>
    simp only [ActionInvariant, hphase] at hi hr
    refine ⟨Function.update isCanceling i true, env, ?_⟩
    have hloop := hr (Function.update isCanceling i true) env
      (fun j hj => Function.update_of_ne hj.ne _ _) fun _ _ => rfl
    rw [range'_sub hlt, planCandidates, Function.update_self, if_pos rfl] at hloop
    simp only [ActionState.finish, ActionState.run, executePlanGraspsAction, hloop, hi.2.terminals]
    rfl
  | enter i hphase hlt hcancel =>
    simp only [ActionInvariant, hphase] at hi hr
    refine ⟨Function.update isCanceling i false, env, Function.update_self _ _ _, fun isC env' hc he => ?_⟩
    refine hr isC env' (fun j hj => ?_) he
    rw [hc j (by omega), Function.update_of_ne hj.ne]
  | fail i e hphase hout =>
    simp only [ActionInvariant, hphase] at hi hr
    have hloop := hr.2 isCanceling (Function.update env i e) (fun _ _ => rfl)
      fun j hj => Function.update_of_ne hj.ne _ _
    have hcandidate : candidateOutcome fp (Function.update env i e) goal i = none := by
      rw [← hout]
      exact candidateOutcome_congr (Function.update_self _ _ _)
    rw [range'_sub hi.1, planCandidates, if_neg (by simp [hr.1]), hcandidate] at hloop
    refine ⟨isCanceling, Function.update env i e, ?_⟩
    simp only [ActionState.finish, ActionState.run, executePlanGraspsAction, hloop, hi.2.terminals]
    simp [Progress.finish, ActionState.progress, List.range_succ, hi.2.planned]
  | take i e grasps hphase hout =>
    simp only [ActionInvariant, hphase] at hi hr
    refine ⟨isCanceling, Function.update env i e, fun isC env' hc he => ?_⟩
    have hloop := hr.2 isC env' hc fun j hj => by rw [he j (by omega), Function.update_of_ne hj.ne]
    have hcandidate : candidateOutcome fp env' goal i = some grasps := by
      rw [← hout]
      exact candidateOutcome_congr (by rw [he i (by omega), Function.update_self])
    rw [range'_sub hi.1, planCandidates, if_neg (by simp [hc i (by omega), hr.1]), hcandidate] at hloop
    rw [hloop]
    simp [ActionState.progress, List.range_succ, hi.2.planned]
  | publishFeedback i hphase =>
    simp only [hphase] at hr
    exact ⟨isCanceling, env, hr⟩
  | rankNone i hphase hge hranked =>
    simp only [ActionInvariant, hphase] at hi hr
    have hloop := hr isCanceling env (fun _ _ => rfl) fun _ _ => rfl
    rw [Nat.sub_eq_zero_of_le hge] at hloop
    refine ⟨isCanceling, env, ?_⟩
    simp only [ActionState.finish, ActionState.run, executePlanGraspsAction, hloop, List.range'_zero,
      planCandidates, ActionState.progress, hranked, if_true, hi.2.terminals]
    rfl
  | rank i hphase hge hranked =>
    simp only [ActionInvariant, hphase] at hi hr
    have hloop := hr isCanceling env (fun _ _ => rfl) fun _ _ => rfl
    rw [Nat.sub_eq_zero_of_le hge] at hloop
    refine ⟨isCanceling, env, ?_⟩
    simp only [ActionState.finish, ActionState.run, executePlanGraspsAction, hloop, List.range'_zero,
      planCandidates, ActionState.progress, hranked, if_false, hi.2.terminals]
    rfl

/-- A run that has ended is one of `execute_plan_grasps_action` as a whole. -/
theorem exists_execute_of_ended {s : ActionState} {ls : List ActionLabel}
    (hrun : exec (actionStep fp sort goal) .init ls = some s) (hended : s.phase = .ended) :
    ∃ isCanceling env, s.run = some (executePlanGraspsAction fp sort isCanceling env goal) := by
  have hboth : ActionInvariant goal.candidates.length s ∧ RunsAlong fp sort goal s :=
    Reachable.invariant (I := fun s => ActionInvariant goal.candidates.length s ∧ RunsAlong fp sort goal s)
      ⟨ls, hrun⟩ ⟨actionInvariant_init _, runsAlong_init⟩ fun _ _ _ hi hs =>
        ⟨actionInvariant_step hi.1 hs, runsAlong_step hi.2 hi.1 hs⟩
  obtain ⟨isCanceling, env, hr⟩ := hboth.2
  simp only [hended] at hr
  exact ⟨isCanceling, env, hr⟩

/-! ### The contract with the client -/

/-- What a client can rely on in a state of the action, for a goal with `n` candidates. -/
structure GoalContract (n : ℕ) (s : ActionState) : Prop where
  /-- one terminal call, and it is the end -/
  terminal : s.terminals.length = if s.phase = .ended then 1 else 0
  succeed : ∀ r, (.succeed, r) ∈ s.terminals →
    r.errorCode = .success ∧ r.rankedGrasps ≠ [] ∧ s.succeeded = n
  canceled : ∀ r, (.canceled, r) ∈ s.terminals → r.errorCode = .preempted ∧ s.canceling = true
  abort : ∀ r, (.abort, r) ∈ s.terminals → r.errorCode ≠ .success
  feedback : s.feedback = progressReports n s.feedback.length
  /-- in 32 bits, if there are no more candidates than that -/
  counting : n < 2 ^ 32 →
    s.feedback.map (fun f => f.completedCandidates.toNat) = List.range' 1 s.feedback.length
  reported : s.terminals ≠ [] → s.feedback.length = s.succeeded

theorem GoalContract.of_underway {n i m : ℕ} {s : ActionState} (hphase : s.phase ≠ .ended)
    (h : Underway n s i m) (hm : m ≤ n) : GoalContract n s := by
  have hnil : ∀ p : Terminal × Result, p ∉ s.terminals := by simp [h.terminals]
  refine ⟨by simp [h.terminals, hphase], fun r hr => absurd hr (hnil _), fun r hr => absurd hr (hnil _),
    fun r hr => absurd hr (hnil _), ?_, fun hn => ?_, fun hne => absurd h.terminals hne⟩
  · rw [h.feedback, progressReports_length]
  · rw [h.feedback, progressReports_length, progressReports_toNat hm hn]

theorem ActionInvariant.goalContract {n : ℕ} {s : ActionState} (hi : ActionInvariant n s) : GoalContract n s := by
  unfold ActionInvariant at hi
  cases hphase : s.phase with
  | top i =>
    simp only [hphase] at hi
    exact .of_underway (by simp [hphase]) hi.2 hi.1
  | planning i =>
    simp only [hphase] at hi
    exact .of_underway (by simp [hphase]) hi.2 hi.1.le
  | reporting i =>
    simp only [hphase] at hi
    exact .of_underway (by simp [hphase]) hi.2 hi.1.le
  | ended =>
    simp only [hphase] at hi
    obtain ⟨terminal, result, hterminals, hfeedback, hle, hcall⟩ := hi
    have hone : ∀ t r, (t, r) ∈ s.terminals → AllowedCall n s r t := by
      intro t r hr
      rw [hterminals, List.mem_singleton] at hr
      obtain ⟨rfl, rfl⟩ := Prod.mk.inj hr
      exact hcall
    refine ⟨by simp [hterminals, hphase], hone .succeed, hone .canceled, hone .abort, ?_, fun hn => ?_, fun _ => ?_⟩
    · rw [hfeedback, progressReports_length]
    · rw [hfeedback, progressReports_length, progressReports_toNat hle hn]
    · rw [hfeedback, progressReports_length]

/-- Every run keeps the contract. It calls `canceled` only after a cancel request, can
always go on to a terminal call, gets there in at most three steps for each candidate and
one more, and does nothing once an iteration has seen that the goal is being canceled. -/
theorem goal_contract {s : ActionState} {ls : List ActionLabel}
    (hrun : exec (actionStep fp sort goal) .init ls = some s) :
    let n := goal.candidates.length
    GoalContract n s ∧
    (∀ r, (.canceled, r) ∈ s.terminals → .cancelRequest ∈ ls) ∧
    (s.phase ≠ .ended → ∀ env, ∃ l ∈ [.readCanceling, .planCandidate env, .publishFeedback, .rank],
      (actionStep fp sort goal s l).isSome = true) ∧
    ls.countP ActionLabel.isOwn ≤ 3 * n + 1 ∧
    ∀ before after u, ls = before ++ .readCanceling :: after →
      exec (actionStep fp sort goal) .init before = some u → u.canceling = true → after = [] := by
  intro n
  have hinv : ActionInvariant n s :=
    Reachable.invariant ⟨ls, hrun⟩ (actionInvariant_init n) fun _ _ _ => actionInvariant_step
  have hcontract := hinv.goalContract
  refine ⟨hcontract, fun r hr => ?_, fun hphase => exists_actionStep hphase, ?_, ?_⟩
  · exact (cancelRequest_mem hrun (hcontract.canceled r hr).2).resolve_left Bool.noConfusion
  · have hle : ls.countP ActionLabel.isOwn + s.stepsLeft n ≤ ActionState.init.stepsLeft n :=
      exec_countP_add_le ActionLabel.isOwn (ActionState.stepsLeft n)
        (fun _ _ _ hi hs => ⟨actionInvariant_step hi hs, stepsLeft_step hi hs⟩) hrun (actionInvariant_init n)
    have hstart : ActionState.init.stepsLeft n = 3 * n + 1 := rfl
    omega
  · intro before after u hls hbefore hcancel
    rw [hls] at hrun
    obtain ⟨u', hu, hrest⟩ := (exec_append_eq_some _).mp hrun
    obtain rfl : u' = u := by simpa [hu] using hbefore
    obtain ⟨v, hread, hafter⟩ := (exec_cons_eq_some _).mp hrest
    have hended : v.phase = .ended := by
      cases actionStep_eq_some hread with
      | observe => rfl
      | enter i hphase hlt hfalse => simp [hcancel] at hfalse
    cases after with
    | nil => rfl
    | cons l rest => simp [exec, actionStep_of_ended hended] at hafter

end Step

/-- The request comes in while the first of two candidates is being planned. -/
theorem goal_contract_canceled :
    let goal := Sample.goal [1, 1] 1
    let ls : List ActionLabel := [.readCanceling, .cancelRequest, .planCandidate (Sample.env [.finite 0]),
      .publishFeedback, .readCanceling]
    ∃ s, exec (actionStep .exact Sample.sort goal) .init ls = some s ∧
      s.terminals.map Prod.fst = [.canceled] ∧ s.succeeded = 1 ∧ GoalContract 2 s := by
  intro goal ls
  obtain ⟨s, hrun, hend⟩ : ∃ s, exec (actionStep .exact Sample.sort goal) .init ls = some s ∧
      (decide (s.terminals.map Prod.fst = [.canceled]) && decide (s.succeeded = 1)) = true :=
    (Option.any_eq_true _ _).mp (by decide +kernel)
  simp only [Bool.and_eq_true, decide_eq_true_eq] at hend
  exact ⟨s, hrun, hend.1, hend.2, (goal_contract hrun).1⟩

end MoveitPlanning.Grasping
