import MoveitPlanning.Grasping.Provenance

/-! The joints of the planning group. The names of an IK solution are those of the active
joints of the group, and its positions are the values of all its variables; the skill
rejects a result with a solution where the two differ in number. A mimic joint has
variables and no name, and a joint with several variables has one name, so the skill can
use a result exactly when the group has neither, and has a joint that moves. -/

namespace MoveitPlanning.Grasping

open Foundation Scene

/-- A joint of the robot model: a fixed joint has no variables, and the variables of a
mimic joint follow another joint. -/
structure JointModel where
  name : Name
  variableCount : ℕ
  mimic : Bool

def JointModel.isActive (j : JointModel) : Bool := decide (0 < j.variableCount) && !j.mimic

/-- `getActiveJointModelNames` of a group with the joints. -/
def activeJointModelNames (joints : List JointModel) : List Name :=
  (joints.filter JointModel.isActive).map fun j => j.name

/-- `getVariableCount`, which is the number of positions that `copyJointGroupPositions` returns. -/
def variableCount (joints : List JointModel) : ℕ := (joints.map fun j => j.variableCount).sum

/-- What the pipeline meets comes from a planning group with the joints. -/
structure PlanningEnv.HasGroup (env : PlanningEnv) (groupName : Name) (joints : List JointModel) : Prop where
  names : ∀ robotModel arm, env.robotModel = .ok (some robotModel) →
    robotModel.jointModelGroup groupName = some arm → arm.activeJointModelNames = activeJointModelNames joints
  grasp : ∀ task s states, some s ∈ env.solutions task → s.states = .ok states →
    states.graspPositions.length = variableCount joints
  pregrasp : ∀ task s states p, some s ∈ env.solutions task → s.states = .ok states →
    states.approachStart.or states.fallbackIk = some p → p.positions.length = variableCount joints

/-- Every joint that moves has one variable, and does not follow another. -/
def OneVariableEach (joints : List JointModel) : Prop :=
  ∀ j ∈ joints, 0 < j.variableCount → j.mimic = false ∧ j.variableCount = 1

/-! ### Names and positions -/

theorem variableCount_cons (j : JointModel) (joints : List JointModel) :
    variableCount (j :: joints) = j.variableCount + variableCount joints := by
  rw [variableCount, List.map_cons, List.sum_cons, variableCount]

theorem activeJointModelNames_cons (j : JointModel) (joints : List JointModel) :
    (activeJointModelNames (j :: joints)).length =
      (if j.isActive then 1 else 0) + (activeJointModelNames joints).length := by
  rw [activeJointModelNames, List.filter_cons]
  split_ifs
  · rw [List.map_cons, List.length_cons, activeJointModelNames, Nat.add_comm]
  · rw [activeJointModelNames, Nat.zero_add]

theorem JointModel.active_le (j : JointModel) : (if j.isActive then 1 else 0) ≤ j.variableCount := by
  split_ifs with h
  · rw [isActive, Bool.and_eq_true, decide_eq_true_iff] at h
    exact h.1
  · exact Nat.zero_le _

theorem JointModel.active_eq_iff (j : JointModel) : (if j.isActive then 1 else 0) = j.variableCount ↔
    (0 < j.variableCount → j.mimic = false ∧ j.variableCount = 1) := by
  cases hmimic : j.mimic with
  | true => simp [isActive, hmimic]; omega
  | false =>
    rcases Nat.eq_zero_or_pos j.variableCount with hzero | hpos
    · simp [isActive, hmimic, hzero]
    · simp [isActive, hmimic, hpos]; omega

theorem length_le_variableCount (joints : List JointModel) :
    (activeJointModelNames joints).length ≤ variableCount joints := by
  induction joints with
  | nil => exact le_rfl
  | cons j joints ih =>
    rw [activeJointModelNames_cons, variableCount_cons]
    exact Nat.add_le_add j.active_le ih

theorem length_eq_variableCount_iff (joints : List JointModel) :
    (activeJointModelNames joints).length = variableCount joints ↔ OneVariableEach joints := by
  induction joints with
  | nil => simp [OneVariableEach, activeJointModelNames, variableCount]
  | cons j joints ih =>
    have hj := j.active_le
    have hjoints := length_le_variableCount joints
    rw [activeJointModelNames_cons, variableCount_cons, OneVariableEach, List.forall_mem_cons,
      ← j.active_eq_iff, ← OneVariableEach, ← ih]
    omega

theorem variableCount_pos_iff (joints : List JointModel) :
    0 < variableCount joints ↔ ∃ j ∈ joints, 0 < j.variableCount := by
  rw [Nat.pos_iff_ne_zero, variableCount, Ne, List.sum_eq_zero_iff]
  simp [Nat.pos_iff_ne_zero]

/-! ### The checks of the skill -/

theorem planningResult_isOk_iff {params : GraspPlanningParams} {g : RankedGrasp} :
    (∃ r, planningResult params g = .ok r) ↔
      g.candidateIndex.toNat < params.candidateObjects.entries.length ∧
        g.graspIkSolution.isValid = true ∧ g.pregraspIkSolution.isValid = true := by
  have hindex := params.candidateObjects.size_le_iff g.candidateIndex
  unfold planningResult
  constructor
  · rintro ⟨r, hr⟩
    split_ifs at hr with hsize hgrasp hpregrasp
    rw [hindex, not_le] at hsize
    exact ⟨hsize, by simpa using hgrasp, by simpa using hpregrasp⟩
  · rintro ⟨hlt, hgrasp, hpregrasp⟩
    have hsize : ¬params.candidateObjects.size ≤ g.candidateIndex := by rwa [hindex, not_le]
    simp [hsize, hgrasp, hpregrasp]

/-- A solution with the group's names and positions is one the skill can use. -/
theorem isValid_iff {joints : List JointModel} {s : JointState} (hname : s.name = activeJointModelNames joints)
    (hposition : s.position.length = variableCount joints) :
    s.isValid = true ↔ (∃ j ∈ joints, 0 < j.variableCount) ∧ OneVariableEach joints := by
  rw [JointState.isValid, decide_eq_true_iff, ← List.length_pos_iff, hname, hposition, variableCount_pos_iff,
    length_eq_variableCount_iff]

section Run
variable {fp : Rounding} {sort : StdSort qualityGreater} {isCanceling : ℕ → Bool} {env : ℕ → PlanningEnv}
  {params : GraspPlanningParams} {joints : List JointModel}

/-- A grasp of the action has the index of a candidate, and the solutions of the group. -/
theorem solutions_of_mem {n : ℕ} {g : RankedGrasp}
    (hgroup : ∀ i, (env i).HasGroup (createPlanGraspsGoal fp params).groupName joints)
    (hg : g ∈ graspsBefore fp env (createPlanGraspsGoal fp params) n) :
    g.candidateIndex.toNat < params.candidateObjects.entries.length ∧
      (g.graspIkSolution.name = activeJointModelNames joints ∧
        g.graspIkSolution.position.length = variableCount joints) ∧
      g.pregraspIkSolution.name = activeJointModelNames joints ∧
        g.pregraspIkSolution.position.length = variableCount joints := by
  obtain ⟨c, -, candidate, hcandidate, hplanned⟩ := mem_graspsBefore hg
  obtain ⟨task, inputs, m, s, states, pregrasp, hprepare, hindex, -, -, -, hs, hstates, hpregrasp, rfl⟩ :=
    mem_planGrasps _ _ _ _ _ hplanned
  obtain ⟨robotModel, arm, hmodel, harm, hnames⟩ := (prepared_of_ok hprepare).arm
  rw [(hgroup c).names robotModel arm hmodel harm] at hnames
  refine ⟨?_, ⟨hnames, (hgroup c).grasp task s states hs hstates⟩, hnames,
    (hgroup c).pregrasp task s states pregrasp hs hstates hpregrasp⟩
  have hlength : (createPlanGraspsGoal fp params).candidates.length = params.candidateObjects.entries.length :=
    List.length_map _
  have hc : c < params.candidateObjects.entries.length := hlength ▸ (List.getElem?_eq_some_iff.mp hcandidate).1
  have hlt := params.candidateObjects.size_lt
  rw [rankedGrasp, hindex, UInt32.toNat_ofNat_of_lt' (by rw [UInt32.size]; omega)]
  exact hc

/-- The skill accepts every grasp of a successful run exactly when the group has a joint
that moves, and each such joint is active and has one variable. -/
theorem ranked_grasps_accepted_iff
    (hgroup : ∀ i, (env i).HasGroup (createPlanGraspsGoal fp params).groupName joints)
    (hsuccess : (executePlanGraspsAction fp sort isCanceling env
      (createPlanGraspsGoal fp params)).result.errorCode = .success) :
    (∀ g ∈ (executePlanGraspsAction fp sort isCanceling env (createPlanGraspsGoal fp params)).result.rankedGrasps,
      ∃ r, planningResult params g = .ok r) ↔
      (∃ j ∈ joints, 0 < j.variableCount) ∧ OneVariableEach joints := by
  obtain ⟨-, hranked, hne⟩ := result_of_success hsuccess
  have haccepted : ∀ g ∈ rankGrasps sort (createPlanGraspsGoal fp params) (graspsBefore fp env
      (createPlanGraspsGoal fp params) (createPlanGraspsGoal fp params).candidates.length),
      (∃ r, planningResult params g = .ok r) ↔ (∃ j ∈ joints, 0 < j.variableCount) ∧ OneVariableEach joints := by
    intro g hg
    obtain ⟨hindex, ⟨hname, hposition⟩, hprename, hpreposition⟩ :=
      solutions_of_mem hgroup (mem_of_mem_rankGrasps hg)
    rw [planningResult_isOk_iff, isValid_iff hname hposition, isValid_iff hprename hpreposition, and_self,
      and_iff_right hindex]
  rw [hranked]
  constructor
  · intro h
    obtain ⟨g, hg⟩ := List.exists_mem_of_ne_nil _ hne
    exact (haccepted g hg).mp (h g hg)
  · exact fun h g hg => (haccepted g hg).mpr h

end Run

/-! ### An arm with a mimic joint -/

namespace Sample

/-- A robot whose groups have the joints, and a task with one solution. -/
def jointEnv (joints : List JointModel) : PlanningEnv :=
  let zeros := List.replicate (variableCount joints) (0 : Double)
  { sceneEnv [] with
    robotModel := .ok (some ⟨[], fun _ => true, fun _ => true,
      fun _ => some ⟨activeJointModelNames joints, [], fun _ => some fun _ => some 0⟩⟩)
    solutions := fun task =>
      [some ⟨false, true, 0, .ok ⟨⟨task.targetId, Pose.identity⟩, zeros, some ⟨zeros, Pose.identity⟩, none⟩⟩] }

theorem jointEnv_hasGroup (joints : List JointModel) (groupName : Name) :
    (jointEnv joints).HasGroup groupName joints where
  names robotModel arm hmodel harm := by
    obtain rfl := Option.some.inj (Except.ok.inj hmodel)
    obtain rfl := Option.some.inj harm
    rfl
  grasp task s states hs hstates := by
    obtain rfl := Option.some.inj (List.mem_singleton.mp hs)
    obtain rfl := Except.ok.inj hstates
    exact List.length_replicate
  pregrasp task s states p hs hstates hp := by
    obtain rfl := Option.some.inj (List.mem_singleton.mp hs)
    obtain rfl := Except.ok.inj hstates
    obtain rfl := Option.some.inj hp
    exact List.length_replicate

def shoulder : JointModel := ⟨"shoulder".toList, 1, false⟩

/-- A joint that follows the shoulder. -/
def balancer : JointModel := ⟨"balancer".toList, 1, true⟩

/-- A joint that does not move. -/
def flange : JointModel := ⟨"flange".toList, 0, false⟩

def jointRun (joints : List JointModel) : ActionRun :=
  executePlanGraspsAction .exact sort (fun _ => false) (fun _ => jointEnv joints)
    (createPlanGraspsGoal .exact (sizedParams (.id "box".toList)))

end Sample

/-- The solution of an arm with a mimic joint has more positions than names. -/
theorem mimic_joint_rejected : ∃ joints : List JointModel,
    (∀ groupName, (Sample.jointEnv joints).HasGroup groupName joints) ∧
      (Sample.jointRun joints).result.errorCode = .success ∧
      ¬∀ g ∈ (Sample.jointRun joints).result.rankedGrasps,
        ∃ r, planningResult (Sample.sizedParams (.id "box".toList)) g = .ok r := by
  have hinvalid : ((Sample.jointRun [Sample.shoulder, Sample.balancer]).result.rankedGrasps.any
      fun g => !g.graspIkSolution.isValid) = true := by decide +kernel
  obtain ⟨g, hg, hinvalid⟩ := List.any_eq_true.mp hinvalid
  refine ⟨[Sample.shoulder, Sample.balancer], Sample.jointEnv_hasGroup _, by decide +kernel, fun h => ?_⟩
  obtain ⟨-, hvalid, -⟩ := planningResult_isOk_iff.mp (h g hg)
  rw [hvalid] at hinvalid
  exact absurd hinvalid Bool.false_ne_true

theorem ranked_grasps_accepted_shoulder :
    (Sample.jointRun [Sample.shoulder, Sample.flange]).result.errorCode = .success ∧
      ∀ g ∈ (Sample.jointRun [Sample.shoulder, Sample.flange]).result.rankedGrasps,
        ∃ r, planningResult (Sample.sizedParams (.id "box".toList)) g = .ok r := by
  have hsuccess : (Sample.jointRun [Sample.shoulder, Sample.flange]).result.errorCode = .success := by
    decide +kernel
  have hgroup := Sample.jointEnv_hasGroup [Sample.shoulder, Sample.flange]
  have hone : OneVariableEach [Sample.shoulder, Sample.flange] := by
    intro j hj hpos
    rcases List.mem_pair.mp hj with rfl | rfl
    · exact ⟨rfl, rfl⟩
    · exact absurd hpos (Nat.lt_irrefl 0)
  exact ⟨hsuccess, (ranked_grasps_accepted_iff (fun _ => hgroup _) hsuccess).mpr
    ⟨⟨Sample.shoulder, List.mem_cons_self, Nat.one_pos⟩, hone⟩⟩

end MoveitPlanning.Grasping
