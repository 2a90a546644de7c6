import Mathlib.Data.List.Forall2
import MoveitPlanning.Grasping.OutputFrames
import MoveitPlanning.Grasping.Ranking

/-! Where the grasps of the skill's result come from. The server tags every grasp with
the index of the candidate it was planned for, whole records are moved by the sort and
the cut, and the skill reads the object from its parameters at that index. -/

namespace MoveitPlanning.Grasping

open Foundation Scene
open scoped List

/-! ### What the skill checks and keeps -/

section Except
variable {α β ε : Type}

theorem forall₂_of_mapM_eq_ok {f : α → Except ε β} {as : List α} {bs : List β} (h : as.mapM f = .ok bs) :
    List.Forall₂ (fun a b => f a = .ok b) as bs := by
  induction as generalizing bs with
  | nil =>
    rw [List.mapM_nil] at h
    obtain rfl := Except.ok.inj h
    exact .nil
  | cons a as ih =>
    rw [List.mapM_cons] at h
    obtain ⟨b, hb, h⟩ := bind_eq_ok_iff.mp h
    obtain ⟨bs', hbs, h⟩ := bind_eq_ok_iff.mp h
    obtain rfl := Except.ok.inj h
    exact .cons hb (ih hbs)

end Except

/-- The skill's record of a grasp for an object. -/
def RankedGrasp.forObject (g : RankedGrasp) (object : ObjectReference) : ObjectPlanningResult where
  candidateObject := object
  grasp := g.grasp
  preGraspPose := g.preGraspPose
  graspIkSolution := g.graspIkSolution
  pregraspIkSolution := g.pregraspIkSolution

section Skill
variable {fp : Rounding} {action : Goal → Double → ActionExchange} {params : GraspPlanningParams}

theorem planningResult_eq_ok {g : RankedGrasp} {r : ObjectPlanningResult} (h : planningResult params g = .ok r) :
    ∃ object, params.candidateObjects.entries[g.candidateIndex.toNat]? = some object ∧ r = g.forObject object := by
  unfold planningResult at h
  split_ifs at h with hindex
  · obtain rfl := Except.ok.inj h
    exact ⟨_, List.getElem?_eq_getElem _, rfl⟩

/-- A result that passes the checks has the code for success, and every grasp has passed
them. -/
theorem checkedResults_eq_ok {result : Result} {results : PlanningResults}
    (h : checkedResults params result = .ok results) :
    result.errorCode = .success ∧
      List.Forall₂ (fun g r => planningResult params g = .ok r) result.rankedGrasps
        (results.selected :: results.others) := by
  unfold checkedResults at h
  cases hstatus : moveItErrorCodeToStatus result.errorCode [] with
  | error failure =>
    rw [hstatus] at h
    exact nomatch h
  | ok _ =>
    rw [hstatus] at h
    refine ⟨(moveItErrorCodeToStatus_eq_ok_iff _ _).mp hstatus, ?_⟩
    cases hgrasps : result.rankedGrasps with
    | nil =>
      rw [hgrasps] at h
      exact nomatch h
    | cons first rest =>
      rw [hgrasps] at h
      obtain ⟨selected, hselected, h⟩ := bind_eq_ok_iff.mp h
      obtain ⟨others, hothers, h⟩ := bind_eq_ok_iff.mp h
      obtain rfl := Except.ok.inj h
      exact .cons hselected (forall₂_of_mapM_eq_ok hothers)

end Skill

/-! ### The action as the skill meets it -/

section Server
variable (fp : Rounding) (sort : StdSort qualityGreater) (isCanceling : ℕ → Bool) (env : ℕ → PlanningEnv)
  (sceneReady : Bool)

/-- The action as its server answers it, with nothing lost on the way. -/
def actionServer (goal : Goal) (_ : Double) : ActionExchange :=
  match handlePlanGraspsGoal sceneReady goal with
  | .reject => ⟨true, true, false, false, .unknown, ⟨[], .undefined⟩⟩
  | .acceptAndExecute => (executePlanGraspsAction fp sort isCanceling env goal).exchange

variable {fp sort isCanceling env sceneReady}

/-- The skill gets a result only of a goal that was accepted, and it is that of the run. -/
theorem call_actionServer_eq_ok {goal : Goal} {timeout : Double} {result : Result}
    (h : callGraspPlanningAction (actionServer fp sort isCanceling env sceneReady goal timeout) = .ok result) :
    handlePlanGraspsGoal sceneReady goal = .acceptAndExecute ∧
      result = (executePlanGraspsAction fp sort isCanceling env goal).result := by
  cases hgoal : handlePlanGraspsGoal sceneReady goal with
  | reject =>
    simp only [actionServer, hgoal] at h
    exact nomatch h
  | acceptAndExecute =>
    simp only [actionServer, hgoal, ActionRun.exchange] at h
    refine ⟨rfl, ?_⟩
    cases hterminal : (executePlanGraspsAction fp sort isCanceling env goal).terminal with
    | canceled =>
      rw [hterminal] at h
      exact nomatch h
    | succeed =>
      rw [hterminal] at h
      exact (Except.ok.inj h).symm
    | abort =>
      rw [hterminal] at h
      exact (Except.ok.inj h).symm

/-- A result with the code for success is that of a run that no candidate has stopped. -/
theorem not_stops_of_success {goal : Goal}
    (h : (executePlanGraspsAction fp sort isCanceling env goal).result.errorCode = .success) :
    ∀ i < goal.candidates.length, ¬Stops fp isCanceling env goal i := by
  rcases exists_firstStop_or fp isCanceling env goal with ⟨i, hi⟩ | hnone
  · have hend := (execute_of_firstStop sort hi).2
    split_ifs at hend with hcancel
    · exact nomatch h.symm.trans hend.2.2
    · exact nomatch h.symm.trans hend.2.2
  · exact hnone

theorem result_of_success {goal : Goal}
    (h : (executePlanGraspsAction fp sort isCanceling env goal).result.errorCode = .success) :
    (executePlanGraspsAction fp sort isCanceling env goal).terminal = .succeed ∧
      (executePlanGraspsAction fp sort isCanceling env goal).result.rankedGrasps =
        rankGrasps sort goal (graspsBefore fp env goal goal.candidates.length) ∧
      rankGrasps sort goal (graspsBefore fp env goal goal.candidates.length) ≠ [] := by
  obtain ⟨-, hresult, hterminal, hcode⟩ := execute_of_no_stop sort (not_stops_of_success h)
  rw [hterminal]
  split_ifs at hcode ⊢ with hempty
  · exact nomatch h.symm.trans hcode
  · exact ⟨rfl, hresult, hempty⟩

theorem mem_of_mem_rankGrasps {goal : Goal} {n : ℕ} {g : RankedGrasp}
    (h : g ∈ rankGrasps sort goal (graspsBefore fp env goal n)) : g ∈ graspsBefore fp env goal n :=
  (sort_graspsBefore fp env goal sort n).1.mem_iff.mp (List.mem_of_mem_take h)

/-- A grasp from before the ranking was planned for one of the candidates. -/
theorem mem_graspsBefore {goal : Goal} {n : ℕ} {g : RankedGrasp} (h : g ∈ graspsBefore fp env goal n) :
    ∃ c < n, ∃ candidate, goal.candidates[c]? = some candidate ∧
      g ∈ (planGrasps fp (env c) goal candidate (UInt32.ofNat c)).rankedGrasps := by
  obtain ⟨grasps, hgrasps, hg⟩ := List.mem_flatten.mp h
  obtain ⟨c, hc, rfl⟩ := List.mem_map.mp hgrasps
  refine ⟨c, List.mem_range.mp hc, ?_⟩
  cases hcandidate : goal.candidates[c]? with
  | none => simp [candidateOutcome, hcandidate] at hg
  | some candidate =>
    refine ⟨candidate, rfl, ?_⟩
    simp only [candidateOutcome, hcandidate, planGraspsForCandidate] at hg
    split_ifs at hg
    · cases hg
    · exact hg

end Server

/-! ### From the parameters to the result -/

section Provenance
variable (fp : Rounding) (env : ℕ → PlanningEnv) (params : GraspPlanningParams)

/-- The grasp has been planned for the candidate that was built from the object at the
index, and is tagged with this index. -/
structure PlannedFor (g : RankedGrasp) (c : ℕ) (object : ObjectReference) : Prop where
  entry : params.candidateObjects.entries[c]? = some object
  candidate : (createPlanGraspsGoal fp params).candidates[c]? = some (params.candidate object)
  planned : g ∈ (planGrasps fp (env c) (createPlanGraspsGoal fp params) (params.candidate object)
    (UInt32.ofNat c)).rankedGrasps
  tagged : g.candidateIndex.toNat = c

variable {fp env params}

/-- What the skill keeps of a grasp of the server is the grasp's own record with the
object it was planned for. -/
theorem plannedFor_of_planningResult {n : ℕ} {g : RankedGrasp} {r : ObjectPlanningResult}
    (hg : g ∈ graspsBefore fp env (createPlanGraspsGoal fp params) n) (hr : planningResult params g = .ok r) :
    ∃ c object, PlannedFor fp env params g c object ∧ r = g.forObject object := by
  obtain ⟨c, -, candidate, hcandidate, hplanned⟩ := mem_graspsBefore hg
  obtain ⟨object, hobject, rfl⟩ := planningResult_eq_ok hr
  have hentry := hcandidate
  rw [createPlanGraspsGoal, List.getElem?_map, Option.map_eq_some_iff] at hentry
  obtain ⟨object', hobject', rfl⟩ := hentry
  have htag : g.candidateIndex.toNat = c := by
    obtain ⟨_, inputs, _, _, _, _, -, hindex, -, -, -, -, -, -, rfl⟩ := mem_planGrasps _ _ _ _ _ hplanned
    have hlt := params.candidateObjects.size_lt
    have hc := (List.getElem?_eq_some_iff.mp hobject').1
    rw [rankedGrasp, hindex, UInt32.toNat_ofNat_of_lt' (by rw [UInt32.size]; omega)]
  rw [htag, hobject', Option.some.injEq] at hobject
  obtain rfl := hobject
  exact ⟨c, object', ⟨hobject', hcandidate, hplanned, htag⟩, rfl⟩

variable {W Object Node : Type*} {nowMs : ℤ} {sort : StdSort qualityGreater} {isCanceling : ℕ → Bool}
  {sceneReady : Bool} {world : ObjectWorld W Object Node} {w w' : W} {response : GraspPlanningResult}

/-- What the skill has from the server when it gets to the World: the ranked grasps of an
accepted goal, each with its record. -/
theorem planningResults_of_server {results : PlanningResults}
    (h : planningResults fp (actionServer fp sort isCanceling env sceneReady) params = .ok results) :
    let goal := createPlanGraspsGoal fp params
    let run := executePlanGraspsAction fp sort isCanceling env goal
    handlePlanGraspsGoal sceneReady goal = .acceptAndExecute ∧ run.terminal = .succeed ∧
      run.result.rankedGrasps = rankGrasps sort goal (graspsBefore fp env goal goal.candidates.length) ∧
      List.Forall₂ (fun g r => ∃ c object, PlannedFor fp env params g c object ∧ r = g.forObject object)
        run.result.rankedGrasps (results.selected :: results.others) := by
  intro goal run
  unfold planningResults at h
  split_ifs at h
  dsimp only at h
  cases hcall : callGraspPlanningAction (actionServer fp sort isCanceling env sceneReady goal
      (fp.mul goal.planningTimeoutSec (.finite 1000))) with
  | error failure =>
    rw [hcall] at h
    exact nomatch h
  | ok result =>
    rw [hcall] at h
    obtain ⟨haccepted, rfl⟩ := call_actionServer_eq_ok hcall
    obtain ⟨hsuccess, hrecords⟩ := checkedResults_eq_ok h
    obtain ⟨hterminal, hranked, -⟩ := result_of_success hsuccess
    refine ⟨haccepted, hterminal, hranked, ?_⟩
    have hmem : ∀ g ∈ run.result.rankedGrasps, g ∈ graspsBefore fp env goal goal.candidates.length := by
      intro g hg
      rw [hranked] at hg
      exact mem_of_mem_rankGrasps hg
    exact ((List.forall₂_and_left _ _).mpr ⟨hmem, hrecords⟩).imp fun g r hgr => plannedFor_of_planningResult hgr.1 hgr.2

end Provenance

/-! ### A request for two objects -/

namespace Sample

/-- A cup and a box, and two grasps. -/
def twoParams : GraspPlanningParams :=
  { boxParams with
    candidateObjects := ⟨[.byName "cup".toList, .id "box".toList], by decide⟩
    maxNumGrasps := some 2 }

def twoServer : Goal → Double → ActionExchange :=
  actionServer .exact sort (fun _ => false) (fun _ => sceneEnv ["box/whole".toList, "cup/whole".toList]) true

end Sample

end MoveitPlanning.Grasping
