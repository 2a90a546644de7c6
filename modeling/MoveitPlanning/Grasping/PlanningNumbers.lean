import MoveitPlanning.Grasping.RoundedBox
import MoveitPlanning.Grasping.Skill

/-! The numbers that `PlanGrasps` plans with. A number of the goal replaces its default when
it is `> 0`, which an infinite one is too; only the timeout is tested for being finite, and
then divided by the number of candidates. The dimensions of the object are those of the
request when all are `> 0`, and otherwise what `computeObjectBoundingBox` makes of the
object of the planning scene, whose boxes are skipped for a dimension that is `<= 0`: not
for one that is infinite or not a number. So the numbers are finite and positive exactly
when what they come from is in a range that no test ensures. -/

namespace MoveitPlanning.Grasping

open Foundation Scene

/-! ### When the numbers are finite and positive -/

/-- Finite and positive: the timeout, the duration, the distance and the dimensions. -/
structure PlanningTask.FinitePositive (p : PlanningTask) : Prop where
  candidateTimeoutSec : p.task.candidateTimeoutSec.IsPositive
  gripperMotionDurationSec : p.gripperMotionDurationSec.IsPositive
  retractDist : p.task.maxDistance.IsPositive
  boxDims : ∀ k, (p.task.box.dimensions.coords k).IsPositive

/-- The timeout before it is divided. -/
def Goal.grantedTimeoutSec (goal : Goal) : ℚ :=
  match goal.planningTimeoutSec with
  | .finite t => if 0 < t then t else 5
  | _ => 5

/-- `static_cast<double>(num_candidates)`. -/
def Goal.numCandidates (fp : Rounding) (goal : Goal) : Double := fp.round (max 1 goal.candidates.length : ℕ)

section Range
variable (fp : Rounding) (toObjectFrame : Option (Pose Double) → Vec3 Double → Vec3 Double) (env : PlanningEnv)
  (goal : Goal) (candidate : GraspCandidate)

/-- The environment whose bounding boxes are those of the code. -/
def PlanningEnv.withBoxes : PlanningEnv :=
  { env with computeObjectBoundingBox := Rounded.computeObjectBoundingBox fp toObjectFrame }

/-- The timeout does not underflow when it is divided, no number of the goal and no
dimension of the request is infinite, and the shape of an object of the planning scene is
in range. -/
structure NumbersInRange : Prop where
  planningTimeout : ∃ count, goal.numCandidates fp = .finite count ∧
    (2 : ℚ) ^ (-1075 : ℤ) < goal.grantedTimeoutSec / count
  gripperMotionDuration : goal.gripperMotionDurationSec ≠ .posInf
  retractDist : goal.retractDistM ≠ .posInf
  objDims : candidate.hasExplicitDimensions = true → ∀ k, candidate.objDimsInMeters.coords k ≠ .posInf
  shape : candidate.hasExplicitDimensions = false → ∀ object,
    env.planningSceneCollisionObject (resolveTargetObjectId env.planningSceneObjectIds candidate.targetId) =
      some object → Rounded.ShapeInRange fp toObjectFrame object

variable {fp toObjectFrame env goal candidate}

theorem Goal.grantedTimeoutSec_pos (goal : Goal) : 0 < goal.grantedTimeoutSec := by
  rw [Goal.grantedTimeoutSec]
  split
  · split_ifs with h
    · exact h
    · norm_num
  · norm_num

theorem Goal.grantedTimeoutSec_isBinary64 (h : goal.planningTimeoutSec.IsBinary64) :
    IsBinary64 goal.grantedTimeoutSec := by
  have hfive : IsBinary64 (5 : ℤ) := IsBinary64.intCast (by norm_num)
  rw [Goal.grantedTimeoutSec]
  split
  · rename_i t ht
    rw [ht] at h
    split_ifs
    · exact h
    · exact_mod_cast hfive
  · exact_mod_cast hfive

theorem resolveCandidateTimeoutSec_eq (fp : Rounding) (goal : Goal) :
    resolveCandidateTimeoutSec fp goal = fp.div (.finite goal.grantedTimeoutSec) (goal.numCandidates fp) := by
  have hgranted : (if goal.planningTimeoutSec.isFinite ∧ Double.lt 0 goal.planningTimeoutSec then
      goal.planningTimeoutSec else .finite 5) = .finite goal.grantedTimeoutSec := by
    rw [Goal.grantedTimeoutSec]
    cases goal.planningTimeoutSec with
    | finite t =>
      by_cases hpos : 0 < t
      · rw [if_pos ⟨rfl, Double.lt_finite.mpr hpos⟩]
        exact congrArg Double.finite (if_pos hpos).symm
      · rw [if_neg fun h => hpos (Double.lt_finite.mp h.2)]
        exact congrArg Double.finite (if_neg hpos).symm
    | _ => exact if_neg fun h => absurd h.1 (by simp [Double.isFinite])
  rw [resolveCandidateTimeoutSec, hgranted, Goal.numCandidates]

theorem Goal.one_le_numCandidates (fp : Rounding) (goal : Goal) : 1 ≤ goal.numCandidates fp := by
  rw [Goal.numCandidates, ← fp.round_one]
  exact fp.monotone (by exact_mod_cast le_max_left 1 goal.candidates.length)

/-- A number that replaces its default is positive unless it is infinite. -/
theorem positiveOr_isPositive_iff {value default : Double} (h : default.IsPositive) :
    (positiveOr value default).IsPositive ↔ value ≠ .posInf := by
  rw [positiveOr]
  split_ifs with hpos
  · exact Double.isPositive_iff_of_lt hpos
  · refine iff_of_true h ?_
    rintro rfl
    exact hpos (by decide)

theorem hasExplicitDimensions_iff :
    candidate.hasExplicitDimensions = true ↔ ∀ k, Double.lt 0 (candidate.objDimsInMeters.coords k) = true := by
  rw [GraspCandidate.hasExplicitDimensions, decide_eq_true_iff, Fin.forall_fin_succ, Fin.forall_fin_two]
  rfl

/-- The dimensions of the request, or those of the object of the planning scene. -/
theorem candidateBox_isPositive_iff {targetId : Name} {box : ObjectBoundingBox}
    (h : candidateBox (env.withBoxes fp toObjectFrame) candidate targetId = .ok box) :
    (∀ k, (box.dimensions.coords k).IsPositive) ↔
      (candidate.hasExplicitDimensions = true → ∀ k, candidate.objDimsInMeters.coords k ≠ .posInf) ∧
        (candidate.hasExplicitDimensions = false → ∀ object, env.planningSceneCollisionObject targetId = some object →
          Rounded.ShapeInRange fp toObjectFrame object) := by
  unfold candidateBox at h
  cases hexplicit : candidate.hasExplicitDimensions with
  | true =>
    rw [hexplicit, if_pos rfl] at h
    obtain rfl := Except.ok.inj h
    have hpos := hasExplicitDimensions_iff.mp hexplicit
    simp only [forall_true_left, reduceCtorEq, IsEmpty.forall_iff, and_true]
    exact forall_congr' fun k => Double.isPositive_iff_of_lt (hpos k)
  | false =>
    rw [hexplicit, if_neg (by simp)] at h
    simp only [reduceCtorEq, IsEmpty.forall_iff, true_and, forall_true_left]
    have hscene : (env.withBoxes fp toObjectFrame).planningSceneCollisionObject targetId =
        env.planningSceneCollisionObject targetId := rfl
    rw [hscene] at h
    cases hobject : env.planningSceneCollisionObject targetId with
    | none =>
      rw [hobject] at h
      cases h
    | some object =>
      rw [hobject] at h
      cases hbox : Rounded.computeObjectBoundingBox fp toObjectFrame object with
      | none => simp [PlanningEnv.withBoxes, hbox] at h
      | some box' =>
        simp only [PlanningEnv.withBoxes, hbox, Except.ok.injEq] at h
        obtain rfl := h
        simpa using Rounded.dimensions_isPositive_iff hbox

/-- When `PlanGrasps` gets as far as its task, the numbers are finite and positive exactly
when what they come from is in range. -/
theorem finite_positive_iff_in_range (hfp : fp.KeepsBinary64) (hunderflow : fp.Underflows)
    (hformat : goal.planningTimeoutSec.IsBinary64) {p : PlanningTask}
    (h : planningTask fp (env.withBoxes fp toObjectFrame) goal candidate = .ok p) :
    p.FinitePositive ↔ NumbersInRange fp toObjectFrame env goal candidate := by
  have hp := planningTask_ends fp (env.withBoxes fp toObjectFrame) goal candidate
  rw [h] at hp
  have htimeout_iff : p.task.candidateTimeoutSec.IsPositive ↔
      ∃ count, goal.numCandidates fp = .finite count ∧ (2 : ℚ) ^ (-1075 : ℤ) < goal.grantedTimeoutSec / count := by
    rw [hp.candidateTimeoutSec, resolveCandidateTimeoutSec_eq]
    exact Rounding.isPositive_div_iff hfp hunderflow (Goal.grantedTimeoutSec_isBinary64 hformat)
      goal.grantedTimeoutSec_pos (goal.one_le_numCandidates fp)
  have hduration_iff : p.gripperMotionDurationSec.IsPositive ↔ goal.gripperMotionDurationSec ≠ .posInf := by
    rw [hp.gripperMotionDurationSec]
    exact positiveOr_isPositive_iff (show (0 : ℚ) < 1 / 2 by norm_num)
  have hdistance_iff : p.task.maxDistance.IsPositive ↔ goal.retractDistM ≠ .posInf := by
    rw [hp.maxDistance]
    exact positiveOr_isPositive_iff (show (0 : ℚ) < 1 / 20 by norm_num)
  have hbox_iff := candidateBox_isPositive_iff (hp.targetId ▸ hp.box)
  constructor
  · rintro ⟨ht, hd, hr, hb⟩
    obtain ⟨hdims, hshape⟩ := hbox_iff.mp hb
    exact ⟨htimeout_iff.mp ht, hduration_iff.mp hd, hdistance_iff.mp hr, hdims, hshape⟩
  · rintro ⟨ht, hd, hr, hdims, hshape⟩
    exact ⟨htimeout_iff.mpr ht, hduration_iff.mpr hd, hdistance_iff.mpr hr, hbox_iff.mpr ⟨hdims, hshape⟩⟩

end Range

namespace Sample

/-- A goal for one candidate, with the distance to retract. -/
def retractGoal (retractDistM : Double) (candidate : GraspCandidate) : Goal where
  groupName := "arm".toList
  endEffectorGroup := []
  toolFrame := []
  planningTimeoutSec := .finite 10
  gripperMotionDurationSec := .finite (1 / 2)
  retractDistM
  surfaces := []
  numRotations := 0
  maxNumGrasps := 1
  candidates := [candidate]

/-- A candidate without dimensions. -/
def unsizedCandidate : GraspCandidate := ⟨"part".toList, ⟨0, 0, 0⟩, Pose.identity⟩

/-- A planning scene with a mesh of two vertices, at the origin of the object. -/
def meshEnv : PlanningEnv :=
  { sceneEnv ["part".toList] with
    planningSceneCollisionObject _ := some {
      stamp := 0
      frameId := []
      id := "part".toList
      operation := .add
      pose := Pose.identity
      meshes := [⟨[⟨0, 0, 0⟩, ⟨1, 1, 1⟩], []⟩]
      meshPoses := []
      primitives := []
      primitivePoses := [] } }

end Sample

theorem finite_positive_iff_in_range_mesh :
    let goal := Sample.retractGoal (.finite (1 / 8)) Sample.unsizedCandidate
    ∃ p, planningTask .flush (Sample.meshEnv.withBoxes .flush fun _ v => v) goal Sample.unsizedCandidate = .ok p ∧
      (p.FinitePositive ↔ NumbersInRange .flush (fun _ v => v) Sample.meshEnv goal Sample.unsizedCandidate) := by
  intro goal
  have hformat : goal.planningTimeoutSec.IsBinary64 := by
    exact_mod_cast IsBinary64.intCast (n := 10) (by norm_num)
  have hplanned : (planningTask .flush (Sample.meshEnv.withBoxes .flush fun _ v => v) goal
      Sample.unsizedCandidate).toOption.isSome = true := by decide +kernel
  cases hp : planningTask .flush (Sample.meshEnv.withBoxes .flush fun _ v => v) goal Sample.unsizedCandidate with
  | error code =>
    rw [hp] at hplanned
    cases hplanned
  | ok p =>
    exact ⟨p, rfl, finite_positive_iff_in_range Rounding.flush_keepsBinary64 Rounding.flush_underflows hformat hp⟩

/-- An infinite distance to retract is handed to planning. -/
theorem infinite_retract_planned :
    let candidate : GraspCandidate := ⟨"part".toList, ⟨1, 1, 1⟩, Pose.identity⟩
    ∃ p, planningTask .exact (Sample.sceneEnv ["part".toList]) (Sample.retractGoal .posInf candidate) candidate = .ok p ∧
      ¬p.FinitePositive :=
  ⟨_, rfl, fun h => h.retractDist⟩

end MoveitPlanning.Grasping
