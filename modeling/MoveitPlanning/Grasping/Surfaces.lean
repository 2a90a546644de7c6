import Mathlib.Tactic.IntervalCases
import MoveitPlanning.Grasping.Generator

/-! The faces that grasp poses are spawned on. The pipeline drops the surfaces that are not
faces of a box and takes all six if none is left; the generator does the same once more.
Neither looks for repetitions, so a face named twice has its poses twice. -/

namespace MoveitPlanning.Grasping

open Foundation Scene

/-- The numbers of the faces of a box. -/
def IsFace (surface : ℤ) : Prop := 0 ≤ surface ∧ surface ≤ 5

instance (surface : ℤ) : Decidable (IsFace surface) := inferInstanceAs (Decidable (_ ∧ _))

/-- The faces and rotations of the poses that the generator spawns for a solution. -/
def graspSlots (task : GraspTask) : List (ℤ × ℕ) :=
  let numRotations := if 0 < task.numRotations then task.numRotations else 4
  let activeSurfaces := if task.surfaces = [] then [0, 1, 2, 3, 4, 5] else task.surfaces
  (activeSurfaces.filter fun surface => IsFace surface).flatMap fun surface =>
    (List.range numRotations.toNat).map fun i => (surface, i)

/-- The task has the faces and the number of rotations that the pipeline makes of a goal's. -/
structure GraspTask.HasFacesOf (task : GraspTask) (goal : Goal) : Prop where
  surfaces : task.surfaces = surfacesOrAll goal.surfaces
  numRotations : task.numRotations = if 0 < goal.numRotations then goal.numRotations else 4

theorem prepare_hasFacesOf {fp : Rounding} {env : PlanningEnv} {goal : Goal} {candidate : GraspCandidate}
    {candidateIndex : UInt32} {task : GraspTask} {inputs : LoopInputs}
    (h : prepare fp env goal candidate candidateIndex = .ok (task, inputs)) : task.HasFacesOf goal :=
  ⟨(taskOfGoal_of_ok h).surfaces, (taskOfGoal_of_ok h).numRotations⟩

section Slots
variable {task : GraspTask}

theorem graspPoses_eq_map (graspPose : GraspTask → ℤ → ℤ → ℕ → Pose Double) (object : Name) :
    GenerateBoxGraspPoses.graspPoses graspPose task object = (graspSlots task).map fun slot =>
      ⟨object, graspPose task slot.1 (if 0 < task.numRotations then task.numRotations else 4) slot.2⟩ := by
  simp only [GenerateBoxGraspPoses.graspPoses, graspSlots]
  generalize (if 0 < task.numRotations then task.numRotations else 4) = numRotations
  generalize (if task.surfaces = [] then [0, 1, 2, 3, 4, 5] else task.surfaces) = surfaces
  induction surfaces with
  | nil => rfl
  | cons surface rest ih =>
    rw [List.flatMap_cons, ih, List.filter_cons]
    by_cases hface : IsFace surface
    · rw [if_pos (decide_eq_true hface), List.flatMap_cons, List.map_append, List.map_map]
      exact congrArg (· ++ _) (if_pos hface)
    · rw [if_neg (show ¬(0 ≤ surface ∧ surface ≤ 5) from hface),
        if_neg (show ¬decide (IsFace surface) = true by simpa using hface), List.nil_append]

theorem count_rotations (n : ℕ) (surface s : ℤ) (i : ℕ) :
    ((List.range n).map fun j => (surface, j)).count (s, i) = if surface = s ∧ i < n then 1 else 0 := by
  have hnodup : ((List.range n).map fun j => (surface, j)).Nodup :=
    List.nodup_range.map fun _ _ h => (Prod.mk.inj h).2
  rw [hnodup.count]
  simp [and_comm]

theorem count_flatMap_rotations (surfaces : List ℤ) (n : ℕ) (s : ℤ) (i : ℕ) :
    (surfaces.flatMap fun surface => (List.range n).map fun j => (surface, j)).count (s, i) =
      if i < n then surfaces.count s else 0 := by
  induction surfaces with
  | nil => simp
  | cons surface rest ih =>
    rw [List.flatMap_cons, List.count_append, ih, count_rotations, List.count_cons]
    by_cases hi : i < n
    · simp [hi, add_comm]
    · simp [hi]

/-- The surfaces that are faces, and all six if there are none: what the pipeline's fallback
makes of a list, the generator's leaves as it is. -/
theorem activeSurfaces_eq (surfaces : List ℤ) :
    (if surfacesOrAll surfaces = [] then [0, 1, 2, 3, 4, 5] else surfacesOrAll surfaces).filter
        (fun surface => IsFace surface) =
      if ∃ s ∈ surfaces, IsFace s then surfaces.filter fun surface => IsFace surface else [0, 1, 2, 3, 4, 5] := by
  have hvalid : (surfaces.filter fun s => 0 ≤ s ∧ s ≤ 5) = surfaces.filter fun surface => IsFace surface := rfl
  unfold surfacesOrAll
  simp only [hvalid]
  by_cases hsome : ∃ s ∈ surfaces, IsFace s
  · obtain ⟨s, hs, hface⟩ := id hsome
    have hne : (surfaces.filter fun surface => IsFace surface) ≠ [] :=
      List.ne_nil_of_mem (List.mem_filter.mpr ⟨hs, decide_eq_true hface⟩)
    rw [if_pos hsome, if_neg hne, if_neg hne, List.filter_filter]
    simp
  · have hnil : (surfaces.filter fun surface => IsFace surface) = [] :=
      List.filter_eq_nil_iff.mpr fun s hs hface => hsome ⟨s, hs, of_decide_eq_true hface⟩
    rw [if_neg hsome, if_pos hnil]
    rfl

theorem count_allFaces (surface : ℤ) : [0, 1, 2, 3, 4, 5].count surface = if IsFace surface then 1 else 0 := by
  split_ifs with hface
  · obtain ⟨hle, hge⟩ := hface
    interval_cases surface <;> rfl
  · refine List.count_eq_zero.mpr fun hmem => hface ?_
    simp only [List.mem_cons, List.not_mem_nil, or_false] at hmem
    rcases hmem with rfl | rfl | rfl | rfl | rfl | rfl <;> decide

theorem count_filter_isFace (surfaces : List ℤ) (surface : ℤ) :
    (surfaces.filter fun s => IsFace s).count surface = if IsFace surface then surfaces.count surface else 0 := by
  split_ifs with hface
  · exact List.count_filter (decide_eq_true hface)
  · exact List.count_eq_zero.mpr fun hmem => hface (of_decide_eq_true (List.mem_filter.mp hmem).2)

theorem numRotations_pos {goal : Goal} (h : task.HasFacesOf goal) : 0 < task.numRotations := by
  rw [h.numRotations]
  split_ifs with hgoal
  · exact hgoal
  · norm_num

/-- A slot is in the list as often as the goal names its face, or once if it names none. -/
theorem count_graspSlots {goal : Goal} (h : task.HasFacesOf goal) (surface : ℤ) (i : ℕ) :
    (graspSlots task).count (surface, i) =
      if IsFace surface ∧ (i : ℤ) < task.numRotations then
        if ∃ s ∈ goal.surfaces, IsFace s then goal.surfaces.count surface else 1
      else 0 := by
  simp only [graspSlots, if_pos (numRotations_pos h)]
  rw [h.surfaces, activeSurfaces_eq, count_flatMap_rotations]
  by_cases hi : (i : ℤ) < task.numRotations
  · rw [if_pos (Int.lt_toNat.mpr hi)]
    simp only [hi, and_true]
    split_ifs with hsome hface hface
    · rw [count_filter_isFace, if_pos hface]
    · rw [count_filter_isFace, if_neg hface]
    · rw [count_allFaces, if_pos hface]
    · rw [count_allFaces, if_neg hface]
  · rw [if_neg fun hlt => hi (Int.lt_toNat.mp hlt), if_neg fun hboth => hi hboth.2]

/-- No slot is there twice exactly when the goal names no face twice. -/
theorem nodup_graspSlots_iff {goal : Goal} (h : task.HasFacesOf goal) :
    (graspSlots task).Nodup ↔ ∀ surface, IsFace surface → goal.surfaces.count surface ≤ 1 := by
  rw [List.nodup_iff_count_le_one]
  constructor
  · intro hcount surface hface
    have hslot := hcount (surface, 0)
    rw [count_graspSlots h, if_pos ⟨hface, by simpa using numRotations_pos h⟩] at hslot
    by_cases hsome : ∃ s ∈ goal.surfaces, IsFace s
    · rwa [if_pos hsome] at hslot
    · rw [List.count_eq_zero.mpr fun hmem => hsome ⟨surface, hmem, hface⟩]
      exact Nat.zero_le 1
  · rintro hcount ⟨surface, i⟩
    rw [count_graspSlots h]
    split_ifs with hslot hsome
    · exact hcount surface hslot.1
    · exact le_rfl
    · exact Nat.zero_le 1

end Slots

/-- The poses spawned for a solution are one for each rotation of each face, as often as
the goal names the face, and on all six faces once if it names none. -/
theorem spawned_faces {graspPose : GraspTask → ℤ → ℤ → ℕ → Pose Double} {task : GraspTask} {goal : Goal}
    (htask : task.HasFacesOf goal) (stage : GenerateBoxGraspPoses) {s : UpstreamSolution} (hscene : s.scene.isSome)
    (hmodel : s.hasRobotModel = true) :
    let n := if 0 < goal.numRotations then goal.numRotations else 4
    (GenerateBoxGraspPoses.computeFor graspPose task stage s).spawned =
        stage.spawned ++ (graspSlots task).map (fun slot => ⟨stage.object, graspPose task slot.1 n slot.2⟩) ∧
      (∀ surface i, (graspSlots task).count (surface, i) =
        if IsFace surface ∧ (i : ℤ) < n then
          if ∃ s ∈ goal.surfaces, IsFace s then goal.surfaces.count surface else 1
        else 0) ∧
      ((graspSlots task).Nodup ↔ ∀ surface, IsFace surface → goal.surfaces.count surface ≤ 1) := by
  intro n
  have hn : task.numRotations = n := htask.numRotations
  refine ⟨?_, fun surface i => ?_, nodup_graspSlots_iff htask⟩
  · obtain ⟨known, hknown⟩ := Option.isSome_iff_exists.mp hscene
    simp only [GenerateBoxGraspPoses.computeFor, hknown, hmodel]
    rw [← hn, if_neg (by simp), graspPoses_eq_map, if_pos (numRotations_pos htask)]
  · rw [← hn]
    exact count_graspSlots htask surface i

namespace Sample

/-- A goal for the box that asks for the surfaces, with one rotation each. -/
def facesGoal (surfaces : List ℤ) : Goal :=
  { createPlanGraspsGoal .exact (sizedParams (.id "box".toList)) with surfaces, numRotations := 1 }

/-- The part of the goal's task that the generator reads. -/
def facesTask (surfaces : List ℤ) : GraspTask where
  groupName := []
  eefGroup := []
  ikFrame := []
  pregraspPose := []
  candidateTimeoutSec := 0
  minDistance := 0
  maxDistance := 0
  targetId := "box".toList
  allowedLinks := none
  surfaces := surfacesOrAll surfaces
  numRotations := 1
  box := ⟨⟨1, 1, 1⟩, Pose.identity⟩
  computeIkTimeoutSec := 0
  maxNumGrasps := 1

theorem facesTask_hasFacesOf (surfaces : List ℤ) : (facesTask surfaces).HasFacesOf (facesGoal surfaces) :=
  ⟨rfl, rfl⟩

end Sample

/-- A request for surface 7 alone has poses on a face that it does not name, and one that
names a face twice has its poses twice. -/
theorem faces_not_named_or_twice :
    ((0, 0) ∈ graspSlots (Sample.facesTask [7]) ∧ (0 : ℤ) ∉ (Sample.facesGoal [7]).surfaces) ∧
      ¬(graspSlots (Sample.facesTask [0, 0])).Nodup := by
  decide

theorem spawned_faces_mixed :
    let n := if 0 < (Sample.facesGoal [7, 4, 0, 4]).numRotations then (Sample.facesGoal [7, 4, 0, 4]).numRotations else 4
    (GenerateBoxGraspPoses.computeFor Sample.boxPose (Sample.facesTask [7, 4, 0, 4])
        (.init (Sample.facesTask [7, 4, 0, 4])) ⟨some Sample.knowsWhole, true⟩).spawned =
        [] ++ (graspSlots (Sample.facesTask [7, 4, 0, 4])).map (fun slot =>
          ⟨"box".toList, Sample.boxPose (Sample.facesTask [7, 4, 0, 4]) slot.1 n slot.2⟩) ∧
      (∀ surface i, (graspSlots (Sample.facesTask [7, 4, 0, 4])).count (surface, i) =
        if IsFace surface ∧ (i : ℤ) < n then
          if ∃ s ∈ (Sample.facesGoal [7, 4, 0, 4]).surfaces, IsFace s then
            (Sample.facesGoal [7, 4, 0, 4]).surfaces.count surface
          else 1
        else 0) ∧
      ((graspSlots (Sample.facesTask [7, 4, 0, 4])).Nodup ↔
        ∀ surface, IsFace surface → (Sample.facesGoal [7, 4, 0, 4]).surfaces.count surface ≤ 1) :=
  spawned_faces (Sample.facesTask_hasFacesOf _) _ rfl rfl

end MoveitPlanning.Grasping
