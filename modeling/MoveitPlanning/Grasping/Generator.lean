import MoveitPlanning.Foundation.Run
import MoveitPlanning.Grasping.Skill

/-! The stage that generates the grasp poses of a task. It is given the target under the
id that the pipeline has resolved, and resolves it once more when a solution of the
stage it monitors arrives, in the planning scene of that solution; the poses are spawned
in the frame it has settled on, while everything else keeps the pipeline's id. What
Eigen makes of a face and a rotation is a parameter. -/

namespace MoveitPlanning.Grasping

open Foundation Scene

/-! ### The stage -/

/-- `knowsFrameTransform` of a planning scene. -/
abbrev KnownFrames := Name → Bool

/-- A solution of the monitored stage. -/
structure UpstreamSolution where
  /-- the scene at its end, `none` for a null pointer -/
  scene : Option KnownFrames
  /-- the scene's `diff()` is not null and has a robot model -/
  hasRobotModel : Bool

/-- The stage between its calls. -/
structure GenerateBoxGraspPoses where
  object : Name
  upstreamSolutions : List UpstreamSolution
  /-- the poses of the states spawned so far -/
  spawned : List PoseStamped
  /-- the messages of the failures spawned so far -/
  failures : List Name

/-- The canonical entity of an object. -/
def wholeOf (object : Name) : Name := object ++ "/whole".toList

namespace GenerateBoxGraspPoses

def init (task : GraspTask) : GenerateBoxGraspPoses := ⟨task.targetId, [], [], []⟩

def onNewSolution (stage : GenerateBoxGraspPoses) (s : UpstreamSolution) : GenerateBoxGraspPoses :=
  match s.scene with
  | none => stage
  | some known =>
    if known stage.object then { stage with upstreamSolutions := stage.upstreamSolutions ++ [s] }
    else if known (wholeOf stage.object) then
      { stage with object := wholeOf stage.object, upstreamSolutions := stage.upstreamSolutions ++ [s] }
    else
      { stage with failures := stage.failures ++ ["object '".toList ++ stage.object ++ "' not in scene".toList] }

section Compute
variable (graspPose : GraspTask → ℤ → ℤ → ℕ → Pose Double) (task : GraspTask)

/-- The poses on the faces of the box, with every rotation, in the frame of the object. -/
def graspPoses (object : Name) : List PoseStamped :=
  let numRotations := if 0 < task.numRotations then task.numRotations else 4
  let activeSurfaces := if task.surfaces = [] then [0, 1, 2, 3, 4, 5] else task.surfaces
  activeSurfaces.flatMap fun surface =>
    if 0 ≤ surface ∧ surface ≤ 5 then
      (List.range numRotations.toNat).map fun i => ⟨object, graspPose task surface numRotations i⟩
    else []

/-- The rest of `compute` for the solution it has taken from the queue. -/
def computeFor (stage : GenerateBoxGraspPoses) (s : UpstreamSolution) : GenerateBoxGraspPoses :=
  if s.scene.isNone || !s.hasRobotModel then stage
  else { stage with spawned := stage.spawned ++ graspPoses graspPose task stage.object }

/-- The calls of the task constructor. -/
inductive Call
  | onNewSolution (s : UpstreamSolution)
  /-- with the place in the queue of the solution that is cheapest -/
  | compute (cheapest : ℕ)

def step (stage : GenerateBoxGraspPoses) : Call → Option GenerateBoxGraspPoses
  | .onNewSolution s => some (stage.onNewSolution s)
  | .compute cheapest =>
    if stage.upstreamSolutions = [] then some stage
    else stage.upstreamSolutions[cheapest]?.map fun s =>
      computeFor graspPose task
        { stage with upstreamSolutions := stage.upstreamSolutions.eraseIdx cheapest } s

/-! ### The frame of the spawned poses -/

variable {graspPose task}

theorem frameId_of_mem_graspPoses {object : Name} {p : PoseStamped}
    (h : p ∈ graspPoses graspPose task object) : p.frameId = object := by
  obtain ⟨surface, -, hp⟩ := List.mem_flatMap.mp h
  by_cases hvalid : 0 ≤ surface ∧ surface ≤ 5
  · rw [if_pos hvalid] at hp
    obtain ⟨i, -, rfl⟩ := List.mem_map.mp hp
    rfl
  · rw [if_neg hvalid] at hp
    cases hp

/-- The object changes only where a scene has its canonical entity and not itself. -/
theorem object_of_onNewSolution (stage : GenerateBoxGraspPoses) (s : UpstreamSolution) :
    (stage.onNewSolution s).object = stage.object ∨
      (stage.onNewSolution s).object = wholeOf stage.object ∧
        ∃ known, s.scene = some known ∧ known stage.object = false ∧ known (wholeOf stage.object) = true := by
  unfold onNewSolution
  cases hscene : s.scene with
  | none => exact .inl rfl
  | some known =>
    dsimp only
    split_ifs with hobject hwhole
    · exact .inl rfl
    · exact .inr ⟨rfl, known, rfl, by simpa using hobject, hwhole⟩
    · exact .inl rfl

@[simp] theorem spawned_onNewSolution (stage : GenerateBoxGraspPoses) (s : UpstreamSolution) :
    (stage.onNewSolution s).spawned = stage.spawned := by
  unfold onNewSolution
  split
  · rfl
  · split_ifs <;> rfl

@[simp] theorem object_computeFor (stage : GenerateBoxGraspPoses) (s : UpstreamSolution) :
    (computeFor graspPose task stage s).object = stage.object := by
  unfold computeFor
  split_ifs <;> rfl

theorem mem_spawned_computeFor {stage : GenerateBoxGraspPoses} {s : UpstreamSolution} {p : PoseStamped}
    (h : p ∈ (computeFor graspPose task stage s).spawned) : p ∈ stage.spawned ∨ p.frameId = stage.object := by
  unfold computeFor at h
  split_ifs at h
  · exact .inl h
  · exact (List.mem_append.mp h).imp_right frameId_of_mem_graspPoses

/-- Computing leaves the object as it is and spawns poses in its frame. -/
theorem step_compute {stage stage' : GenerateBoxGraspPoses} {cheapest : ℕ}
    (h : step graspPose task stage (.compute cheapest) = some stage') :
    stage'.object = stage.object ∧ ∀ p ∈ stage'.spawned, p ∈ stage.spawned ∨ p.frameId = stage.object := by
  simp only [step] at h
  split_ifs at h
  · obtain rfl := Option.some.inj h
    exact ⟨rfl, fun p hp => .inl hp⟩
  · obtain ⟨s, -, rfl⟩ := Option.map_eq_some_iff.mp h
    exact ⟨object_computeFor _ s, fun _ => mem_spawned_computeFor⟩

/-- What a scene must say for the target to stay as it is. -/
def Keeps (target : Name) (known : KnownFrames) : Prop := known target = true ∨ known (wholeOf target) = false

/-- The stage works in the frame of the target. -/
def InFrameOf (target : Name) (stage : GenerateBoxGraspPoses) : Prop :=
  stage.object = target ∧ ∀ p ∈ stage.spawned, p.frameId = target

theorem InFrameOf.onNewSolution {target : Name} {stage : GenerateBoxGraspPoses} (h : InFrameOf target stage)
    {s : UpstreamSolution} (hkeeps : ∀ known, s.scene = some known → Keeps target known) :
    InFrameOf target (stage.onNewSolution s) := by
  obtain ⟨hobject, hspawned⟩ := h
  refine ⟨?_, by rwa [spawned_onNewSolution]⟩
  rcases object_of_onNewSolution stage s with hsame | ⟨-, known, hscene, hnot, hwhole⟩
  · rw [hsame, hobject]
  · rw [hobject] at hnot hwhole
    rcases hkeeps known hscene with hknown | hnotWhole
    · exact nomatch hnot.symm.trans hknown
    · exact nomatch hwhole.symm.trans hnotWhole

theorem InFrameOf.compute {target : Name} {stage stage' : GenerateBoxGraspPoses} (h : InFrameOf target stage)
    {cheapest : ℕ} (hstep : step graspPose task stage (.compute cheapest) = some stage') :
    InFrameOf target stage' := by
  obtain ⟨hsame, hnew⟩ := step_compute hstep
  refine ⟨hsame.trans h.1, fun p hp => ?_⟩
  rcases hnew p hp with hold | hframe
  · exact h.2 p hold
  · exact hframe.trans h.1

/-- The stage has spawned nothing yet, or has changed to an object with a longer name. -/
def OutOfFrameOf (target : Name) (stage : GenerateBoxGraspPoses) : Prop :=
  (stage.object = target ∧ stage.upstreamSolutions = [] ∧ stage.spawned = []) ∨
    (target.length < stage.object.length ∧ ∀ p ∈ stage.spawned, target.length < p.frameId.length)

theorem OutOfFrameOf.frameId_ne {target : Name} {stage : GenerateBoxGraspPoses} (h : OutOfFrameOf target stage) :
    ∀ p ∈ stage.spawned, p.frameId ≠ target := by
  rintro p hp rfl
  rcases h with ⟨-, -, hnone⟩ | ⟨-, hlonger⟩
  · simp [hnone] at hp
  · exact absurd (hlonger p hp) (lt_irrefl _)

theorem length_lt_wholeOf (object : Name) : object.length < (wholeOf object).length := by
  simp [wholeOf]

theorem OutOfFrameOf.onNewSolution {target : Name} {stage : GenerateBoxGraspPoses} (h : OutOfFrameOf target stage)
    {s : UpstreamSolution} (hunknown : ∀ known, s.scene = some known → known target = false) :
    OutOfFrameOf target (stage.onNewSolution s) := by
  rcases h with ⟨rfl, hqueue, hnone⟩ | ⟨hlonger, hspawned⟩
  · unfold GenerateBoxGraspPoses.onNewSolution
    cases hscene : s.scene with
    | none => exact .inl ⟨rfl, hqueue, hnone⟩
    | some known =>
      dsimp only
      rw [if_neg (by simp [hunknown known hscene])]
      split_ifs
      · exact .inr ⟨length_lt_wholeOf _, by simp [hnone]⟩
      · exact .inl ⟨rfl, hqueue, hnone⟩
  · refine .inr ⟨?_, by rwa [spawned_onNewSolution]⟩
    rcases object_of_onNewSolution stage s with hsame | ⟨hwhole, -⟩
    · rwa [hsame]
    · rw [hwhole]
      exact hlonger.trans (length_lt_wholeOf _)

theorem OutOfFrameOf.compute {target : Name} {stage stage' : GenerateBoxGraspPoses} (h : OutOfFrameOf target stage)
    {cheapest : ℕ} (hstep : step graspPose task stage (.compute cheapest) = some stage') :
    OutOfFrameOf target stage' := by
  rcases h with ⟨hobject, hqueue, hnone⟩ | ⟨hlonger, hspawned⟩
  · rw [step, if_pos hqueue] at hstep
    obtain rfl := Option.some.inj hstep
    exact .inl ⟨hobject, hqueue, hnone⟩
  · obtain ⟨hsame, hnew⟩ := step_compute hstep
    refine .inr ⟨hsame ▸ hlonger, fun p hp => ?_⟩
    rcases hnew p hp with hold | hframe
    · exact hspawned p hold
    · exact hframe ▸ hlonger

/-- The scenes a call is made with have a property. -/
def SceneMeets (P : KnownFrames → Prop) : Call → Prop
  | .onNewSolution s => ∀ known, s.scene = some known → P known
  | .compute _ => True

section Run
variable {stage : GenerateBoxGraspPoses} {calls : List Call}
  (hr : exec (step graspPose task) (init task) calls = some stage)
include hr

/-- What holds of a new stage and is kept by its calls, made with scenes that meet `P`,
holds after any such calls. -/
theorem invariant_of_scenes {I : GenerateBoxGraspPoses → Prop} {P : KnownFrames → Prop} (hinit : I (init task))
    (hsolution : ∀ stage s, I stage → (∀ known, s.scene = some known → P known) → I (stage.onNewSolution s))
    (hcompute : ∀ stage stage' cheapest, I stage →
      step graspPose task stage (.compute cheapest) = some stage' → I stage')
    (hscenes : ∀ call ∈ calls, SceneMeets P call) : I stage := by
  have halong : Along (step graspPose task) (fun _ call => SceneMeets P call) (init task) calls :=
    Along.of_labels fun call hcall _ => hscenes call hcall
  refine exec_invariant (fun stage call stage' hi hcall hstep => ?_) halong hr hinit
  cases call with
  | onNewSolution s =>
    obtain rfl := Option.some.inj hstep
    exact hsolution stage s hi hcall
  | compute cheapest => exact hcompute stage stage' cheapest hi hstep

/-- All poses are spawned in the frame of the target while the scenes keep it. -/
theorem inFrameOf_of_keeps (hkeeps : ∀ call ∈ calls, SceneMeets (Keeps task.targetId) call) :
    InFrameOf task.targetId stage :=
  invariant_of_scenes hr ⟨rfl, fun _ hp => absurd hp List.not_mem_nil⟩
    (fun _ _ hin hscene => hin.onNewSolution hscene) (fun _ _ _ hin hstep => hin.compute hstep) hkeeps

/-- No pose is spawned in the frame of a target that no scene knows. -/
theorem outOfFrameOf_of_unknown
    (hunknown : ∀ call ∈ calls, SceneMeets (fun known => known task.targetId = false) call) :
    OutOfFrameOf task.targetId stage :=
  invariant_of_scenes hr (.inl ⟨rfl, rfl, rfl⟩) (fun _ _ hout hscene => hout.onNewSolution hscene)
    (fun _ _ _ hout hstep => hout.compute hstep) hunknown

end Run

end Compute

end GenerateBoxGraspPoses

/-! ### The names of the target in the result -/

/-- The target of the grasp, the frame of its pose, the object it may touch, and the
object that the gripper may touch in the task have one name. -/
structure TargetNamesAgree (task : GraspTask) (g : RankedGrasp) : Prop where
  frame : g.grasp.graspPose.frameId = g.targetId
  touch : g.grasp.allowedTouchObjects = [g.targetId]
  task : task.targetId = g.targetId ∧ task.allowedLinks.isSome

/-- The solutions of a task carry poses that its generator has spawned, which was given
solutions of the monitored stage in the planning scene `known`. -/
def PlannedInScene (graspPose : GraspTask → ℤ → ℤ → ℕ → Pose Double) (env : PlanningEnv) (known : KnownFrames) :
    Prop :=
  ∀ task s states, some s ∈ env.solutions task → s.states = .ok states →
    ∃ calls stage, exec (GenerateBoxGraspPoses.step graspPose task) (.init task) calls = some stage ∧
      (∀ call ∈ calls, GenerateBoxGraspPoses.SceneMeets (fun k => k = known) call) ∧
      states.targetPose ∈ stage.spawned

section Names
variable {graspPose : GraspTask → ℤ → ℤ → ℕ → Pose Double} {fp : Rounding} {env : PlanningEnv} {goal : Goal}
  {candidate : GraspCandidate} {candidateIndex : UInt32} {known : KnownFrames}

/-- A pose of the task's generator is in the frame of the task's target exactly when the
scene knows the target. -/
theorem frameId_eq_iff (hplanned : PlannedInScene graspPose env known) {task : GraspTask} {s : Solution}
    {states : SolutionStates} (hs : some s ∈ env.solutions task) (hstates : s.states = .ok states) :
    states.targetPose.frameId = task.targetId ↔ known task.targetId = true := by
  obtain ⟨calls, stage, hr, hscenes, hspawned⟩ := hplanned task s states hs hstates
  have hmeets : ∀ P : KnownFrames → Prop, P known →
      ∀ call ∈ calls, GenerateBoxGraspPoses.SceneMeets P call := by
    intro P hP call hcall
    have hscene := hscenes call hcall
    cases call with
    | onNewSolution s => exact fun k hk => hscene k hk ▸ hP
    | compute _ => trivial
  cases hknown : known task.targetId with
  | true =>
    have hin := GenerateBoxGraspPoses.inFrameOf_of_keeps hr (hmeets _ (.inl hknown))
    exact iff_of_true (hin.2 _ hspawned) rfl
  | false =>
    have hout := GenerateBoxGraspPoses.outOfFrameOf_of_unknown hr (hmeets (fun k => k task.targetId = false) hknown)
    exact iff_of_false (hout.frameId_ne _ hspawned) Bool.false_ne_true

/-- The names of the target agree in a result exactly when the planning scene of the
task knows the id that the pipeline has resolved. -/
theorem target_names_agree_iff (hplanned : PlannedInScene graspPose env known)
    (hsuccess : (planGrasps fp env goal candidate candidateIndex).errorCode = .success) :
    (∀ g ∈ (planGrasps fp env goal candidate candidateIndex).rankedGrasps, ∃ task inputs,
        prepare fp env goal candidate candidateIndex = .ok (task, inputs) ∧ TargetNamesAgree task g) ↔
      known (resolveTargetObjectId env.planningSceneObjectIds candidate.targetId) = true := by
  constructor
  · intro hagree
    obtain ⟨g, hg⟩ := List.exists_mem_of_ne_nil _ (planGrasps_of_success _ _ _ _ _ hsuccess).2
    obtain ⟨task, inputs, n, s, states, pregrasp, hprepare, -, htarget, htask, -, hs, hstates, -, rfl⟩ :=
      mem_planGrasps _ _ _ _ _ hg
    obtain ⟨_, _, -, hnames⟩ := hagree _ hg
    rw [← htarget, ← htask, ← frameId_eq_iff hplanned hs hstates, htask]
    exact hnames.frame
  · intro hknown g hg
    obtain ⟨task, inputs, n, s, states, pregrasp, hprepare, -, htarget, htask, hlinks, hs, hstates, -, rfl⟩ :=
      mem_planGrasps _ _ _ _ _ hg
    rw [← htarget, ← htask, ← frameId_eq_iff hplanned hs hstates, htask] at hknown
    exact ⟨task, inputs, hprepare, hknown, rfl, htask, hlinks⟩

end Names

/-! ### A target given by the name of its object -/

namespace Sample

def boxPose : GraspTask → ℤ → ℤ → ℕ → Pose Double := fun _ _ _ _ => Pose.identity

/-- The planning scene has the box's entity. -/
def knowsWhole : KnownFrames := fun id => decide (id = "box/whole".toList)

/-- The poses that the generator spawns for one solution of the monitored stage. -/
def spawned (known : KnownFrames) (task : GraspTask) : List PoseStamped :=
  (exec (GenerateBoxGraspPoses.step boxPose task) (.init task)
    [.onNewSolution ⟨some known, true⟩, .compute 0]).elim [] (·.spawned)

/-- A query with the ids as its answer, and a task all of whose poses are reachable. -/
def generatorEnv (ids : List Name) (known : KnownFrames) : PlanningEnv :=
  { sceneEnv ids with
    solutions := fun task => (spawned known task).map fun pose =>
      some ⟨false, true, 0, .ok ⟨pose, [0], some ⟨[0], Pose.identity⟩, none⟩⟩ }

theorem generatorEnv_planned (ids : List Name) (known : KnownFrames) :
    PlannedInScene boxPose (generatorEnv ids known) known := by
  intro task s states hs hstates
  obtain ⟨pose, hpose, hsolution⟩ := List.mem_map.mp hs
  obtain rfl := Option.some.inj hsolution
  obtain rfl := Except.ok.inj hstates
  unfold spawned at hpose
  cases hr : exec (GenerateBoxGraspPoses.step boxPose task) (.init task)
      [.onNewSolution ⟨some known, true⟩, .compute 0] with
  | none =>
    rw [hr] at hpose
    cases hpose
  | some stage =>
    rw [hr] at hpose
    refine ⟨_, stage, hr, fun call hcall => ?_, hpose⟩
    rcases List.mem_pair.mp hcall with rfl | rfl
    · exact fun k hk => (Option.some.inj hk).symm
    · trivial

end Sample

/-- The query for the ids has timed out, so the target keeps the name of its object; the
generator finds the object's entity in the scene and plans in its frame. -/
theorem target_names_differ :
    let goal := createPlanGraspsGoal .exact (Sample.sizedParams (.id "box".toList))
    let env := Sample.generatorEnv [] Sample.knowsWhole
    let candidate := (Sample.sizedParams (.id "box".toList)).candidate (.id "box".toList)
    let result := planGrasps .exact env goal candidate 0
    PlannedInScene Sample.boxPose env Sample.knowsWhole ∧ result.errorCode = .success ∧
      ∃ g ∈ result.rankedGrasps, g.targetId = "box".toList ∧ g.grasp.allowedTouchObjects = ["box".toList] ∧
        g.grasp.graspPose.frameId = "box/whole".toList := by
  intro goal env candidate result
  refine ⟨Sample.generatorEnv_planned _ _, by decide +kernel, ?_⟩
  decide +kernel

theorem target_names_agree_iff_box :
    let goal := createPlanGraspsGoal .exact (Sample.sizedParams (.id "box".toList))
    let env := Sample.generatorEnv ["box/whole".toList] Sample.knowsWhole
    let candidate := (Sample.sizedParams (.id "box".toList)).candidate (.id "box".toList)
    (∀ g ∈ (planGrasps .exact env goal candidate 0).rankedGrasps, ∃ task inputs,
        prepare .exact env goal candidate 0 = .ok (task, inputs) ∧ TargetNamesAgree task g) ↔
      Sample.knowsWhole (resolveTargetObjectId env.planningSceneObjectIds candidate.targetId) = true :=
  target_names_agree_iff (Sample.generatorEnv_planned _ _) (by decide +kernel)

end MoveitPlanning.Grasping
