import Mathlib.Data.List.Perm.Basic
import Mathlib.Logic.Function.Iterate
import MoveitPlanning.Grasping.Generator

/-! The queue of the stage that generates the grasp poses. The task constructor hands over the
solutions of the monitored stage and has them computed in an order of its own. In every
order each solution is expanded once, into one block of poses, and the object is looked up
again with every arrival, so the frames of later blocks may have a longer name than the
one that a solution was accepted with. -/

namespace MoveitPlanning.Grasping

open Foundation Scene

/-- What a call does with a solution, and the object the stage then works with. -/
inductive StageEvent
  | accepted (s : UpstreamSolution) (object : Name)
  | rejected (object : Name)
  | expanded (s : UpstreamSolution) (object : Name)

namespace StageEvent

def object : StageEvent → Name
  | accepted _ object => object
  | rejected object => object
  | expanded _ object => object

def accepted? : StageEvent → Option UpstreamSolution
  | accepted s _ => some s
  | _ => none

def expanded? : StageEvent → Option UpstreamSolution
  | expanded s _ => some s
  | _ => none

def failure? : StageEvent → Option Name
  | rejected object => some ("object '".toList ++ object ++ "' not in scene".toList)
  | _ => none

/-- The block of poses that an expansion spawns. -/
def poses (graspPose : GraspTask → ℤ → ℤ → ℕ → Pose Double) (task : GraspTask) : StageEvent → List PoseStamped
  | expanded s object =>
    if s.scene.isNone || !s.hasRobotModel then [] else GenerateBoxGraspPoses.graspPoses graspPose task object
  | _ => []

end StageEvent

namespace GenerateBoxGraspPoses

/-- What a call does, by the stage before it. -/
def event (stage : GenerateBoxGraspPoses) : Call → Option StageEvent
  | .onNewSolution s => s.scene.map fun known =>
    if known stage.object then .accepted s stage.object
    else if known (wholeOf stage.object) then .accepted s (wholeOf stage.object)
    else .rejected stage.object
  | .compute cheapest => stage.upstreamSolutions[cheapest]?.map fun s => .expanded s stage.object

/-- The canonical entity of the canonical entity, and so on. -/
def Extends (object object' : Name) : Prop := ∃ n, object' = wholeOf^[n] object

theorem Extends.refl (object : Name) : Extends object object := ⟨0, rfl⟩

theorem Extends.whole (object : Name) : Extends object (wholeOf object) := ⟨1, rfl⟩

theorem Extends.trans {a b c : Name} (hab : Extends a b) (hbc : Extends b c) : Extends a c := by
  obtain ⟨n, rfl⟩ := hab
  obtain ⟨m, rfl⟩ := hbc
  exact ⟨m + n, (Function.iterate_add_apply wholeOf m n a).symm⟩

/-- The stage after the calls whose events these are. -/
structure QueueInv (graspPose : GraspTask → ℤ → ℤ → ℕ → Pose Double) (task : GraspTask) (events : List StageEvent)
    (stage : GenerateBoxGraspPoses) : Prop where
  queue : (events.filterMap StageEvent.expanded? ++ stage.upstreamSolutions).Perm
    (events.filterMap StageEvent.accepted?)
  spawned : stage.spawned = events.flatMap (StageEvent.poses graspPose task)
  failures : stage.failures = events.filterMap StageEvent.failure?
  target : Extends task.targetId stage.object
  current : ∀ e ∈ events, Extends task.targetId e.object ∧ Extends e.object stage.object
  ordered : events.Pairwise fun e e' => Extends e.object e'.object
  known : ∀ s object, .accepted s object ∈ events → ∃ known, s.scene = some known ∧ known object = true
  explained : ∀ before s object after, events = before ++ .expanded s object :: after →
    ∃ object', .accepted s object' ∈ before ∧ Extends object' object

section Steps
variable {graspPose : GraspTask → ℤ → ℤ → ℕ → Pose Double} {task : GraspTask} {events : List StageEvent}
  {stage : GenerateBoxGraspPoses}

theorem queueInv_init : QueueInv graspPose task [] (init task) where
  queue := .refl _
  spawned := rfl
  failures := rfl
  target := .refl _
  current _ he := absurd he List.not_mem_nil
  ordered := .nil
  known _ _ he := absurd he List.not_mem_nil
  explained before s object after heq := by simp at heq

/-- A call with an event, in terms of what it does to the queue and to what is spawned. -/
theorem QueueInv.concat (h : QueueInv graspPose task events stage) {e : StageEvent} {stage' : GenerateBoxGraspPoses}
    (hqueue : ((e.expanded?).toList ++ stage'.upstreamSolutions).Perm (stage.upstreamSolutions ++ (e.accepted?).toList))
    (hspawned : stage'.spawned = stage.spawned ++ e.poses graspPose task)
    (hfailures : stage'.failures = stage.failures ++ (e.failure?).toList)
    (hobject : stage'.object = e.object) (hextends : Extends stage.object e.object)
    (hknown : ∀ s object, e = .accepted s object → ∃ known, s.scene = some known ∧ known object = true)
    (hexpanded : ∀ s object, e = .expanded s object → s ∈ stage.upstreamSolutions) :
    QueueInv graspPose task (events ++ [e]) stage' where
  queue := by
    have hsplit : ∀ f : StageEvent → Option UpstreamSolution,
        (events ++ [e]).filterMap f = events.filterMap f ++ (f e).toList := by
      intro f
      rw [List.filterMap_append, List.filterMap_cons]
      cases f e <;> rfl
    rw [hsplit, hsplit, List.append_assoc]
    have hnew := hqueue.append_left (events.filterMap StageEvent.expanded?)
    rw [← List.append_assoc _ stage.upstreamSolutions] at hnew
    exact hnew.trans (h.queue.append_right _)
  spawned := by
    rw [hspawned, h.spawned, List.flatMap_append, List.flatMap_singleton]
  failures := by
    rw [hfailures, h.failures, List.filterMap_append, List.filterMap_cons]
    cases e.failure? <;> rfl
  target := by
    rw [hobject]
    exact h.target.trans hextends
  current e' he' := by
    rw [hobject]
    rcases List.mem_append.mp he' with hold | hnew
    · obtain ⟨htarget, hcurrent⟩ := h.current e' hold
      exact ⟨htarget, hcurrent.trans hextends⟩
    · rw [List.mem_singleton.mp hnew]
      exact ⟨h.target.trans hextends, .refl _⟩
  ordered := by
    rw [List.pairwise_append]
    refine ⟨h.ordered, List.pairwise_singleton _ _, ?_⟩
    intro e' he' e'' he''
    rw [List.mem_singleton.mp he'']
    exact (h.current e' he').2.trans hextends
  known s object he := by
    rcases List.mem_append.mp he with hold | hnew
    · exact h.known s object hold
    · exact hknown s object (List.mem_singleton.mp hnew).symm
  explained before s object after heq := by
    rcases List.eq_nil_or_concat after with rfl | ⟨after', e', rfl⟩
    · obtain ⟨rfl, he⟩ := List.append_inj' heq rfl
      obtain rfl := List.singleton_inj.mp he
      have hqueued : s ∈ events.filterMap StageEvent.accepted? :=
        h.queue.subset (List.mem_append_right _ (hexpanded s object rfl))
      obtain ⟨accepted, haccepted, hs⟩ := List.mem_filterMap.mp hqueued
      cases accepted with
      | accepted s' object' =>
        obtain rfl := Option.some.inj hs
        exact ⟨object', haccepted, (h.current _ haccepted).2.trans hextends⟩
      | _ => cases hs
    · rw [List.concat_eq_append, ← List.cons_append, ← List.append_assoc] at heq
      exact h.explained before s object after' (List.append_inj' heq rfl).1

theorem QueueInv.onNewSolution (h : QueueInv graspPose task events stage) (s : UpstreamSolution) :
    QueueInv graspPose task (events ++ (stage.event (.onNewSolution s)).toList) (stage.onNewSolution s) := by
  unfold GenerateBoxGraspPoses.onNewSolution event
  cases hscene : s.scene with
  | none => simpa [hscene] using h
  | some known =>
    simp only [hscene, Option.map_some, Option.toList_some]
    split_ifs with hobject hwhole
    · apply h.concat
      · exact .refl _
      · simp [StageEvent.poses]
      · simp [StageEvent.failure?]
      · rfl
      · exact .refl _
      · rintro s' object ⟨⟩
        exact ⟨known, hscene, hobject⟩
      · simp
    · apply h.concat
      · exact .refl _
      · simp [StageEvent.poses]
      · simp [StageEvent.failure?]
      · rfl
      · exact .whole _
      · rintro s' object ⟨⟩
        exact ⟨known, hscene, hwhole⟩
      · simp
    · apply h.concat
      · simp [StageEvent.expanded?, StageEvent.accepted?]
      · simp [StageEvent.poses]
      · rfl
      · rfl
      · exact .refl _
      · simp
      · simp

theorem QueueInv.compute (h : QueueInv graspPose task events stage) {cheapest : ℕ} {stage' : GenerateBoxGraspPoses}
    (hstep : step graspPose task stage (.compute cheapest) = some stage') :
    QueueInv graspPose task (events ++ (stage.event (.compute cheapest)).toList) stage' := by
  simp only [step] at hstep
  split_ifs at hstep with hempty
  · obtain rfl := Option.some.inj hstep
    simpa [event, hempty] using h
  · obtain ⟨s, hs, rfl⟩ := Option.map_eq_some_iff.mp hstep
    have hpop : (s :: stage.upstreamSolutions.eraseIdx cheapest).Perm stage.upstreamSolutions := by
      obtain ⟨hlt, rfl⟩ := List.getElem?_eq_some_iff.mp hs
      exact List.getElem_cons_eraseIdx_perm hlt
    rw [event, hs, Option.map_some, Option.toList_some]
    unfold computeFor
    apply h.concat
    · split_ifs <;> simpa [StageEvent.expanded?, StageEvent.accepted?] using hpop
    · rw [StageEvent.poses]
      split_ifs
      · exact (List.append_nil _).symm
      · rfl
    · split_ifs <;> simp [StageEvent.failure?]
    · split_ifs <;> rfl
    · exact .refl _
    · simp
    · rintro s' object ⟨⟩
      exact List.mem_of_getElem? hs

end Steps

theorem queueInv_of_run {graspPose : GraspTask → ℤ → ℤ → ℕ → Pose Double} {task : GraspTask} {calls : List Call}
    {stage : GenerateBoxGraspPoses} (hr : exec (step graspPose task) (init task) calls = some stage) :
    QueueInv graspPose task (outputs (step graspPose task) event (init task) calls) stage := by
  have hstep : ∀ events stage call stage', QueueInv graspPose task events stage →
      step graspPose task stage call = some stage' →
      QueueInv graspPose task (events ++ (stage.event call).toList) stage' := by
    intro events stage call stage' h hstep
    cases call with
    | onNewSolution s =>
      obtain rfl := Option.some.inj hstep
      exact h.onNewSolution s
    | compute cheapest => exact h.compute hstep
  have h := outputs_invariant (I := QueueInv graspPose task) hstep hr queueInv_init
  rwa [List.nil_append] at h

/-- After any calls, in any order and with any choices of the cheapest solution, the solutions
that were expanded and those still queued are the ones that were accepted, each as often;
the poses spawned are those of the expansions, block by block, with one failure for each
solution that was rejected; the object only ever changes to its canonical entity; and an
expansion is for an object that the scene of its solution knew when it was accepted, or for
such an entity of it. -/
theorem solutions_expanded_once {graspPose : GraspTask → ℤ → ℤ → ℕ → Pose Double} {task : GraspTask} {calls : List Call}
    {stage : GenerateBoxGraspPoses} (hr : exec (step graspPose task) (init task) calls = some stage) :
    ∃ events, events = outputs (step graspPose task) event (init task) calls ∧
      (events.filterMap StageEvent.expanded? ++ stage.upstreamSolutions).Perm
        (events.filterMap StageEvent.accepted?) ∧
      stage.spawned = events.flatMap (StageEvent.poses graspPose task) ∧
      stage.failures = events.filterMap StageEvent.failure? ∧
      (events.Pairwise fun e e' => Extends e.object e'.object) ∧
      (∀ e ∈ events, Extends task.targetId e.object) ∧
      ∀ before s object after, events = before ++ .expanded s object :: after →
        ∃ known object', s.scene = some known ∧ known object' = true ∧ .accepted s object' ∈ before ∧
          Extends object' object := by
  have h := queueInv_of_run hr
  refine ⟨_, rfl, h.queue, h.spawned, h.failures, h.ordered, fun e he => (h.current e he).1, ?_⟩
  intro before s object after heq
  obtain ⟨object', haccepted, hextends⟩ := h.explained before s object after heq
  have hmem := List.mem_append_left (.expanded s object :: after) haccepted
  rw [← heq] at hmem
  obtain ⟨known, hscene, hknown⟩ := h.known s object' hmem
  exact ⟨known, object', hscene, hknown, haccepted, hextends⟩

end GenerateBoxGraspPoses

namespace Sample

/-- A task with one rotation on one face. -/
def boxTask : GraspTask where
  groupName := "arm".toList
  eefGroup := "gripper".toList
  ikFrame := "tool".toList
  pregraspPose := "open".toList
  candidateTimeoutSec := 0
  minDistance := 0
  maxDistance := 0
  targetId := "box".toList
  allowedLinks := none
  surfaces := [4]
  numRotations := 1
  box := ⟨⟨0, 0, 0⟩, Pose.identity⟩
  computeIkTimeoutSec := 0
  maxNumGrasps := 1

def knowsBox : KnownFrames := fun id => decide (id = "box".toList)

/-- The second solution arrives before the first is computed, and its scene has the entity only. -/
def overtakingCalls : List GenerateBoxGraspPoses.Call :=
  [.onNewSolution ⟨some knowsBox, true⟩, .onNewSolution ⟨some knowsWhole, true⟩,
    .onNewSolution ⟨some fun _ => false, true⟩, .compute 1, .compute 0]

/-- Both expansions are for the entity, which the scene of the first solution does not have. -/
def overtakenStage : GenerateBoxGraspPoses where
  object := "box/whole".toList
  upstreamSolutions := []
  spawned := [⟨"box/whole".toList, Pose.identity⟩, ⟨"box/whole".toList, Pose.identity⟩]
  failures := ["object 'box/whole' not in scene".toList]

end Sample

namespace GenerateBoxGraspPoses

theorem solutions_expanded_once_overtaken : ∃ events,
    events = outputs (step Sample.boxPose Sample.boxTask) event (init Sample.boxTask) Sample.overtakingCalls ∧
      (events.filterMap StageEvent.expanded? ++ Sample.overtakenStage.upstreamSolutions).Perm
        (events.filterMap StageEvent.accepted?) ∧
      Sample.overtakenStage.spawned = events.flatMap (StageEvent.poses Sample.boxPose Sample.boxTask) ∧
      Sample.overtakenStage.failures = events.filterMap StageEvent.failure? ∧
      (events.Pairwise fun e e' => Extends e.object e'.object) ∧
      (∀ e ∈ events, Extends Sample.boxTask.targetId e.object) ∧
      ∀ before s object after, events = before ++ .expanded s object :: after →
        ∃ known object', s.scene = some known ∧ known object' = true ∧ .accepted s object' ∈ before ∧
          Extends object' object :=
  solutions_expanded_once rfl

end GenerateBoxGraspPoses

end MoveitPlanning.Grasping
