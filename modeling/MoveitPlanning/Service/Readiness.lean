import MoveitPlanning.Foundation.Run
import MoveitPlanning.Grasping.Action
import MoveitPlanning.Service.StatusMonitor

/-! The readiness of the planning node. A thread synchronizes and queries the planning scene
until it may set `scene_ready`, while the main executor answers requests by the flag; at
shutdown the flag is set once more to end the thread, but the executor has stopped by then.
A run is an interleaving of the steps of both, and its labels say what each step meets, so
the labels up to a request are what had happened before it. -/

namespace MoveitPlanning.Service

open Foundation Scene Grasping

structure NodeConfig where
  useMockHardware : Bool
  expectCollisionObjects : Bool
  /-- `world->connect()` was OK -/
  worldConnected : Bool
  deriving DecidableEq, Repr

/-- `main` makes a synchronizer when it has a World to connect to. -/
def NodeConfig.hasSynchronizer (cfg : NodeConfig) : Bool := !cfg.useMockHardware && cfg.worldConnected

/-! ### `handle_motion_plan_request` -/

/-- `MotionPlanResponse`, as far as it is written. -/
structure MotionPlanResponse where
  groupName : Name
  planningTime : Double
  errorCode : MoveItErrorCode
  deriving DecidableEq, Repr

/-- `handle_motion_plan_request`, on a new response. -/
def handleMotionPlanRequest (sceneReady : Bool) (groupName : Name) : MotionPlanResponse :=
  if !sceneReady then ⟨[], 0, .failure⟩ else ⟨groupName, .finite (1 / 20), .success⟩

/-! ### The synchronizing thread -/

/-- What a query of the planning scene comes to. -/
inductive QueryOutcome
  | timedOut
  | exception (text : Name)
  | response (scene : PlanningSceneResponse)

inductive SyncLabel
  | start
  | checkLoop
  | waitForService (available : Bool)
  | synchronize (status : Status)
  | checkExpected
  | queryScene (outcome : QueryOutcome)
  | sleep

/-- Where the thread of `orchestrate_scene_synchronization` is. -/
inductive SyncPc
  | start | checkLoop | waiting | synchronizing | checkExpected | querying | sleeping | ended
  deriving DecidableEq, Repr

/-- `collision_ok && robot_state_ok`. -/
def NodeConfig.verifies (cfg : NodeConfig) (scene : PlanningSceneResponse) : Bool :=
  (!cfg.expectCollisionObjects || !scene.collisionObjects.isEmpty) &&
    (cfg.useMockHardware || !scene.robotStateJointNames.isEmpty)

/-- A step of the thread, which leaves the flag as it is or sets it; `ok` is `rclcpp::ok()`. -/
def syncStep (cfg : NodeConfig) (ok sceneReady : Bool) : SyncPc → SyncLabel → Option (SyncPc × Bool)
  | .start, .start => if cfg.useMockHardware then some (.ended, true) else some (.checkLoop, sceneReady)
  | .checkLoop, .checkLoop => some (if ok && !sceneReady then .waiting else .ended, sceneReady)
  | .waiting, .waitForService available =>
    -- without the service the loop goes on at once, without its sleep
    some (if !available then .checkLoop else if cfg.hasSynchronizer then .synchronizing else .checkExpected,
      sceneReady)
  | .synchronizing, .synchronize _ => some (.checkExpected, sceneReady)
  | .checkExpected, .checkExpected =>
    if !cfg.expectCollisionObjects then some (.ended, true) else some (.querying, sceneReady)
  | .querying, .queryScene (.response scene) =>
    if cfg.verifies scene then some (.ended, true) else some (.sleeping, sceneReady)
  | .querying, .queryScene _ => some (.sleeping, sceneReady)
  | .sleeping, .sleep => some (.checkLoop, sceneReady)
  | _, _ => none

/-! ### The node -/

/-- Where `main` is: in `spin`, with a motion plan request whose fetch has been made, or
after `spin` before and after its store. -/
inductive MainPc
  | spinning
  | handling (groupName : Name)
  | stopping
  | stopped
  deriving DecidableEq, Repr

structure NodeState where
  ok : Bool
  sceneReady : Bool
  sync : SyncPc
  main : MainPc

def NodeState.init : NodeState := ⟨true, false, .start, .spinning⟩

inductive NodeLabel
  | sync (l : SyncLabel)
  | planGrasps (goal : Goal)
  /-- a motion plan request comes in; the status is that of its fetch, if there is a synchronizer -/
  | motionPlan (groupName : Name) (status : Status)
  | motionPlanHandle
  /-- the context is shut down, and with it `rclcpp::ok()` ends -/
  | contextShutdown
  | spinReturns
  | storeReady

def nodeStep (cfg : NodeConfig) (s : NodeState) : NodeLabel → Option NodeState
  | .sync l => (syncStep cfg s.ok s.sceneReady s.sync l).map fun r => { s with sync := r.1, sceneReady := r.2 }
  | .planGrasps _ => if s.main = .spinning then some s else none
  | .motionPlan groupName _ => if s.main = .spinning then some { s with main := .handling groupName } else none
  | .motionPlanHandle =>
    match s.main with
    | .handling _ => some { s with main := .spinning }
    | _ => none
  | .contextShutdown => some { s with ok := false }
  | .spinReturns => if s.main = .spinning then some { s with main := .stopping } else none
  | .storeReady => if s.main = .stopping then some { s with main := .stopped, sceneReady := true } else none

inductive Answer
  | goal (response : GoalResponse)
  | motionPlan (response : MotionPlanResponse)
  deriving DecidableEq, Repr

/-- What the step answers to a client. -/
def answer (s : NodeState) : NodeLabel → Option Answer
  | .planGrasps goal => some (.goal (handlePlanGraspsGoal s.sceneReady goal))
  | .motionPlanHandle =>
    match s.main with
    | .handling groupName => some (.motionPlan (handleMotionPlanRequest s.sceneReady groupName))
    | _ => none
  | _ => none

/-- A goal that is accepted, or a motion plan with `SUCCESS`. -/
def Answer.accepts : Answer → Bool
  | goal response => decide (response = .acceptAndExecute)
  | motionPlan response => decide (response.errorCode = .success)

/-- A request is answered, and the flag says that the scene is not ready. -/
def RefusedForReadiness (s : NodeState) (l : NodeLabel) : Prop := (answer s l).isSome ∧ s.sceneReady = false

/-! ### The grounds of readiness -/

/-- The service became available, and a synchronizer, if there is one, then made an attempt. -/
def ServedOnce (cfg : NodeConfig) (log : List NodeLabel) : Prop :=
  ∃ before after, log = before ++ .sync (.waitForService true) :: after ∧
    (cfg.hasSynchronizer = true → ∃ status, .sync (.synchronize status) ∈ after)

/-- What makes a node ready. -/
def Grounds (cfg : NodeConfig) (log : List NodeLabel) : Prop :=
  cfg.useMockHardware = true ∨ cfg.expectCollisionObjects = false ∧ ServedOnce cfg log ∨
    ∃ scene, .sync (.queryScene (.response scene)) ∈ log ∧ scene.collisionObjects ≠ [] ∧
      scene.robotStateJointNames ≠ []

theorem ServedOnce.concat {cfg : NodeConfig} {log : List NodeLabel} (h : ServedOnce cfg log) (l : NodeLabel) :
    ServedOnce cfg (log ++ [l]) := by
  obtain ⟨before, after, rfl, hsync⟩ := h
  refine ⟨before, after ++ [l], by simp, fun hs => ?_⟩
  obtain ⟨status, hmem⟩ := hsync hs
  exact ⟨status, List.mem_append_left _ hmem⟩

theorem Grounds.concat {cfg : NodeConfig} {log : List NodeLabel} (h : Grounds cfg log) (l : NodeLabel) :
    Grounds cfg (log ++ [l]) := by
  rcases h with hmock | ⟨hexpect, hserved⟩ | ⟨scene, hmem, hscene⟩
  · exact .inl hmock
  · exact .inr (.inl ⟨hexpect, hserved.concat l⟩)
  · exact .inr (.inr ⟨scene, List.mem_append_left _ hmem, hscene⟩)

/-! ### The four stores -/

section Run
variable {cfg : NodeConfig}

/-- The steps that set the flag. -/
inductive Stores (cfg : NodeConfig) (s : NodeState) : NodeLabel → Prop
  | mockHardware (hmock : cfg.useMockHardware = true) : Stores cfg s (.sync .start)
  | notExpected (hsync : s.sync = .checkExpected) (hexpect : cfg.expectCollisionObjects = false) :
    Stores cfg s (.sync .checkExpected)
  | verified (scene : PlanningSceneResponse) (hsync : s.sync = .querying) (hscene : cfg.verifies scene = true) :
    Stores cfg s (.sync (.queryScene (.response scene)))
  | shutdown (hmain : s.main = .stopping) : Stores cfg s .storeReady

theorem syncStep_sceneReady {s : NodeState} {l : SyncLabel} {pc : SyncPc} {sceneReady : Bool}
    (h : syncStep cfg s.ok s.sceneReady s.sync l = some (pc, sceneReady)) :
    sceneReady = s.sceneReady ∨ sceneReady = true ∧ Stores cfg s (.sync l) := by
  unfold syncStep at h
  split at h
  · split_ifs at h with hmock
    · cases h
      exact .inr ⟨rfl, .mockHardware hmock⟩
    · cases h
      exact .inl rfl
  · cases h
    exact .inl rfl
  · cases h
    exact .inl rfl
  · cases h
    exact .inl rfl
  · rename_i hsync
    split_ifs at h with hexpect
    · cases h
      exact .inr ⟨rfl, .notExpected hsync (by simpa using hexpect)⟩
    · cases h
      exact .inl rfl
  · rename_i scene hsync
    split_ifs at h with hscene
    · cases h
      exact .inr ⟨rfl, .verified scene hsync hscene⟩
    · cases h
      exact .inl rfl
  · cases h
    exact .inl rfl
  · cases h
    exact .inl rfl
  · cases h

/-- A step is one of the thread, or leaves the thread where it is and the flag as it is,
or is the store at shutdown. -/
theorem nodeStep_cases {s t : NodeState} {l : NodeLabel} (h : nodeStep cfg s l = some t) :
    (∃ l', l = .sync l' ∧ syncStep cfg s.ok s.sceneReady s.sync l' = some (t.sync, t.sceneReady) ∧
        t.main = s.main) ∨
      (t.sync = s.sync ∧ t.sceneReady = s.sceneReady ∧ (s.main = .stopped → t.main = .stopped)) ∨
      (l = .storeReady ∧ s.main = .stopping ∧ t = { s with main := .stopped, sceneReady := true }) := by
  cases l with
  | sync l =>
    obtain ⟨r, hsync, rfl⟩ := Option.map_eq_some_iff.mp h
    exact .inl ⟨l, rfl, hsync, rfl⟩
  | planGrasps goal =>
    obtain ⟨-, heq⟩ := Option.ite_none_right_eq_some.mp h
    obtain rfl := Option.some.inj heq
    exact .inr (.inl ⟨rfl, rfl, id⟩)
  | motionPlan groupName status =>
    obtain ⟨hmain, heq⟩ := Option.ite_none_right_eq_some.mp h
    obtain rfl := Option.some.inj heq
    exact .inr (.inl ⟨rfl, rfl, fun hstopped => absurd (hmain.symm.trans hstopped) MainPc.noConfusion⟩)
  | motionPlanHandle =>
    rw [nodeStep] at h
    split at h
    · rename_i hmain
      obtain rfl := Option.some.inj h
      exact .inr (.inl ⟨rfl, rfl, fun hstopped => absurd (hmain.symm.trans hstopped) MainPc.noConfusion⟩)
    · cases h
  | contextShutdown =>
    obtain rfl := Option.some.inj h
    exact .inr (.inl ⟨rfl, rfl, id⟩)
  | spinReturns =>
    obtain ⟨hmain, heq⟩ := Option.ite_none_right_eq_some.mp h
    obtain rfl := Option.some.inj heq
    exact .inr (.inl ⟨rfl, rfl, fun hstopped => absurd (hmain.symm.trans hstopped) MainPc.noConfusion⟩)
  | storeReady =>
    obtain ⟨hmain, heq⟩ := Option.ite_none_right_eq_some.mp h
    exact .inr (.inr ⟨rfl, hmain, (Option.some.inj heq).symm⟩)

theorem nodeStep_sceneReady {s t : NodeState} {l : NodeLabel} (h : nodeStep cfg s l = some t) :
    t.sceneReady = s.sceneReady ∨ t.sceneReady = true ∧ Stores cfg s l := by
  rcases nodeStep_cases h with ⟨l, rfl, hsync, -⟩ | ⟨-, heq, -⟩ | ⟨rfl, hmain, rfl⟩
  · exact syncStep_sceneReady hsync
  · exact .inl heq
  · exact .inr ⟨rfl, .shutdown hmain⟩

/-- Once set, the flag stays set. -/
theorem ready_of_run {s t : NodeState} {log : List NodeLabel} (h : exec (nodeStep cfg) s log = some t)
    (hready : s.sceneReady = true) : t.sceneReady = true := by
  have hstep : ∀ s l s', NodeState.sceneReady s = true → True → nodeStep cfg s l = some s' →
      s'.sceneReady = true := by
    intro s l s' hs _ hl
    rcases nodeStep_sceneReady hl with heq | ⟨htrue, -⟩
    · rw [heq, hs]
    · exact htrue
  exact exec_invariant hstep (Along.of_labels fun _ _ _ => trivial) h hready

/-! ### The invariant -/

/-- What has happened when the thread is there. -/
def SyncPc.Reached (cfg : NodeConfig) (log : List NodeLabel) : SyncPc → Prop
  | synchronizing => .sync (.waitForService true) ∈ log
  | checkExpected => ServedOnce cfg log
  | querying => cfg.expectCollisionObjects = true
  | _ => True

theorem SyncPc.Reached.concat {log : List NodeLabel} {pc : SyncPc} (h : pc.Reached cfg log) (l : NodeLabel) :
    pc.Reached cfg (log ++ [l]) := by
  cases pc with
  | synchronizing => exact List.mem_append_left _ h
  | checkExpected => exact ServedOnce.concat h l
  | querying => exact h
  | _ => trivial

theorem reached_syncStep {log : List NodeLabel} {ok sceneReady sceneReady' : Bool} {pc pc' : SyncPc} {l : SyncLabel}
    (h : syncStep cfg ok sceneReady pc l = some (pc', sceneReady')) (hpc : pc.Reached cfg log) :
    pc'.Reached cfg (log ++ [.sync l]) := by
  unfold syncStep at h
  split at h
  · split_ifs at h <;> cases h <;> trivial
  · cases h
    split_ifs <;> trivial
  · cases h
    rename_i available
    cases available with
    | false => trivial
    | true =>
      rw [Bool.not_true, if_neg Bool.false_ne_true]
      split_ifs with hsync
      · exact List.mem_append_right _ List.mem_cons_self
      · exact ⟨log, [], rfl, fun hs => absurd hs hsync⟩
  · cases h
    rename_i status
    obtain ⟨before, after, rfl⟩ := List.append_of_mem hpc
    exact ⟨before, after ++ [.sync (.synchronize status)], by simp, fun _ => ⟨status, by simp⟩⟩
  · split_ifs at h with hexpect
    · cases h
      trivial
    · cases h
      rw [Bool.not_eq_true, Bool.not_eq_false'] at hexpect
      exact hexpect
  · split_ifs at h <;> cases h <;> trivial
  · cases h
    trivial
  · cases h
    trivial
  · cases h

/-- Where a run has got to: the flag is set on the grounds, or by `main` after its spin. -/
structure Inv (cfg : NodeConfig) (log : List NodeLabel) (s : NodeState) : Prop where
  reached : s.sync.Reached cfg log
  grounded : s.sceneReady = true → s.main = .stopped ∨ Grounds cfg log

theorem grounds_of_stores {log : List NodeLabel} {s : NodeState} {l : NodeLabel} (hinv : Inv cfg log s)
    (h : Stores cfg s l) : l = .storeReady ∨ Grounds cfg (log ++ [l]) := by
  cases h with
  | mockHardware hmock => exact .inr (.inl hmock)
  | notExpected hsync hexpect =>
    have hserved : ServedOnce cfg log := by
      have := hinv.reached
      rwa [hsync] at this
    exact .inr (.inr (.inl ⟨hexpect, hserved.concat _⟩))
  | verified scene hsync hscene =>
    have hexpect : cfg.expectCollisionObjects = true := by
      have := hinv.reached
      rwa [hsync] at this
    simp only [NodeConfig.verifies, hexpect, Bool.not_true, Bool.false_or, Bool.and_eq_true, Bool.or_eq_true,
      Bool.not_eq_true', List.isEmpty_eq_false_iff] at hscene
    obtain ⟨hobjects, hmock | hjoints⟩ := hscene
    · exact .inr (.inl hmock)
    · exact .inr (.inr (.inr ⟨scene, List.mem_append_right _ List.mem_cons_self, hobjects, hjoints⟩))
  | shutdown hmain => exact .inl rfl

theorem inv_step {log : List NodeLabel} {s t : NodeState} {l : NodeLabel} (hinv : Inv cfg log s)
    (h : nodeStep cfg s l = some t) : Inv cfg (log ++ [l]) t := by
  constructor
  · rcases nodeStep_cases h with ⟨l, rfl, hsync, -⟩ | ⟨hsync, -⟩ | ⟨-, -, rfl⟩
    · exact reached_syncStep hsync hinv.reached
    · exact hsync ▸ hinv.reached.concat l
    · exact hinv.reached.concat l
  · intro hready
    have hstopped : s.main = .stopped → t.main = .stopped := by
      rcases nodeStep_cases h with ⟨-, -, -, hmain⟩ | ⟨-, -, hmain⟩ | ⟨-, hmain, rfl⟩
      · exact hmain.trans
      · exact hmain
      · exact fun _ => rfl
    rcases nodeStep_sceneReady h with heq | ⟨-, hstores⟩
    · rw [heq] at hready
      exact (hinv.grounded hready).imp hstopped fun hgrounds => hgrounds.concat l
    · rcases grounds_of_stores hinv hstores with rfl | hgrounds
      · obtain ⟨-, heq⟩ := Option.ite_none_right_eq_some.mp h
        obtain rfl := Option.some.inj heq
        exact .inl rfl
      · exact .inr hgrounds

theorem inv_of_run {log : List NodeLabel} {s : NodeState} (h : exec (nodeStep cfg) .init log = some s) :
    Inv cfg log s := by
  induction log using List.reverseRecOn generalizing s with
  | nil =>
    obtain rfl := Option.some.inj h
    exact ⟨trivial, fun hready => nomatch hready⟩
  | append_singleton log l ih =>
    obtain ⟨s', hs', hl⟩ := (exec_append_eq_some (nodeStep cfg)).mp h
    obtain ⟨t, ht, hnil⟩ := (exec_cons_eq_some (nodeStep cfg)).mp hl
    obtain rfl := Option.some.inj hnil
    exact inv_step (ih hs') ht

/-! ### Requests -/

/-- Only a node that says it is ready accepts, and not after its spin. -/
theorem ready_of_accepts {s t : NodeState} {l : NodeLabel} (h : nodeStep cfg s l = some t) {a : Answer}
    (ha : answer s l = some a) (haccepts : a.accepts = true) : s.sceneReady = true ∧ s.main ≠ .stopped := by
  cases l with
  | planGrasps goal =>
    obtain ⟨hmain, -⟩ := Option.ite_none_right_eq_some.mp h
    obtain rfl := Option.some.inj ha
    refine ⟨?_, fun hstopped => absurd (hmain.symm.trans hstopped) MainPc.noConfusion⟩
    by_contra hready
    have hreject : handlePlanGraspsGoal s.sceneReady goal = .reject := by
      rw [handlePlanGraspsGoal, if_pos (by simpa using hready)]
    rw [Answer.accepts, hreject] at haccepts
    cases haccepts
  | motionPlanHandle =>
    rw [answer] at ha
    split at ha
    · rename_i hmain
      obtain rfl := Option.some.inj ha
      refine ⟨?_, fun hstopped => absurd (hmain.symm.trans hstopped) MainPc.noConfusion⟩
      by_contra hready
      rw [Answer.accepts, handleMotionPlanRequest, if_pos (by simpa using hready)] at haccepts
      cases haccepts
    · cases ha
  | _ => cases ha

/-- In every run of the node, a request is accepted only on the grounds that came before it,
and no request after it is refused for readiness. -/
theorem accepted_on_grounds {log : List NodeLabel} {s t : NodeState} {l : NodeLabel} {a : Answer}
    (hrun : exec (nodeStep cfg) .init log = some s) (hstep : nodeStep cfg s l = some t)
    (ha : answer s l = some a) (haccepts : a.accepts = true) :
    Grounds cfg log ∧ ∀ rest u, exec (nodeStep cfg) t rest = some u → ∀ l', ¬RefusedForReadiness u l' := by
  obtain ⟨hready, hmain⟩ := ready_of_accepts hstep ha haccepts
  refine ⟨((inv_of_run hrun).grounded hready).resolve_left hmain, fun rest u hu l' hrefused => ?_⟩
  have hrest : exec (nodeStep cfg) s (l :: rest) = some u := (exec_cons_eq_some _).mpr ⟨t, hstep, hu⟩
  exact Bool.false_ne_true (hrefused.2.symm.trans (ready_of_run hrest hready))

end Run

/-! ### A node that becomes ready -/

namespace Sample

def nodeConfig : NodeConfig := ⟨false, true, true⟩

/-- The first query finds no robot state and the second a scene with a box and a joint. -/
def nodeLog : List NodeLabel :=
  [.sync .start, .sync .checkLoop, .sync (.waitForService true), .sync (.synchronize (.ok ())),
    .sync .checkExpected, .sync (.queryScene (.response ⟨["box".toList], []⟩)), .sync .sleep, .sync .checkLoop,
    .sync (.waitForService true), .motionPlan "arm".toList (.ok ()), .sync (.synchronize (.ok ())),
    .sync .checkExpected, .sync (.queryScene (.response ⟨["box".toList], ["joint".toList]⟩))]

/-- The node after them, with a request whose fetch came before the second query. -/
def nodeState : NodeState := ⟨true, true, .ended, .handling "arm".toList⟩

end Sample

theorem accepted_on_grounds_second_query : Grounds Sample.nodeConfig Sample.nodeLog ∧ ∀ rest u,
    exec (nodeStep Sample.nodeConfig) { Sample.nodeState with main := .spinning } rest = some u →
      ∀ l', ¬RefusedForReadiness u l' := by
  have hrun : exec (nodeStep Sample.nodeConfig) .init Sample.nodeLog = some Sample.nodeState := rfl
  have hstep : nodeStep Sample.nodeConfig Sample.nodeState .motionPlanHandle =
      some { Sample.nodeState with main := .spinning } := rfl
  have ha : answer Sample.nodeState .motionPlanHandle =
      some (.motionPlan ⟨"arm".toList, .finite (1 / 20), .success⟩) := rfl
  exact accepted_on_grounds hrun hstep ha rfl

end MoveitPlanning.Service
