import MoveitPlanning.Scene.Threads
import MoveitPlanning.Grasping.Action
import MoveitPlanning.Foundation.Channel

/-! Goals and `move_group`. A goal is synchronized by a call of its own thread and then
planned candidate by candidate; each candidate is resolved, measured and planned against
what `/get_planning_scene` answers. The ADDs of the synchronization travel on
`/collision_object`, which is another channel, and nothing between the two waits: the
answers are computed from whatever has arrived by then. All ADDs of the synchronization
have been applied in every scene a goal is planned against exactly when the first answer
to the goal does not overtake one of them. -/

namespace MoveitPlanning.Grasping

open Foundation Scene

variable {R : Type*}

/-! ### The thread of a goal -/

/-- Where the thread of an accepted goal is. -/
inductive GoalPhase
  /-- in `fetchAndSynchronizeCollisionObjects(nullopt)` -/
  | synchronizing
  /-- at the top of the loop over the candidates -/
  | nextCandidate (i : ℕ)
  /-- in `GetPlanningSceneObjectIds` -/
  | resolving (i : ℕ) (candidate : GraspCandidate)
  /-- in `GetPlanningSceneCollisionObject` -/
  | measuring (i : ℕ) (targetId : Name)
  /-- in the task, whose `CurrentState` stage asks for the scene -/
  | planning (i : ℕ) (targetId : Name)
  | ended

structure GoalThread where
  goal : Goal
  /-- the number of its synchronization among the calls -/
  call : ℕ
  /-- the numbers of the ADDs its synchronization has published -/
  adds : List ℕ
  phase : GoalPhase
  /-- for each answer it has got, the messages that `move_group` had applied -/
  reads : List (List ℕ)

/-- What the thread does with the ids of a scene; a timeout leaves it none. -/
def GoalPhase.receive (ids : List Name) : GoalPhase → Option GoalPhase
  | .resolving i candidate =>
    let targetId := resolveTargetObjectId ids candidate.targetId
    some (if candidate.hasExplicitDimensions then .planning i targetId else .measuring i targetId)
  | .measuring i targetId => some (if ids.contains targetId then .planning i targetId else .ended)
  | .planning i targetId => some (.planning i targetId)
  | _ => none

/-- What a call publishes is recorded for its goal. -/
def GoalThread.record (l : Label R) (number : ℕ) (thread : GoalThread) : GoalThread :=
  match l with
  | .publish i => if thread.call = i then { thread with adds := thread.adds ++ [number] } else thread
  | _ => thread

/-! ### The system -/

/-- The synchronizer, the topic `/collision_object` as far as `move_group`, and the
threads of the goals accepted so far. -/
structure PlanningSystem (R : Type*) where
  sync : Sys R
  topic : Channel (CollisionObject R)
  goals : List GoalThread

namespace PlanningSystem

def init : PlanningSystem R := ⟨Sys.init, .empty, []⟩

def setGoal (s : PlanningSystem R) (g : ℕ) (thread : GoalThread) : PlanningSystem R :=
  { s with goals := s.goals.set g thread }

/-- One step of goal `g`. -/
def goalStep (s : PlanningSystem R) (g : ℕ) (f : GoalThread → Option GoalThread) :
    Option (PlanningSystem R) :=
  s.goals[g]?.bind fun thread => (f thread).map (s.setGoal g)

end PlanningSystem

inductive Event (R : Type*)
  | sync (l : Label R)
  /-- `move_group` applies message `k` -/
  | deliver (k : ℕ)
  | acceptGoal (sceneReady : Bool) (goal : Goal)
  | startPlanning (g : ℕ)
  | planCandidate (g : ℕ) (isCanceling : Bool)
  /-- `move_group` answers the request of goal `g` -/
  | answer (g : ℕ)
  | timeout (g : ℕ)
  /-- `PlanGraspsForCandidate` returns -/
  | planned (g : ℕ) (success : Bool)

section Step
variable [Field R] [LinearOrder R] (lib : Library R) (cfg : Config R)
  -- the ids of the scene that results from messages applied in order
  (objectIds : List (CollisionObject R) → List Name)

def systemStep (s : PlanningSystem R) : Event R → Option (PlanningSystem R)
  | .sync l => (step lib cfg s.sync l).map fun sync =>
    { sync
      topic := s.topic.send (sync.published.drop s.sync.published.length)
      goals := s.goals.map (GoalThread.record l s.topic.sent.length) }
  | .deliver k => (s.topic.deliver k).map fun topic => { s with topic }
  | .acceptGoal sceneReady goal =>
    if handlePlanGraspsGoal sceneReady goal = .acceptAndExecute then
      (step lib cfg s.sync (.planning none)).map fun sync =>
        { s with sync, goals := s.goals ++ [⟨goal, s.sync.calls.length, [], .synchronizing, []⟩] }
    else none
  | .startPlanning g => s.goalStep g fun thread =>
    match thread.phase with
    | .synchronizing =>
      if s.sync.calls[thread.call]?.any Call.finished then some { thread with phase := .nextCandidate 0 }
      else none
    | _ => none
  | .planCandidate g isCanceling => s.goalStep g fun thread =>
    match thread.phase with
    | .nextCandidate i =>
      match thread.goal.candidates[i]? with
      | none => some { thread with phase := .ended }
      | some candidate => some { thread with phase := if isCanceling then .ended else .resolving i candidate }
    | _ => none
  | .answer g => s.goalStep g fun thread =>
    (thread.phase.receive (objectIds s.topic.received)).map fun phase =>
      { thread with phase, reads := thread.reads ++ [s.topic.delivered] }
  | .timeout g => s.goalStep g fun thread =>
    (thread.phase.receive []).map fun phase => { thread with phase }
  | .planned g success => s.goalStep g fun thread =>
    match thread.phase with
    | .measuring _ _ => some { thread with phase := .ended }
    | .planning i _ => some { thread with phase := if success then .nextCandidate (i + 1) else .ended }
    | _ => none

/-! ### What an event can do -/

/-- A goal's thread goes on without reading a scene; it leaves its synchronization only
when that has ended. -/
structure Proceeds (s : PlanningSystem R) (thread : GoalThread) (phase : GoalPhase) : Prop where
  started : phase ≠ .synchronizing
  ended : thread.phase = .synchronizing → s.sync.Ended thread.call

inductive SystemStep (s : PlanningSystem R) : Event R → PlanningSystem R → Prop
  | sync (l sync) (h : step lib cfg s.sync l = some sync) : SystemStep s (.sync l) {
      sync
      topic := s.topic.send (sync.published.drop s.sync.published.length)
      goals := s.goals.map (GoalThread.record l s.topic.sent.length) }
  | deliver (k topic) (h : s.topic.deliver k = some topic) : SystemStep s (.deliver k) { s with topic }
  | acceptGoal (sceneReady goal sync) (h : step lib cfg s.sync (.planning none) = some sync) :
      SystemStep s (.acceptGoal sceneReady goal) { s with
        sync
        goals := s.goals ++ [⟨goal, s.sync.calls.length, [], .synchronizing, []⟩] }
  | answer (g thread phase) (hthread : s.goals[g]? = some thread) (hphase : Proceeds s thread phase)
      (hreading : thread.phase ≠ .synchronizing) : SystemStep s (.answer g)
      (s.setGoal g { thread with phase, reads := thread.reads ++ [s.topic.delivered] })
  | proceed (e g thread phase) (hanswer : ∀ g, e ≠ .answer g) (hthread : s.goals[g]? = some thread)
      (hphase : Proceeds s thread phase) : SystemStep s e (s.setGoal g { thread with phase })

variable {lib cfg objectIds}

omit [Field R] [LinearOrder R] in
theorem goalStep_eq_some {s s' : PlanningSystem R} {g : ℕ} {f : GoalThread → Option GoalThread} :
    s.goalStep g f = some s' ↔
      ∃ thread thread', s.goals[g]? = some thread ∧ f thread = some thread' ∧ s.setGoal g thread' = s' := by
  simp only [PlanningSystem.goalStep, Option.bind_eq_some_iff, Option.map_eq_some_iff]
  constructor
  · rintro ⟨thread, hthread, thread', hf, hs⟩
    exact ⟨thread, thread', hthread, hf, hs⟩
  · rintro ⟨thread, thread', hthread, hf, hs⟩
    exact ⟨thread, hthread, thread', hf, hs⟩

omit [Field R] [LinearOrder R] in
theorem receive_proceeds {s : PlanningSystem R} {thread : GoalThread} {ids : List Name} {phase : GoalPhase}
    (h : thread.phase.receive ids = some phase) :
    Proceeds s thread phase ∧ thread.phase ≠ .synchronizing := by
  have hreading : thread.phase ≠ .synchronizing := by
    intro he
    rw [he] at h
    cases h
  refine ⟨⟨?_, fun he => absurd he hreading⟩, hreading⟩
  cases hp : thread.phase with
  | resolving i candidate =>
    rw [hp] at h
    obtain rfl := Option.some.inj h
    split_ifs <;> exact GoalPhase.noConfusion
  | measuring i targetId =>
    rw [hp] at h
    obtain rfl := Option.some.inj h
    split_ifs <;> exact GoalPhase.noConfusion
  | planning i targetId =>
    rw [hp] at h
    obtain rfl := Option.some.inj h
    exact GoalPhase.noConfusion
  | synchronizing => exact absurd hp hreading
  | nextCandidate i => rw [hp] at h; cases h
  | ended => rw [hp] at h; cases h

theorem systemStep_cases {s s' : PlanningSystem R} {e : Event R}
    (h : systemStep lib cfg objectIds s e = some s') : SystemStep lib cfg s e s' := by
  cases e with
  | sync l =>
    obtain ⟨sync, hsync, rfl⟩ := Option.map_eq_some_iff.mp h
    exact .sync l sync hsync
  | deliver k =>
    obtain ⟨topic, htopic, rfl⟩ := Option.map_eq_some_iff.mp h
    exact .deliver k topic htopic
  | acceptGoal sceneReady goal =>
    simp only [systemStep] at h
    split_ifs at h
    obtain ⟨sync, hsync, rfl⟩ := Option.map_eq_some_iff.mp h
    exact .acceptGoal sceneReady goal sync hsync
  | startPlanning g =>
    obtain ⟨thread, thread', hthread, hf, rfl⟩ := goalStep_eq_some.mp h
    split at hf
    · split_ifs at hf with hfinished
      obtain rfl := Option.some.inj hf
      exact .proceed _ g thread _ (by simp) hthread
        ⟨GoalPhase.noConfusion, fun _ => (Option.any_eq_true _ _).mp hfinished⟩
    · cases hf
  | planCandidate g isCanceling =>
    obtain ⟨thread, thread', hthread, hf, rfl⟩ := goalStep_eq_some.mp h
    split at hf
    · rename_i i hp
      have hphase : ∀ phase, phase ≠ .synchronizing → Proceeds s thread phase := fun phase hne =>
        ⟨hne, fun he => by rw [hp] at he; cases he⟩
      split at hf
      · obtain rfl := Option.some.inj hf
        exact .proceed _ g thread _ (by simp) hthread (hphase _ GoalPhase.noConfusion)
      · obtain rfl := Option.some.inj hf
        exact .proceed _ g thread _ (by simp) hthread
          (hphase _ (by split_ifs <;> exact GoalPhase.noConfusion))
    · cases hf
  | answer g =>
    obtain ⟨thread, thread', hthread, hf, rfl⟩ := goalStep_eq_some.mp h
    obtain ⟨phase, hphase, rfl⟩ := Option.map_eq_some_iff.mp hf
    obtain ⟨hproceeds, hreading⟩ := receive_proceeds hphase
    exact .answer g thread phase hthread hproceeds hreading
  | timeout g =>
    obtain ⟨thread, thread', hthread, hf, rfl⟩ := goalStep_eq_some.mp h
    obtain ⟨phase, hphase, rfl⟩ := Option.map_eq_some_iff.mp hf
    exact .proceed _ g thread phase (by simp) hthread (receive_proceeds hphase).1
  | planned g success =>
    obtain ⟨thread, thread', hthread, hf, rfl⟩ := goalStep_eq_some.mp h
    split at hf
    · rename_i i targetId hp
      obtain rfl := Option.some.inj hf
      exact .proceed _ g thread _ (by simp) hthread
        ⟨GoalPhase.noConfusion, fun he => by rw [hp] at he; cases he⟩
    · rename_i i targetId hp
      obtain rfl := Option.some.inj hf
      exact .proceed _ g thread _ (by simp) hthread
        ⟨by split_ifs <;> exact GoalPhase.noConfusion, fun he => by rw [hp] at he; cases he⟩
    · cases hf

/-- What has been sent to `move_group` is what the synchronizer has published. -/
theorem topic_sent {s : PlanningSystem R} (h : Reachable (systemStep lib cfg objectIds) .init s) :
    s.topic.sent = s.sync.published := by
  refine h.invariant (I := fun s : PlanningSystem R => s.topic.sent = s.sync.published) rfl
    fun s e s' hi hs => ?_
  cases systemStep_cases hs with
  | sync l sync hsync =>
    obtain ⟨new, hnew⟩ := published_step hsync
    rw [Channel.send_sent, hi, ← hnew, List.drop_left]
  | deliver k topic htopic => exact (Channel.deliver_eq_some htopic).1.trans hi
  | acceptGoal sceneReady goal sync hsync =>
    cases step_eq_some.mp hsync with
    | planning => exact hi
  | answer => exact hi
  | proceed => exact hi

omit [Field R] [LinearOrder R] in
theorem record_cases (l : Label R) (number : ℕ) (thread : GoalThread) :
    thread.record l number = thread ∨ (l = .publish thread.call ∧
      thread.record l number = { thread with adds := thread.adds ++ [number] }) := by
  cases l with
  | publish i =>
    by_cases hi : thread.call = i
    · exact .inr ⟨by rw [hi], by simp [GoalThread.record, hi]⟩
    · exact .inl (by simp [GoalThread.record, hi])
  | _ => exact .inl rfl

/-- The messages recorded for the thread are ADDs. -/
def GoalThread.RecordsAdds (sent : List (CollisionObject R)) (thread : GoalThread) : Prop :=
  ∀ k ∈ thread.adds, ∃ msg, sent[k]? = some msg ∧ msg.operation = .add

omit [Field R] [LinearOrder R] in
theorem recordsAdds_append {sent : List (CollisionObject R)} {thread : GoalThread}
    (h : thread.RecordsAdds sent) (new : List (CollisionObject R)) : thread.RecordsAdds (sent ++ new) := by
  intro k hk
  obtain ⟨msg, hmsg, hadd⟩ := h k hk
  obtain ⟨hlt, -⟩ := List.getElem?_eq_some_iff.mp hmsg
  exact ⟨msg, by rw [List.getElem?_append_left hlt, hmsg], hadd⟩

omit [Field R] [LinearOrder R] in
theorem recordsAdds_setGoal {s : PlanningSystem R} {g : ℕ} {thread next : GoalThread}
    (h : ∀ thread ∈ s.goals, thread.RecordsAdds s.topic.sent) (hthread : s.goals[g]? = some thread)
    (hadds : next.adds = thread.adds) : ∀ thread ∈ s.goals.set g next, thread.RecordsAdds s.topic.sent := by
  intro other hother
  rcases List.mem_or_eq_of_mem_set hother with hother | rfl
  · exact h other hother
  · rw [GoalThread.RecordsAdds, hadds]
    exact h thread (List.mem_of_getElem? hthread)

theorem recordsAdds_step {s s' : PlanningSystem R} {e : Event R} (hcalls : ∀ call ∈ s.sync.calls, call.PublishesAdds)
    (hadds : ∀ thread ∈ s.goals, thread.RecordsAdds s.topic.sent)
    (h : systemStep lib cfg objectIds s e = some s') :
    ∀ thread ∈ s'.goals, thread.RecordsAdds s'.topic.sent := by
  cases systemStep_cases h with
  | sync l sync hsync =>
    intro thread' hthread'
    obtain ⟨thread, hthread, rfl⟩ := List.mem_map.mp hthread'
    have hold := recordsAdds_append (hadds thread hthread) (sync.published.drop s.sync.published.length)
    rcases record_cases l s.topic.sent.length thread with hr | ⟨rfl, hr⟩
    · rw [hr]
      exact hold
    · rw [hr]
      intro k hk
      rcases List.mem_append.mp hk with hk | hk
      · exact hold k hk
      · rw [List.mem_singleton.mp hk]
        cases step_eq_some.mp hsync with
        | publish _ call msg msgs hcall hphase =>
          refine ⟨msg, by simp [Sys.setPhase], ?_⟩
          exact hcalls call (List.mem_of_getElem? hcall) _ hphase msg (by simp)
  | deliver k topic htopic =>
    rw [(Channel.deliver_eq_some htopic).1]
    exact hadds
  | acceptGoal sceneReady goal sync hsync =>
    intro thread hthread
    rcases List.mem_append.mp hthread with hthread | hthread
    · exact hadds thread hthread
    · obtain rfl := List.mem_singleton.mp hthread
      simp [GoalThread.RecordsAdds]
  | answer g thread phase hthread hphase hreading => exact recordsAdds_setGoal hadds hthread rfl
  | proceed _ g thread phase hanswer hthread hphase => exact recordsAdds_setGoal hadds hthread rfl

theorem publishesAdds_systemStep {s s' : PlanningSystem R} {e : Event R}
    (hcalls : ∀ call ∈ s.sync.calls, call.PublishesAdds) (h : systemStep lib cfg objectIds s e = some s') :
    ∀ call ∈ s'.sync.calls, call.PublishesAdds := by
  cases systemStep_cases h with
  | sync l sync hsync => exact publishesAdds_step hcalls hsync
  | acceptGoal sceneReady goal sync hsync => exact publishesAdds_step hcalls hsync
  | _ => exact hcalls

theorem adds_are_adds {s : PlanningSystem R} (h : Reachable (systemStep lib cfg objectIds) .init s) :
    ∀ thread ∈ s.goals, thread.RecordsAdds s.topic.sent := by
  have hinv : (∀ call ∈ s.sync.calls, call.PublishesAdds) ∧
      ∀ thread ∈ s.goals, thread.RecordsAdds s.topic.sent := by
    refine h.invariant (I := fun s : PlanningSystem R => (∀ call ∈ s.sync.calls, call.PublishesAdds) ∧
      ∀ thread ∈ s.goals, thread.RecordsAdds s.topic.sent) ?_ fun s e s' hi hs => ?_
    · simp [PlanningSystem.init, Sys.init]
    · exact ⟨publishesAdds_systemStep hi.1 hs, recordsAdds_step hi.1 hi.2 hs⟩
  exact hinv.2

/-! ### Invariants -/

/-- What is always so of a thread: past its synchronization it publishes nothing more,
what it has published has been sent, and what it was answered from has arrived. -/
structure GoalThread.Consistent (s : PlanningSystem R) (thread : GoalThread) : Prop where
  ended : thread.phase ≠ .synchronizing → s.sync.Ended thread.call
  unread : thread.phase = .synchronizing → thread.reads = []
  adds_sent : ∀ k ∈ thread.adds, k < s.topic.sent.length
  reads_delivered : ∀ read ∈ thread.reads, ∀ k ∈ read, k ∈ s.topic.delivered

def Consistent (s : PlanningSystem R) : Prop := ∀ thread ∈ s.goals, thread.Consistent s

/-- In every scene that a goal has been answered from, all ADDs of its synchronization
had been applied. -/
def AppliedBeforePlanning (s : PlanningSystem R) : Prop :=
  ∀ thread ∈ s.goals, ∀ read ∈ thread.reads, ∀ k ∈ thread.adds, k ∈ read

/-- The first answer to a goal overtakes no ADD of its synchronization. -/
def FirstAnswerAfterAdds (s : PlanningSystem R) : Event R → Prop
  | .answer g => ∀ thread, s.goals[g]? = some thread → thread.reads = [] →
      ∀ k ∈ thread.adds, k ∉ s.topic.inFlight
  | _ => True

theorem publish_drop {s s' : Sys R} {i : ℕ} (h : step lib cfg s (.publish i) = some s') :
    (s'.published.drop s.published.length).length = 1 := by
  cases step_eq_some.mp h with
  | publish call msg msgs hcall hphase => simp [Sys.setPhase]

omit [Field R] [LinearOrder R] in
theorem GoalThread.Consistent.mono {s s' : PlanningSystem R} {thread : GoalThread} (h : thread.Consistent s)
    (hended : s.sync.Ended thread.call → s'.sync.Ended thread.call)
    (hsent : s.topic.sent.length ≤ s'.topic.sent.length)
    (hdelivered : s.topic.delivered ⊆ s'.topic.delivered) : thread.Consistent s' where
  ended hphase := hended (h.ended hphase)
  unread := h.unread
  adds_sent k hk := (h.adds_sent k hk).trans_le hsent
  reads_delivered read hread k hk := hdelivered (h.reads_delivered read hread k hk)

theorem consistent_step {s s' : PlanningSystem R} {e : Event R} (hc : Consistent s)
    (h : systemStep lib cfg objectIds s e = some s') : Consistent s' := by
  cases systemStep_cases h with
  | sync l sync hsync =>
    intro thread' hthread'
    obtain ⟨thread, hthread, rfl⟩ := List.mem_map.mp hthread'
    have hmono : thread.Consistent { s with
        sync
        topic := s.topic.send (sync.published.drop s.sync.published.length) } :=
      (hc thread hthread).mono (fun hended => (ended_step hended hsync).1) (by simp) (by simp)
    rcases record_cases l s.topic.sent.length thread with hr | ⟨rfl, hr⟩
    · rw [hr]
      exact ⟨hmono.ended, hmono.unread, hmono.adds_sent, hmono.reads_delivered⟩
    · rw [hr]
      refine ⟨hmono.ended, hmono.unread, fun k hk => ?_, hmono.reads_delivered⟩
      rcases List.mem_append.mp hk with hk | hk
      · exact hmono.adds_sent k hk
      · rw [List.mem_singleton.mp hk, Channel.send_sent, List.length_append, publish_drop hsync]
        omega
  | deliver k topic htopic =>
    obtain ⟨hsent, hdelivered⟩ := Channel.deliver_eq_some htopic
    intro thread hthread
    exact (hc thread hthread).mono id (by rw [hsent])
      (by rw [hdelivered]; exact List.subset_append_left _ _)
  | acceptGoal sceneReady goal sync hsync =>
    intro thread hthread
    rcases List.mem_append.mp hthread with hthread | hthread
    · exact (hc thread hthread).mono (fun hended => (ended_step hended hsync).1) le_rfl (List.Subset.refl _)
    · obtain rfl := List.mem_singleton.mp hthread
      exact ⟨fun hne => absurd rfl hne, fun _ => rfl, by simp, by simp⟩
  | answer g thread phase hthread hphase hreading =>
    have hold := hc thread (List.mem_of_getElem? hthread)
    intro thread' hthread'
    rcases List.mem_or_eq_of_mem_set hthread' with hmem | rfl
    · have hother := hc thread' hmem
      exact ⟨hother.ended, hother.unread, hother.adds_sent, hother.reads_delivered⟩
    · refine ⟨fun _ => hold.ended hreading, fun he => absurd he hphase.started, hold.adds_sent, ?_⟩
      intro read hread
      rcases List.mem_append.mp hread with hread | hread
      · exact hold.reads_delivered read hread
      · rw [List.mem_singleton.mp hread]
        exact fun _ => id
  | proceed _ g thread phase hanswer hthread hphase =>
    have hold := hc thread (List.mem_of_getElem? hthread)
    intro thread' hthread'
    rcases List.mem_or_eq_of_mem_set hthread' with hmem | rfl
    · have hother := hc thread' hmem
      exact ⟨hother.ended, hother.unread, hother.adds_sent, hother.reads_delivered⟩
    · refine ⟨fun _ => ?_, fun he => absurd he hphase.started, hold.adds_sent, hold.reads_delivered⟩
      by_cases hs : thread.phase = .synchronizing
      · exact hphase.ended hs
      · exact hold.ended hs

/-- Once a goal has been answered after its ADDs, every later answer comes after them. -/
theorem applied_step {s s' : PlanningSystem R} {e : Event R} (hc : Consistent s) (ha : AppliedBeforePlanning s)
    (hfirst : FirstAnswerAfterAdds s e) (h : systemStep lib cfg objectIds s e = some s') :
    AppliedBeforePlanning s' := by
  cases systemStep_cases h with
  | sync l sync hsync =>
    intro thread' hthread'
    obtain ⟨thread, hthread, rfl⟩ := List.mem_map.mp hthread'
    rcases record_cases l s.topic.sent.length thread with hr | ⟨rfl, hr⟩
    · rw [hr]
      exact ha thread hthread
    · -- a thread that still publishes has read nothing
      by_cases hs : thread.phase = .synchronizing
      · rw [hr]
        simp [(hc thread hthread).unread hs]
      · exact absurd rfl (ended_step ((hc thread hthread).ended hs) hsync).2
  | deliver k topic htopic => exact ha
  | acceptGoal sceneReady goal sync hsync =>
    intro thread hthread
    rcases List.mem_append.mp hthread with hthread | hthread
    · exact ha thread hthread
    · obtain rfl := List.mem_singleton.mp hthread
      simp
  | answer g thread phase hthread hphase hreading =>
    have hmem := List.mem_of_getElem? hthread
    intro thread' hthread'
    rcases List.mem_or_eq_of_mem_set hthread' with hother | rfl
    · exact ha thread' hother
    · intro read hread k hk
      rcases List.mem_append.mp hread with hread | hread
      · exact ha thread hmem read hread k hk
      · rw [List.mem_singleton.mp hread]
        cases hreads : thread.reads with
        | nil =>
          have hflight : k ∉ s.topic.inFlight := hfirst thread hthread hreads k hk
          exact Channel.mem_delivered ((hc thread hmem).adds_sent k hk) hflight
        | cons first rest =>
          -- what the first answer had seen has stayed applied
          have hin : first ∈ thread.reads := by simp [hreads]
          exact (hc thread hmem).reads_delivered first hin k (ha thread hmem first hin k hk)
  | proceed _ g thread phase hanswer hthread hphase =>
    intro thread' hthread'
    rcases List.mem_or_eq_of_mem_set hthread' with hother | rfl
    · exact ha thread' hother
    · exact ha thread (List.mem_of_getElem? hthread)

omit [Field R] [LinearOrder R] in
/-- A thread is still there after another has been put in its place or elsewhere. -/
theorem exists_mem_set {goals : List GoalThread} {g : ℕ} {thread next : GoalThread}
    (hg : goals[g]? = some thread) (hreads : thread.reads ⊆ next.reads) (hadds : thread.adds ⊆ next.adds) :
    ∀ old ∈ goals, ∃ new ∈ goals.set g next, old.reads ⊆ new.reads ∧ old.adds ⊆ new.adds := by
  intro old hold
  obtain ⟨j, hj⟩ := List.mem_iff_getElem?.mp hold
  by_cases hgj : g = j
  · subst hgj
    obtain rfl : thread = old := by simpa [hg] using hj
    obtain ⟨hlt, -⟩ := List.getElem?_eq_some_iff.mp hg
    exact ⟨next, List.mem_of_getElem? (List.getElem?_set_self hlt), hreads, hadds⟩
  · refine ⟨old, List.mem_of_getElem? (i := j) ?_, List.Subset.refl _, List.Subset.refl _⟩
    rw [List.getElem?_set_ne hgj, hj]

/-- No thread forgets what it has published or read. -/
theorem goals_grow {s s' : PlanningSystem R} {e : Event R} (h : systemStep lib cfg objectIds s e = some s') :
    ∀ old ∈ s.goals, ∃ new ∈ s'.goals, old.reads ⊆ new.reads ∧ old.adds ⊆ new.adds := by
  cases systemStep_cases h with
  | sync l sync hsync =>
    intro old hold
    refine ⟨_, List.mem_map_of_mem hold, ?_⟩
    rcases record_cases l s.topic.sent.length old with hr | ⟨-, hr⟩
    · rw [hr]
      exact ⟨List.Subset.refl _, List.Subset.refl _⟩
    · rw [hr]
      exact ⟨List.Subset.refl _, List.subset_append_left _ _⟩
  | deliver k topic htopic => exact fun old hold => ⟨old, hold, List.Subset.refl _, List.Subset.refl _⟩
  | acceptGoal sceneReady goal sync hsync =>
    exact fun old hold => ⟨old, List.mem_append_left _ hold, List.Subset.refl _, List.Subset.refl _⟩
  | answer g thread phase hthread hphase hreading =>
    exact exists_mem_set hthread (List.subset_append_left _ _) (List.Subset.refl _)
  | proceed _ g thread phase hanswer hthread hphase =>
    exact exists_mem_set hthread (List.Subset.refl _) (List.Subset.refl _)

/-- What was wrong before a step is wrong after it. -/
theorem applied_of_step {s s' : PlanningSystem R} {e : Event R} (ha : AppliedBeforePlanning s')
    (h : systemStep lib cfg objectIds s e = some s') : AppliedBeforePlanning s := by
  intro thread hthread read hread k hk
  obtain ⟨new, hnew, hreads, hadds⟩ := goals_grow h thread hthread
  exact ha new hnew read (hreads hread) k (hadds hk)

theorem applied_of_exec {s t : PlanningSystem R} {es : List (Event R)} (ha : AppliedBeforePlanning t)
    (h : exec (systemStep lib cfg objectIds) s es = some t) : AppliedBeforePlanning s := by
  induction es generalizing s with
  | nil =>
    obtain rfl : s = t := by simpa using h
    exact ha
  | cons e es ih =>
    obtain ⟨s', hs, hr⟩ := (exec_cons_eq_some _).mp h
    exact applied_of_step (ih hr) hs

theorem firstAnswer_of_step {s s' : PlanningSystem R} {e : Event R} (ha : AppliedBeforePlanning s')
    (h : systemStep lib cfg objectIds s e = some s') : FirstAnswerAfterAdds s e := by
  cases e with
  | answer g =>
    intro thread hthread _ k hk hflight
    cases systemStep_cases h with
    | answer _ thread' phase hthread' hphase hreading =>
      obtain rfl : thread = thread' := by simpa [hthread] using hthread'
      obtain ⟨hlt, -⟩ := List.getElem?_eq_some_iff.mp hthread
      have hmem := List.mem_of_getElem? (List.getElem?_set_self (l := s.goals)
        (a := { thread with phase, reads := thread.reads ++ [s.topic.delivered] }) hlt)
      exact s.topic.disjoint k hflight (ha _ hmem s.topic.delivered (by simp) k hk)
    | proceed _ g' _ _ hanswer => exact absurd rfl (hanswer g)
  | _ => trivial

/-- Whatever the order of deliveries, the goals of a run have been resolved and planned
against scenes with all ADDs of their synchronizations exactly when no goal's first
answer has overtaken one of them. -/
theorem appliedBeforePlanning_iff {t : PlanningSystem R} {es : List (Event R)}
    (h : exec (systemStep lib cfg objectIds) .init es = some t) :
    AppliedBeforePlanning t ↔ Along (systemStep lib cfg objectIds) FirstAnswerAfterAdds .init es := by
  have key : ∀ (es : List (Event R)) (s : PlanningSystem R), Consistent s → AppliedBeforePlanning s →
      exec (systemStep lib cfg objectIds) s es = some t →
      (AppliedBeforePlanning t ↔ Along (systemStep lib cfg objectIds) FirstAnswerAfterAdds s es) := by
    intro es
    induction es with
    | nil =>
      intro s _ ha h
      obtain rfl : s = t := by simpa using h
      exact iff_of_true ha trivial
    | cons e es ih =>
      intro s hc ha h
      obtain ⟨s', hs, hr⟩ := (exec_cons_eq_some _).mp h
      constructor
      · intro ht
        have ha' := applied_of_exec ht hr
        refine ⟨firstAnswer_of_step ha' hs, fun u hu => ?_⟩
        obtain rfl : s' = u := by simpa [hs] using hu
        exact (ih s' (consistent_step hc hs) ha' hr).mp ht
      · rintro ⟨hfirst, hrest⟩
        have ha' := applied_step hc ha hfirst hs
        exact (ih s' (consistent_step hc hs) ha' hr).mpr (hrest s' hs)
  have hconsistent : Consistent (PlanningSystem.init : PlanningSystem R) := by
    simp [Consistent, PlanningSystem.init]
  have happlied : AppliedBeforePlanning (PlanningSystem.init : PlanningSystem R) := by
    simp [AppliedBeforePlanning, PlanningSystem.init]
  exact key es .init hconsistent happlied h

end Step

/-! ### A goal and a box -/

namespace Sample

/-- The ids of the scene after ADDs and REMOVEs. -/
def sceneObjectIds (msgs : List (CollisionObject ℚ)) : List Name :=
  msgs.foldl (fun ids msg =>
    match msg.operation with
    | .add => ids.filter (· ≠ msg.id) ++ [msg.id]
    | .remove => ids.filter (· ≠ msg.id)
    | .move => ids) []

/-- A goal for the box is accepted, and its synchronization publishes the box. -/
def goalSynchronized : List (Event ℚ) :=
  [.acceptGoal true (goal [0] 1),
    .sync (.getObjects 0 (.ok [Scene.Sample.object "box".toList (Scene.Sample.boxGeometry 1)])
      fun _ _ => .error ⟨.unavailable, []⟩),
    .sync (.fetchSection 0), .sync (.snapshot 0 (.increasing Name) 0), .sync (.publish 0),
    .startPlanning 0, .planCandidate 0 false]

/-- The system of these events. -/
abbrev boxStep := systemStep Scene.Sample.library Config.default sceneObjectIds

end Sample

/-- The request for the ids of the scene is answered before the ADD has arrived. -/
theorem answer_overtakes_add : ∃ es t,
    exec Sample.boxStep .init es = some t ∧
      ¬AppliedBeforePlanning t := by
  obtain ⟨t, hrun, hgoal⟩ : ∃ t, exec Sample.boxStep .init
      (Sample.goalSynchronized ++ [.answer 0]) = some t ∧
      (t.goals.any fun thread => decide (thread.adds = [0] ∧ thread.reads = [[]])) = true :=
    (Option.any_eq_true _ _).mp (by decide +kernel)
  obtain ⟨thread, hthread, hreads⟩ := List.any_eq_true.mp hgoal
  obtain ⟨hadds, hreads⟩ := of_decide_eq_true hreads
  refine ⟨_, t, hrun, fun h => ?_⟩
  exact List.not_mem_nil (h thread hthread [] (by simp [hreads]) 0 (by simp [hadds]))

/-- The ADD arrives first. -/
theorem appliedBeforePlanning_box : ∃ es t,
    exec Sample.boxStep .init es = some t ∧
      (∃ thread ∈ t.goals, thread.adds = [0] ∧ thread.reads ≠ []) ∧ AppliedBeforePlanning t := by
  obtain ⟨s, hbefore, hflight⟩ : ∃ s, exec Sample.boxStep .init
      (Sample.goalSynchronized ++ [.deliver 0]) = some s ∧ decide (s.topic.inFlight = ∅) = true :=
    (Option.any_eq_true _ _).mp (by decide +kernel)
  obtain ⟨t, hrun, hgoal⟩ : ∃ t, exec Sample.boxStep .init
      ((Sample.goalSynchronized ++ [.deliver 0]) ++ [.answer 0]) = some t ∧
      (t.goals.any fun thread => decide (thread.adds = [0] ∧ thread.reads ≠ [])) = true :=
    (Option.any_eq_true _ _).mp (by decide +kernel)
  obtain ⟨thread, hthread, hreads⟩ := List.any_eq_true.mp hgoal
  have hlabels : ∀ e ∈ Sample.goalSynchronized ++ [.deliver 0], ∀ s, FirstAnswerAfterAdds s e := by
    simp [Sample.goalSynchronized, FirstAnswerAfterAdds]
  refine ⟨_, t, hrun, ⟨thread, hthread, of_decide_eq_true hreads⟩, (appliedBeforePlanning_iff hrun).mpr ?_⟩
  refine Along.concat (Along.of_labels hlabels) hbefore ⟨fun _ _ _ k _ hk => ?_, fun _ _ => trivial⟩
  rw [of_decide_eq_true hflight] at hk
  exact Finset.notMem_empty k hk

end MoveitPlanning.Grasping
