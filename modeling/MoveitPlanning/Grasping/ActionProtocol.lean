import Mathlib.Algebra.BigOperators.Group.Multiset.Basic
import MoveitPlanning.Grasping.GoalHandle
import MoveitPlanning.Grasping.Skill

/-! A goal between the skill's client and the action server. Requests and replies are in
flight in two bags: any of them may arrive next, and any may be lost. The client gives up
where `spin_until_future_complete` does, and is not spun any more once it has returned.
The server keeps a request for the result until the goal has ended, and forgets a goal
some time after that. Another node may cancel the goal. Of a goal that has not been
accepted, nothing is in flight but the goal itself and its refusal. The requests that the
server keeps, its replies and what it forgets stand for what `rclcpp_action` documents,
whose code is not part of the repository; the steps of the client and of the goal's thread
are the source's. -/

namespace MoveitPlanning.Grasping

open Foundation Scene

/-! ### The system -/

inductive Request
  | goal | result | cancel
  deriving DecidableEq, Repr

inductive Reply
  | goalResponse (accepted : Bool)
  | result (code : ResultCode) (result : Result)
  deriving DecidableEq, Repr

/-- Where `CallGraspPlanningAction` is. -/
inductive ClientPhase
  /-- in `wait_for_action_server` -/
  | connecting
  | sendingGoal
  | awaitingResult
  | returned (answer : Except Failure Result)
  deriving DecidableEq

structure ActionSystem where
  client : ClientPhase
  requests : Multiset Request
  replies : Multiset Reply
  /-- the handle of the goal, once it has been accepted -/
  handle : Option ActionState
  /-- the thread of the goal is past its synchronization -/
  synchronized : Bool
  /-- the server has forgotten the goal -/
  expired : Bool
  /-- the requests for the result that the server has kept -/
  keptRequests : ℕ

namespace ActionSystem

def init : ActionSystem := ⟨.connecting, 0, 0, none, false, false, 0⟩

def send (s : ActionSystem) (request : Request) : ActionSystem := { s with requests := request ::ₘ s.requests }

def reply (s : ActionSystem) (reply : Reply) : ActionSystem := { s with replies := reply ::ₘ s.replies }

/-- The goal goes on; if it has ended now, the requests kept for its result are answered. -/
def proceed (s : ActionSystem) (handle : ActionState) : ActionSystem :=
  match handle.terminals.head? with
  | none => { s with handle := some handle }
  | some call => { s with
      handle := some handle
      replies := Multiset.replicate s.keptRequests (.result call.1.code call.2) + s.replies
      keptRequests := 0 }

/-- What the server answers to a request for the result, if it can answer it now. -/
def resultReply (s : ActionSystem) : Option Reply :=
  match s.handle with
  | none => some (.result .unknown ⟨[], .undefined⟩)
  | some handle =>
    if s.expired then some (.result .unknown ⟨[], .undefined⟩)
    else handle.terminals.head?.map fun call => .result call.1.code call.2

end ActionSystem

/-- What `CallGraspPlanningAction` makes of a wrapped result. -/
def resultAnswer (code : ResultCode) (result : Result) : Except Failure Result :=
  if code = .canceled then .error ⟨.cancelled, "Grasp planning action was canceled.".toList⟩
  else if code = .unknown then .error ⟨.internal, "Grasp planning action returned an unknown result.".toList⟩
  else .ok result

inductive ProtocolLabel
  | serverFound
  /-- the waits of the client end by their timeouts -/
  | connectTimeout
  | goalTimeout
  | resultTimeout
  | receive (reply : Reply)
  /-- the server takes a request; the flag is that of the planning node -/
  | serve (sceneReady : Bool) (request : Request)
  /-- `fetchAndSynchronizeCollisionObjects` returns in the thread of the goal -/
  | synchronized (status : Status)
  | act (l : ActionLabel)
  | cancelByOther
  | expire
  | loseRequest (request : Request)
  | loseReply (reply : Reply)

/-- Nothing is lost, forgotten or given up, and nobody else cancels. -/
def ProtocolLabel.orderly : ProtocolLabel → Bool
  | connectTimeout | goalTimeout | resultTimeout | cancelByOther | expire | loseRequest _ | loseReply _ => false
  | _ => true

/-- Other nodes may cancel as often as they like. -/
def ProtocolLabel.isOwn : ProtocolLabel → Bool
  | cancelByOther => false
  | _ => true

section Step
variable (fp : Rounding) (sort : StdSort qualityGreater) (goal : Goal)

namespace ActionSystem

/-- A cancel request; it has no effect on a goal that has ended, or that is not there. -/
def cancelGoal (s : ActionSystem) : ActionSystem :=
  { s with handle := s.handle.map fun handle => (actionStep fp sort goal handle .cancelRequest).getD handle }

/-- The server's part in a request that has arrived. -/
def served (s : ActionSystem) (sceneReady : Bool) : Request → ActionSystem
  | .goal =>
    match handlePlanGraspsGoal sceneReady goal with
    | .reject => s.reply (.goalResponse false)
    | .acceptAndExecute => { s with handle := some .init }.reply (.goalResponse true)
  | .result =>
    match s.resultReply with
    | none => { s with keptRequests := s.keptRequests + 1 }
    | some reply => s.reply reply
  | .cancel => s.cancelGoal fp sort goal

/-- The client's part in a reply that has arrived; one it does not wait for is dropped. -/
def received (s : ActionSystem) : Reply → ActionSystem
  | .goalResponse accepted =>
    match s.client with
    | .sendingGoal =>
      if accepted then { s with client := .awaitingResult }.send .result
      else { s with client := .returned (.error ⟨.failedPrecondition,
        "Grasp planning goal was rejected by: ".toList ++ actionName⟩) }
    | _ => s
  | .result code result =>
    match s.client with
    | .awaitingResult => { s with client := .returned (resultAnswer code result) }
    | _ => s

end ActionSystem

def protocolStep (s : ActionSystem) : ProtocolLabel → Option ActionSystem
  | .serverFound =>
    match s.client with
    | .connecting => some ({ s with client := .sendingGoal }.send .goal)
    | _ => none
  | .connectTimeout =>
    match s.client with
    | .connecting => some { s with client := .returned (.error ⟨.unavailable,
        "Action server not reachable: ".toList ++ actionName⟩) }
    | _ => none
  | .goalTimeout =>
    match s.client with
    | .sendingGoal => some { s with client := .returned (.error ⟨.deadlineExceeded,
        "Timed out sending goal to action: ".toList ++ actionName⟩) }
    | _ => none
  | .resultTimeout =>
    match s.client with
    | .awaitingResult => some ({ s with client := .returned (.error ⟨.deadlineExceeded,
        "Timed out waiting for action result: ".toList ++ actionName⟩) }.send .cancel)
    | _ => none
  | .receive reply =>
    if reply ∈ s.replies then some ({ s with replies := s.replies.erase reply }.received reply) else none
  | .serve sceneReady request =>
    if request ∈ s.requests then
      some ({ s with requests := s.requests.erase request }.served fp sort goal sceneReady request)
    else none
  | .synchronized _ =>
    if s.handle.isSome && !s.synchronized then some { s with synchronized := true } else none
  | .act l =>
    match s.handle with
    | none => none
    | some handle =>
      if s.synchronized && l.isOwn then (actionStep fp sort goal handle l).map s.proceed else none
  | .cancelByOther => some (s.cancelGoal fp sort goal)
  | .expire =>
    match s.handle with
    | none => none
    | some handle => if handle.phase = .ended ∧ s.expired = false then some { s with expired := true } else none
  | .loseRequest request =>
    if request ∈ s.requests then some { s with requests := s.requests.erase request } else none
  | .loseReply reply =>
    if reply ∈ s.replies then some { s with replies := s.replies.erase reply } else none

/-! ### What a step can do -/

/-- The branches of `protocolStep`, each with what it needs. -/
inductive ProtocolStep (s : ActionSystem) : ProtocolLabel → ActionSystem → Prop
  | serverFound (hclient : s.client = .connecting) :
      ProtocolStep s .serverFound ({ s with client := .sendingGoal }.send .goal)
  | connectTimeout (hclient : s.client = .connecting) : ProtocolStep s .connectTimeout { s with
      client := .returned (.error ⟨.unavailable, "Action server not reachable: ".toList ++ actionName⟩) }
  | goalTimeout (hclient : s.client = .sendingGoal) : ProtocolStep s .goalTimeout { s with
      client := .returned (.error ⟨.deadlineExceeded, "Timed out sending goal to action: ".toList ++ actionName⟩) }
  | resultTimeout (hclient : s.client = .awaitingResult) : ProtocolStep s .resultTimeout ({ s with
      client := .returned (.error ⟨.deadlineExceeded,
        "Timed out waiting for action result: ".toList ++ actionName⟩) }.send .cancel)
  | accepted (hmem : .goalResponse true ∈ s.replies) (hclient : s.client = .sendingGoal) :
      ProtocolStep s (.receive (.goalResponse true))
        ({ s with replies := s.replies.erase (.goalResponse true), client := .awaitingResult }.send .result)
  | rejected (hmem : .goalResponse false ∈ s.replies) (hclient : s.client = .sendingGoal) :
      ProtocolStep s (.receive (.goalResponse false)) { s with
        replies := s.replies.erase (.goalResponse false)
        client := .returned (.error ⟨.failedPrecondition,
          "Grasp planning goal was rejected by: ".toList ++ actionName⟩) }
  | result (code result) (hmem : .result code result ∈ s.replies) (hclient : s.client = .awaitingResult) :
      ProtocolStep s (.receive (.result code result)) { s with
        replies := s.replies.erase (.result code result)
        client := .returned (resultAnswer code result) }
  | dropped (reply) (hmem : reply ∈ s.replies)
      (hgoal : s.client = .sendingGoal → ∀ accepted, reply ≠ .goalResponse accepted)
      (hresult : s.client = .awaitingResult → ∀ code result, reply ≠ .result code result) :
      ProtocolStep s (.receive reply) { s with replies := s.replies.erase reply }
  | acceptGoal (sceneReady) (hmem : .goal ∈ s.requests)
      (hgoal : handlePlanGraspsGoal sceneReady goal = .acceptAndExecute) : ProtocolStep s (.serve sceneReady .goal)
        ({ s with requests := s.requests.erase .goal, handle := some .init }.reply (.goalResponse true))
  | rejectGoal (sceneReady) (hmem : .goal ∈ s.requests) (hgoal : handlePlanGraspsGoal sceneReady goal = .reject) :
      ProtocolStep s (.serve sceneReady .goal)
        ({ s with requests := s.requests.erase .goal }.reply (.goalResponse false))
  | answerResult (sceneReady reply) (hmem : .result ∈ s.requests) (hreply : s.resultReply = some reply) :
      ProtocolStep s (.serve sceneReady .result) ({ s with requests := s.requests.erase .result }.reply reply)
  | keepRequest (sceneReady) (hmem : .result ∈ s.requests) (hreply : s.resultReply = none) :
      ProtocolStep s (.serve sceneReady .result) { s with
        requests := s.requests.erase .result
        keptRequests := s.keptRequests + 1 }
  | cancel (sceneReady) (hmem : .cancel ∈ s.requests) : ProtocolStep s (.serve sceneReady .cancel)
      ({ s with requests := s.requests.erase .cancel }.cancelGoal fp sort goal)
  | synchronized (status) (hhandle : s.handle.isSome = true) (hsync : s.synchronized = false) :
      ProtocolStep s (.synchronized status) { s with synchronized := true }
  | act (l handle handle') (hhandle : s.handle = some handle) (hsync : s.synchronized = true)
      (hown : l.isOwn = true) (hstep : actionStep fp sort goal handle l = some handle') :
      ProtocolStep s (.act l) (s.proceed handle')
  | cancelByOther : ProtocolStep s .cancelByOther (s.cancelGoal fp sort goal)
  | expire (handle) (hhandle : s.handle = some handle) (hended : handle.phase = .ended) (hexpired : s.expired = false) :
      ProtocolStep s .expire { s with expired := true }
  | loseRequest (request) (hmem : request ∈ s.requests) :
      ProtocolStep s (.loseRequest request) { s with requests := s.requests.erase request }
  | loseReply (reply) (hmem : reply ∈ s.replies) :
      ProtocolStep s (.loseReply reply) { s with replies := s.replies.erase reply }

variable {fp sort goal}

theorem protocolStep_served {s : ActionSystem} {sceneReady : Bool} {request : Request} (hmem : request ∈ s.requests) :
    ProtocolStep fp sort goal s (.serve sceneReady request)
      ({ s with requests := s.requests.erase request }.served fp sort goal sceneReady request) := by
  cases request with
  | goal =>
    simp only [ActionSystem.served]
    split
    · rename_i hgoal
      exact .rejectGoal sceneReady hmem hgoal
    · rename_i hgoal
      exact .acceptGoal sceneReady hmem hgoal
  | result =>
    simp only [ActionSystem.served]
    split
    · rename_i hreply
      exact .keepRequest sceneReady hmem hreply
    · rename_i reply hreply
      exact .answerResult sceneReady reply hmem hreply
  | cancel => exact .cancel sceneReady hmem

theorem protocolStep_received {s : ActionSystem} {reply : Reply} (hmem : reply ∈ s.replies) :
    ProtocolStep fp sort goal s (.receive reply)
      ({ s with replies := s.replies.erase reply }.received reply) := by
  cases reply with
  | goalResponse accepted =>
    simp only [ActionSystem.received]
    split
    · rename_i hclient
      cases accepted with
      | true => exact .accepted hmem hclient
      | false => exact .rejected hmem hclient
    · rename_i hclient
      exact .dropped _ hmem (fun h => absurd h hclient) fun _ _ _ => Reply.noConfusion
  | result code result =>
    simp only [ActionSystem.received]
    split
    · rename_i hclient
      exact .result code result hmem hclient
    · rename_i hclient
      exact .dropped _ hmem (fun _ _ => Reply.noConfusion) fun h => absurd h hclient

theorem protocolStep_eq_some {s s' : ActionSystem} {l : ProtocolLabel}
    (h : protocolStep fp sort goal s l = some s') : ProtocolStep fp sort goal s l s' := by
  cases l with
  | serverFound =>
    simp only [protocolStep] at h
    split at h
    · rename_i hclient
      obtain rfl := Option.some.inj h
      exact .serverFound hclient
    · cases h
  | connectTimeout =>
    simp only [protocolStep] at h
    split at h
    · rename_i hclient
      obtain rfl := Option.some.inj h
      exact .connectTimeout hclient
    · cases h
  | goalTimeout =>
    simp only [protocolStep] at h
    split at h
    · rename_i hclient
      obtain rfl := Option.some.inj h
      exact .goalTimeout hclient
    · cases h
  | resultTimeout =>
    simp only [protocolStep] at h
    split at h
    · rename_i hclient
      obtain rfl := Option.some.inj h
      exact .resultTimeout hclient
    · cases h
  | receive reply =>
    obtain ⟨hmem, heq⟩ := Option.ite_none_right_eq_some.mp h
    obtain rfl := Option.some.inj heq
    exact protocolStep_received hmem
  | serve sceneReady request =>
    obtain ⟨hmem, heq⟩ := Option.ite_none_right_eq_some.mp h
    obtain rfl := Option.some.inj heq
    exact protocolStep_served hmem
  | synchronized status =>
    obtain ⟨hsync, heq⟩ := Option.ite_none_right_eq_some.mp h
    obtain rfl := Option.some.inj heq
    simp only [Bool.and_eq_true, Bool.not_eq_true'] at hsync
    exact .synchronized status hsync.1 hsync.2
  | act l =>
    simp only [protocolStep] at h
    split at h
    · cases h
    · rename_i handle hhandle
      split_ifs at h with hsync
      obtain ⟨handle', hstep, rfl⟩ := Option.map_eq_some_iff.mp h
      simp only [Bool.and_eq_true] at hsync
      exact .act l handle handle' hhandle hsync.1 hsync.2 hstep
  | cancelByOther =>
    obtain rfl := Option.some.inj h
    exact .cancelByOther
  | expire =>
    simp only [protocolStep] at h
    split at h
    · cases h
    · rename_i handle hhandle
      split_ifs at h with hended
      obtain rfl := Option.some.inj h
      exact .expire handle hhandle hended.1 hended.2
  | loseRequest request =>
    obtain ⟨hmem, heq⟩ := Option.ite_none_right_eq_some.mp h
    obtain rfl := Option.some.inj heq
    exact .loseRequest request hmem
  | loseReply reply =>
    obtain ⟨hmem, heq⟩ := Option.ite_none_right_eq_some.mp h
    obtain rfl := Option.some.inj heq
    exact .loseReply reply hmem

/-! ### The handle of the goal -/

/-- The handle is one of a run of the goal's thread. -/
abbrev Handled (fp : Rounding) (sort : StdSort qualityGreater) (goal : Goal) (handle : ActionState) : Prop :=
  Reachable (actionStep fp sort goal) .init handle

theorem Handled.invariant {handle : ActionState} (h : Handled fp sort goal handle) :
    ActionInvariant goal.candidates.length handle :=
  Reachable.invariant h (actionInvariant_init _) fun _ _ _ => actionInvariant_step

theorem Handled.terminals {handle : ActionState} (h : Handled fp sort goal handle) :
    handle.phase ≠ .ended ∧ handle.terminals = [] ∨ handle.phase = .ended ∧ ∃ call, handle.terminals = [call] := by
  have hlength := h.invariant.goalContract.terminal
  by_cases hended : handle.phase = .ended
  · rw [if_pos hended] at hlength
    exact .inr ⟨hended, List.length_eq_one_iff.mp hlength⟩
  · rw [if_neg hended] at hlength
    exact .inl ⟨hended, List.length_eq_zero_iff.mp hlength⟩

theorem Handled.ended {handle : ActionState} (h : Handled fp sort goal handle) {call : Terminal × Result}
    (hterminals : handle.terminals = [call]) : handle.phase = .ended := by
  rcases h.terminals with ⟨-, hnil⟩ | ⟨hended, -⟩
  · rw [hnil] at hterminals
    cases hterminals
  · exact hended

theorem Handled.exists_execute {handle : ActionState} (h : Handled fp sort goal handle) {terminal : Terminal}
    {result : Result} (hterminals : handle.terminals = [(terminal, result)]) :
    ∃ isCanceling env, handle.run = some (executePlanGraspsAction fp sort isCanceling env goal) ∧
      terminal = (executePlanGraspsAction fp sort isCanceling env goal).terminal ∧
      result = (executePlanGraspsAction fp sort isCanceling env goal).result := by
  have hended := h.ended hterminals
  obtain ⟨acts, hacts⟩ := h
  obtain ⟨isCanceling, env, hexecute⟩ := exists_execute_of_ended hacts hended
  refine ⟨isCanceling, env, hexecute, ?_⟩
  rw [ActionState.run, hterminals] at hexecute
  rw [← Option.some.inj hexecute]
  exact ⟨rfl, rfl⟩

namespace ActionSystem

theorem proceed_eq (s : ActionSystem) {handle : ActionState} (h : Handled fp sort goal handle) :
    handle.phase ≠ .ended ∧ s.proceed handle = { s with handle := some handle } ∨
      handle.phase = .ended ∧ ∃ call, handle.terminals = [call] ∧ s.proceed handle = { s with
        handle := some handle
        replies := Multiset.replicate s.keptRequests (.result call.1.code call.2) + s.replies
        keptRequests := 0 } := by
  rcases h.terminals with ⟨hphase, hnil⟩ | ⟨hended, call, hcall⟩
  · exact .inl ⟨hphase, by rw [proceed, hnil]; rfl⟩
  · exact .inr ⟨hended, call, hcall, by rw [proceed, hcall]; rfl⟩

end ActionSystem

theorem cancelRequest_getD (handle : ActionState) :
    (actionStep fp sort goal handle .cancelRequest).getD handle =
      if handle.phase = .ended then handle else { handle with canceling := true } := by
  simp only [actionStep, handlePlanGraspsCancel, decide_true, Bool.or_true]
  split_ifs <;> rfl

/-- What a step does to the handle. -/
inductive HandleStep (fp : Rounding) (sort : StdSort qualityGreater) (goal : Goal) (s : ActionSystem)
    (l : ProtocolLabel) (s' : ActionSystem) : Prop
  | same (heq : s'.handle = s.handle)
  | accepted (hmem : .goal ∈ s.requests) (hgoal : handlePlanGraspsGoal true goal = .acceptAndExecute)
    (heq : s'.handle = some .init)
  | step (act handle handle') (hhandle : s.handle = some handle) (hact : actionStep fp sort goal handle act = some handle')
    (heq : s'.handle = some handle') (hcancel : act = .cancelRequest → l = .cancelByOther ∨ .cancel ∈ s.requests)

theorem handleStep_cancelGoal {s s' : ActionSystem} {l : ProtocolLabel}
    (h : s'.handle = (s.cancelGoal fp sort goal).handle) (hcancel : l = .cancelByOther ∨ .cancel ∈ s.requests) :
    HandleStep fp sort goal s l s' := by
  rw [ActionSystem.cancelGoal] at h
  cases hhandle : s.handle with
  | none => exact .same (by rw [h, hhandle]; rfl)
  | some handle =>
    rw [hhandle, Option.map_some] at h
    cases hact : actionStep fp sort goal handle .cancelRequest with
    | none => exact .same (by rw [h, hact, Option.getD_none, hhandle])
    | some handle' =>
      exact .step .cancelRequest handle handle' hhandle hact (by rw [h, hact, Option.getD_some]) fun _ => hcancel

theorem handleStep {s s' : ActionSystem} {l : ProtocolLabel} (hstep : protocolStep fp sort goal s l = some s') :
    HandleStep fp sort goal s l s' := by
  cases protocolStep_eq_some hstep with
  | acceptGoal sceneReady hmem hgoal =>
    cases sceneReady with
    | false => cases hgoal
    | true => exact .accepted hmem hgoal rfl
  | cancel sceneReady hmem => exact handleStep_cancelGoal rfl (.inr hmem)
  | cancelByOther => exact handleStep_cancelGoal rfl (.inl rfl)
  | act l handle handle' hhandle hsync hown hact =>
    refine .step l handle handle' hhandle hact ?_ fun hl => ?_
    · unfold ActionSystem.proceed
      split <;> rfl
    · rw [hl] at hown
      cases hown
  | _ => exact .same rfl

/-! ### The traffic -/

/-- What is in flight, by how far the goal has got. -/
structure Traffic (s : ActionSystem) : Prop where
  notSent : s.client = .connecting → s.requests = 0 ∧ s.replies = 0 ∧ s.handle = none
  goalOnce : .goal ∈ s.requests → s.requests = {.goal} ∧ s.replies = 0 ∧ s.handle = none
  notAccepted : s.handle = none → s.keptRequests = 0 ∧ (∀ request ∈ s.requests, request = .goal) ∧
    (∀ reply ∈ s.replies, reply = .goalResponse false) ∧ s.client ≠ .awaitingResult
  accepted : .goalResponse false ∈ s.replies → s.handle = none

theorem traffic_init : Traffic .init :=
  ⟨fun _ => ⟨rfl, rfl, rfl⟩, fun h => absurd h (Multiset.notMem_zero _),
    fun _ => ⟨rfl, fun _ h => absurd h (Multiset.notMem_zero _), fun _ h => absurd h (Multiset.notMem_zero _),
      ClientPhase.noConfusion⟩, fun h => absurd h (Multiset.notMem_zero _)⟩

theorem Traffic.goal_notMem {s : ActionSystem} (h : Traffic s) {handle : ActionState} (hhandle : s.handle = some handle) :
    .goal ∉ s.requests := by
  intro hmem
  rw [(h.goalOnce hmem).2.2] at hhandle
  cases hhandle

/-- A request other than the goal, or a reply other than a refusal, is for a goal that was accepted. -/
theorem Traffic.exists_handle {s : ActionSystem} (h : Traffic s)
    (hsome : (∃ request ∈ s.requests, request ≠ .goal) ∨ (∃ reply ∈ s.replies, reply ≠ .goalResponse false) ∨
      s.client = .awaitingResult) : ∃ handle, s.handle = some handle := by
  rw [← Option.ne_none_iff_exists']
  intro hnone
  obtain ⟨-, hrequests, hreplies, hclient⟩ := h.notAccepted hnone
  rcases hsome with ⟨request, hmem, hne⟩ | ⟨reply, hmem, hne⟩ | hawaiting
  · exact hne (hrequests request hmem)
  · exact hne (hreplies reply hmem)
  · exact hclient hawaiting

/-- Messages that get less keep the traffic in order, and so does a client that goes on without sending. -/
theorem Traffic.of_le {s s' : ActionSystem} (h : Traffic s) (hrequests : s'.requests ≤ s.requests)
    (hreplies : s'.replies ≤ s.replies) (hhandle : s'.handle = none ↔ s.handle = none)
    (hkept : s.handle = none → s'.keptRequests = 0)
    (hconnecting : s'.client = .connecting → s.client = .connecting)
    (hawaiting : s.handle = none → s'.client = .awaitingResult → s.client = .awaitingResult) : Traffic s' where
  notSent hclient := by
    obtain ⟨hreq, hrep, hnone⟩ := h.notSent (hconnecting hclient)
    rw [hreq, Multiset.le_zero] at hrequests
    rw [hrep, Multiset.le_zero] at hreplies
    exact ⟨hrequests, hreplies, hhandle.mpr hnone⟩
  goalOnce hmem := by
    obtain ⟨hreq, hrep, hnone⟩ := h.goalOnce (Multiset.mem_of_le hrequests hmem)
    rw [hrep, Multiset.le_zero] at hreplies
    rw [hreq] at hrequests
    refine ⟨(Multiset.le_singleton.mp hrequests).resolve_left ?_, hreplies, hhandle.mpr hnone⟩
    intro hzero
    rw [hzero] at hmem
    exact absurd hmem (Multiset.notMem_zero _)
  notAccepted hnone := by
    obtain ⟨-, hreq, hrep, hclient⟩ := h.notAccepted (hhandle.mp hnone)
    exact ⟨hkept (hhandle.mp hnone), fun request hmem => hreq request (Multiset.mem_of_le hrequests hmem),
      fun reply hmem => hrep reply (Multiset.mem_of_le hreplies hmem),
      fun hc => hclient (hawaiting (hhandle.mp hnone) hc)⟩
  accepted hmem := hhandle.mpr (h.accepted (Multiset.mem_of_le hreplies hmem))

/-- The traffic once the goal has been accepted. -/
structure AcceptedTraffic (s : ActionSystem) : Prop where
  handle : s.handle ≠ none
  client : s.client ≠ .connecting
  requests : .goal ∉ s.requests
  replies : .goalResponse false ∉ s.replies

theorem AcceptedTraffic.traffic {s : ActionSystem} (h : AcceptedTraffic s) : Traffic s :=
  ⟨fun hclient => absurd hclient h.client, fun hmem => absurd hmem h.requests, fun hnone => absurd hnone h.handle,
    fun hmem => absurd hmem h.replies⟩

theorem Traffic.of_accepted {s : ActionSystem} (h : Traffic s) {handle : ActionState} (hhandle : s.handle = some handle) :
    AcceptedTraffic s where
  handle := by simp [hhandle]
  client hclient := by simp [(h.notSent hclient).2.2] at hhandle
  requests := h.goal_notMem hhandle
  replies hmem := by simp [h.accepted hmem] at hhandle

theorem resultReply_ne {s : ActionSystem} {reply : Reply} (h : s.resultReply = some reply) (accepted : Bool) :
    reply ≠ .goalResponse accepted := by
  unfold ActionSystem.resultReply at h
  split at h
  · obtain rfl := Option.some.inj h
    exact Reply.noConfusion
  · split_ifs at h
    · obtain rfl := Option.some.inj h
      exact Reply.noConfusion
    · obtain ⟨call, -, rfl⟩ := Option.map_eq_some_iff.mp h
      exact Reply.noConfusion

theorem traffic_step {s s' : ActionSystem} {l : ProtocolLabel} (h : Traffic s)
    (hstep : protocolStep fp sort goal s l = some s') : Traffic s' := by
  cases protocolStep_eq_some hstep with
  | serverFound hclient =>
    obtain ⟨hrequests, hreplies, hhandle⟩ := h.notSent hclient
    have hkept := (h.notAccepted hhandle).1
    refine ⟨ClientPhase.noConfusion, fun _ => ⟨?_, hreplies, hhandle⟩, fun _ => ⟨hkept, ?_, ?_, ClientPhase.noConfusion⟩,
      fun _ => hhandle⟩
    · rw [ActionSystem.send, hrequests]
      rfl
    · intro request hmem
      rw [ActionSystem.send, hrequests] at hmem
      simpa using hmem
    · intro reply hmem
      rw [ActionSystem.send, hreplies] at hmem
      exact absurd hmem (Multiset.notMem_zero _)
  | connectTimeout hclient =>
    exact h.of_le le_rfl le_rfl Iff.rfl (fun hn => (h.notAccepted hn).1) ClientPhase.noConfusion
      fun _ => ClientPhase.noConfusion
  | goalTimeout hclient =>
    exact h.of_le le_rfl le_rfl Iff.rfl (fun hn => (h.notAccepted hn).1) ClientPhase.noConfusion
      fun _ => ClientPhase.noConfusion
  | resultTimeout hclient =>
    obtain ⟨handle, hhandle⟩ := h.exists_handle (.inr (.inr hclient))
    have ha := h.of_accepted hhandle
    refine AcceptedTraffic.traffic ⟨ha.handle, ClientPhase.noConfusion, ?_, ha.replies⟩
    simpa [ActionSystem.send] using ha.requests
  | accepted hmem hclient =>
    obtain ⟨handle, hhandle⟩ := h.exists_handle (.inr (.inl ⟨_, hmem, by simp⟩))
    have ha := h.of_accepted hhandle
    refine AcceptedTraffic.traffic ⟨ha.handle, ClientPhase.noConfusion, ?_,
      fun hfalse => ha.replies (Multiset.mem_of_mem_erase hfalse)⟩
    simpa [ActionSystem.send] using ha.requests
  | rejected hmem hclient =>
    exact h.of_le le_rfl (Multiset.erase_le _ _) Iff.rfl (fun hn => (h.notAccepted hn).1) ClientPhase.noConfusion
      fun _ => ClientPhase.noConfusion
  | result code result hmem hclient =>
    exact h.of_le le_rfl (Multiset.erase_le _ _) Iff.rfl (fun hn => (h.notAccepted hn).1) ClientPhase.noConfusion
      fun _ => ClientPhase.noConfusion
  | dropped reply hmem hgoal hresult =>
    exact h.of_le le_rfl (Multiset.erase_le _ _) Iff.rfl (fun hn => (h.notAccepted hn).1) id fun _ => id
  | acceptGoal sceneReady hmem hgoal =>
    obtain ⟨hrequests, hreplies, -⟩ := h.goalOnce hmem
    have hclient : s.client ≠ .connecting := fun hc => by
      rw [(h.notSent hc).1] at hmem
      exact absurd hmem (Multiset.notMem_zero _)
    exact AcceptedTraffic.traffic ⟨Option.some_ne_none _, hclient, by simp [ActionSystem.reply, hrequests],
      by simp [ActionSystem.reply, hreplies]⟩
  | rejectGoal sceneReady hmem hgoal =>
    obtain ⟨hrequests, hreplies, hhandle⟩ := h.goalOnce hmem
    obtain ⟨hkept, -, -, hawaiting⟩ := h.notAccepted hhandle
    have hclient : s.client ≠ .connecting := fun hc => by
      rw [(h.notSent hc).1] at hmem
      exact absurd hmem (Multiset.notMem_zero _)
    refine ⟨fun hc => absurd hc hclient, ?_, fun _ => ⟨hkept, ?_, ?_, hawaiting⟩, fun _ => hhandle⟩
    · simp [ActionSystem.reply, hrequests]
    · simp [ActionSystem.reply, hrequests]
    · simp [ActionSystem.reply, hreplies]
  | answerResult sceneReady reply hmem hreply =>
    obtain ⟨handle, hhandle⟩ := h.exists_handle (.inl ⟨_, hmem, by simp⟩)
    have ha := h.of_accepted hhandle
    refine AcceptedTraffic.traffic ⟨ha.handle, ha.client, fun hgoal => ha.requests (Multiset.mem_of_mem_erase hgoal), ?_⟩
    simpa [ActionSystem.reply, (resultReply_ne hreply false).symm] using ha.replies
  | keepRequest sceneReady hmem hreply =>
    obtain ⟨handle, hhandle⟩ := h.exists_handle (.inl ⟨_, hmem, by simp⟩)
    have ha := h.of_accepted hhandle
    exact AcceptedTraffic.traffic ⟨ha.handle, ha.client, fun hgoal => ha.requests (Multiset.mem_of_mem_erase hgoal),
      ha.replies⟩
  | cancel sceneReady hmem =>
    exact h.of_le (Multiset.erase_le _ _) le_rfl (by simp [ActionSystem.cancelGoal])
      (fun hn => (h.notAccepted hn).1) id fun _ => id
  | synchronized status hhandle hsync =>
    exact h.of_le le_rfl le_rfl Iff.rfl (fun hn => (h.notAccepted hn).1) id fun _ => id
  | act l handle handle' hhandle hsync hown hact =>
    have ha := h.of_accepted hhandle
    unfold ActionSystem.proceed
    split
    · exact AcceptedTraffic.traffic ⟨Option.some_ne_none _, ha.client, ha.requests, ha.replies⟩
    · refine AcceptedTraffic.traffic ⟨Option.some_ne_none _, ha.client, ha.requests, ?_⟩
      simpa [Multiset.mem_replicate] using ha.replies
  | cancelByOther =>
    exact h.of_le le_rfl le_rfl (by simp [ActionSystem.cancelGoal]) (fun hn => (h.notAccepted hn).1) id fun _ => id
  | expire handle hhandle hended hexpired =>
    exact h.of_le le_rfl le_rfl Iff.rfl (fun hn => (h.notAccepted hn).1) id fun _ => id
  | loseRequest request hmem =>
    exact h.of_le (Multiset.erase_le _ _) le_rfl Iff.rfl (fun hn => (h.notAccepted hn).1) id fun _ => id
  | loseReply reply hmem =>
    exact h.of_le le_rfl (Multiset.erase_le _ _) Iff.rfl (fun hn => (h.notAccepted hn).1) id fun _ => id

namespace Sample

/-- A request for a box that the planning scene has, and the run of the action for it. -/
def sentParams : GraspPlanningParams := sizedParams (.byName "box".toList)

def sentRun : ActionRun := run ["box/whole".toList] sentParams

/-- The steps up to the synchronization in the thread of the goal. -/
def acceptedSteps : List ProtocolLabel :=
  [.serverFound, .serve true .goal, .receive (.goalResponse true), .serve true .result, .synchronized (.ok ())]

/-- The steps that answer the request. -/
def answeredSteps : List ProtocolLabel :=
  acceptedSteps ++ [.act .readCanceling, .act (.planCandidate (sceneEnv ["box/whole".toList])), .act .publishFeedback,
    .act .rank, .receive (.result .succeeded sentRun.result)]

theorem exec_answeredSteps : ∃ s, exec (protocolStep .exact Sample.sort (createPlanGraspsGoal .exact sentParams)) .init
    answeredSteps = some s ∧ s.client = .returned (.ok sentRun.result) := by
  obtain ⟨s, hrun, hclient⟩ : ∃ s, exec (protocolStep .exact Sample.sort (createPlanGraspsGoal .exact sentParams)) .init
      answeredSteps = some s ∧ decide (s.client = .returned (.ok sentRun.result)) = true :=
    (Option.any_eq_true _ _).mp (by decide +kernel)
  exact ⟨s, hrun, of_decide_eq_true hclient⟩

end Sample

end Step

end MoveitPlanning.Grasping
