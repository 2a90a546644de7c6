import MoveitPlanning.Foundation.Linearization
import MoveitPlanning.Service.ServiceState

/-! Calls of the service state that overlap. The gRPC server runs each handler on a thread
of its own, and what the handlers share is the atomic flag of the client: `Enable` stores to
it and goes on with the bridge and `check_health`, `Disable` stores to it, and `GetState`
loads it and goes on with `check_health` unless it was set. A step of a handler is what it
does up to its next access of something shared; what the bridge answers and `check_health`
reports in it is a parameter. In every interleaving the answers are those of the calls
served one after another. -/

namespace MoveitPlanning.Service

open Foundation Scene

inductive StateRequest
  | getState | enable | disable
  deriving DecidableEq, Repr

/-- What a client gets: the state of `GetState`, whose status is always OK, or the status of
the other two. -/
inductive CallAnswer
  | state (state : SelfState)
  | status (status : Status)
  deriving DecidableEq

/-! ### One call after another -/

def Call.request : Call → Option StateRequest
  | getState _ => some .getState
  | enable _ _ _ => some .enable
  | disable => some .disable
  | recordJointState _ _ => none

def Call.answer (client : MoveItStatusClient) : Call → Option CallAnswer
  | getState report => some (.state (Service.getState client report))
  | enable isMockHardware bridge report => some (.status (Service.enable client isMockHardware bridge report).1)
  | disable => some (.status (Service.disable client).1)
  | recordJointState _ _ => none

/-- The service state, as `afterCalls` has it. -/
def serviceObject : SequentialObject MoveItStatusClient StateRequest Call CallAnswer where
  init := .init
  apply := Call.apply
  request := Call.request
  answer := Call.answer

/-! ### Handlers on threads of their own -/

inductive HandlerPc
  | called
  /-- in `Enable`, after its store -/
  | synchronizing
  | checking
  | returning (answer : CallAnswer)
  | returned (answer : CallAnswer)
  deriving DecidableEq

structure Handler where
  request : StateRequest
  pc : HandlerPc
  deriving DecidableEq

inductive HandlerLabel
  /-- the access of the flag -/
  | access
  | synchronize (isMockHardware : Bool) (bridge : BridgeExchange)
  | checkHealth (report : SubsystemHealthReport)
  | respond

/-- A step of a handler, with the flag after it. -/
def handlerStep (isDisabled : Bool) : Handler → HandlerLabel → Option (HandlerPc × Bool)
  | ⟨.getState, .called⟩, .access =>
    some (if isDisabled then .returning (.state ⟨.disabled, none⟩) else .checking, isDisabled)
  | ⟨.enable, .called⟩, .access => some (.synchronizing, false)
  | ⟨.disable, .called⟩, .access => some (.returning (.status (.ok ())), true)
  | ⟨.enable, .synchronizing⟩, .synchronize isMockHardware bridge =>
    some (if !isMockHardware && !triggerSceneSynchronization bridge then
      .returning (.status (.error ⟨.internal, "Failed to synchronize collision scene in moveit_planning_service".toList⟩))
    else .checking, isDisabled)
  | ⟨.getState, .checking⟩, .checkHealth report =>
    some (.returning (.state (if report.healthy then ⟨.enabled, none⟩
      else ⟨.error, some ⟨report.title, report.message, report.instructions⟩⟩)), isDisabled)
  | ⟨.enable, .checking⟩, .checkHealth report =>
    some (.returning (.status (if !report.healthy then
        .error ⟨.internal, "Enable failed: ".toList ++ report.title ++ " - ".toList ++ report.message⟩
      else .ok ())), isDisabled)
  | ⟨_, .returning answer⟩, .respond => some (.returned answer, isDisabled)
  | _, _ => none

/-- The flag, and the handlers of the calls made so far. -/
structure ServerState where
  isDisabled : Bool
  handlers : List Handler
  deriving DecidableEq

def ServerState.init : ServerState := ⟨false, []⟩

inductive ServerLabel
  /-- A client calls; calls are numbered in the order in which they are made. -/
  | begin (request : StateRequest)
  | handler (call : ℕ) (label : HandlerLabel)

def serverStep (s : ServerState) : ServerLabel → Option ServerState
  | .begin request => some { s with handlers := s.handlers ++ [⟨request, .called⟩] }
  | .handler call label => do
    let handler ← s.handlers[call]?
    let (pc, isDisabled) ← handlerStep s.isDisabled handler label
    some ⟨isDisabled, s.handlers.set call ⟨handler.request, pc⟩⟩

/-- What a step of a handler tells the log. -/
def Handler.event (call : ℕ) : Handler → HandlerLabel → Option (CallEvent ℕ StateRequest CallAnswer)
  | ⟨request, _⟩, .access => some (.effect call request)
  | ⟨_, .returning answer⟩, .respond => some (.response call answer)
  | _, _ => none

def serverEvent (s : ServerState) : ServerLabel → Option (CallEvent ℕ StateRequest CallAnswer)
  | .begin request => some (.invoke s.handlers.length request)
  | .handler call label => s.handlers[call]?.bind fun handler => handler.event call label

/-- The log of a run of the server. -/
def history (labels : List ServerLabel) : List (CallEvent ℕ StateRequest CallAnswer) :=
  outputs serverStep serverEvent .init labels

/-! ### The flag after requests -/

/-- What a request makes of the flag. -/
def StateRequest.sets : StateRequest → Option Bool
  | getState => none
  | enable => some false
  | disable => some true

def flagAfter (requests : List StateRequest) : Bool := requests.foldl (fun flag request => request.sets.getD flag) false

theorem flagAfter_concat (requests : List StateRequest) (request : StateRequest) :
    flagAfter (requests ++ [request]) = request.sets.getD (flagAfter requests) := by
  rw [flagAfter, List.foldl_append, List.foldl_cons, List.foldl_nil, ← flagAfter]

theorem Call.sets_of_request {call : Call} {request : StateRequest} (h : call.request = some request) :
    call.sets = request.sets := by
  cases call <;> cases h <;> rfl

/-- Calls of the same requests leave the same flag, whatever they meet. -/
theorem afterCalls_flag {calls : List Call} {requests : List StateRequest}
    (h : calls.map Call.request = requests.map some) : (afterCalls calls).isDisabled = flagAfter requests := by
  induction calls using List.reverseRecOn generalizing requests with
  | nil =>
    obtain rfl : requests = [] := by simpa using h
    rfl
  | append_singleton calls call ih =>
    rcases requests.eq_nil_or_concat' with rfl | ⟨requests, request, rfl⟩
    · simp at h
    · rw [List.map_append, List.map_append] at h
      obtain ⟨hcalls, hcall⟩ := List.append_inj' h rfl
      have hrequest : call.request = some request := by simpa using hcall
      rw [afterCalls, List.foldl_append, List.foldl_cons, List.foldl_nil, ← afterCalls, Call.apply_isDisabled,
        Call.sets_of_request hrequest, flagAfter_concat, ih hcalls]

/-! ### Handlers keep to the answers of their calls -/

/-- The answer is that of a call of the request, in a service with the flag `before`. -/
def Answered (before : Bool) (request : StateRequest) (answer : CallAnswer) : Prop :=
  ∃ call : Call, call.request = some request ∧
    ∀ client : MoveItStatusClient, client.isDisabled = before → call.answer client = some answer

/-- How far a handler is whose access of the flag has found `before`. -/
def Handler.Explained (before : Bool) : Handler → Prop
  | ⟨_, .called⟩ => False
  | ⟨request, .synchronizing⟩ => request = .enable
  | ⟨request, .checking⟩ => request = .getState ∧ before = false ∨ request = .enable ∧
      ∃ isMockHardware bridge, (!isMockHardware && !triggerSceneSynchronization bridge) = false
  | ⟨request, .returning answer⟩ => Answered before request answer
  | ⟨request, .returned answer⟩ => Answered before request answer

/-- What the log holds of the call. -/
def Handler.events (call : ℕ) : Handler → List (CallEvent ℕ StateRequest CallAnswer)
  | ⟨request, .called⟩ => [.invoke call request]
  | ⟨request, .returned answer⟩ => [.invoke call request, .effect call request, .response call answer]
  | ⟨request, _⟩ => [.invoke call request, .effect call request]

section Handler
variable {isDisabled isDisabled' : Bool} {handler : Handler} {label : HandlerLabel} {pc : HandlerPc}

theorem answered_getState {report : SubsystemHealthReport} : Answered false .getState
    (.state (if report.healthy then ⟨.enabled, none⟩
      else ⟨.error, some ⟨report.title, report.message, report.instructions⟩⟩)) := by
  refine ⟨.getState report, rfl, ?_⟩
  intro client hclient
  simp [Call.answer, getState, hclient]

theorem answered_getState_disabled : Answered true .getState (.state ⟨.disabled, none⟩) := by
  refine ⟨.getState ⟨true, [], [], []⟩, rfl, ?_⟩
  intro client hclient
  simp [Call.answer, getState, hclient]

theorem answered_disable (before : Bool) : Answered before .disable (.status (.ok ())) :=
  ⟨.disable, rfl, fun _ _ => rfl⟩

theorem answered_enable {before isMockHardware : Bool} {bridge : BridgeExchange} {report : SubsystemHealthReport}
    (h : (!isMockHardware && !triggerSceneSynchronization bridge) = false) :
    Answered before .enable (.status (if !report.healthy then
        .error ⟨.internal, "Enable failed: ".toList ++ report.title ++ " - ".toList ++ report.message⟩
      else .ok ())) := by
  refine ⟨.enable isMockHardware bridge report, rfl, ?_⟩
  intro client _
  rw [Call.answer, enable, if_neg (by simp [h])]
  split_ifs <;> rfl

theorem answered_enable_failed {before isMockHardware : Bool} {bridge : BridgeExchange}
    (h : (!isMockHardware && !triggerSceneSynchronization bridge) = true) :
    Answered before .enable (.status (.error
      ⟨.internal, "Failed to synchronize collision scene in moveit_planning_service".toList⟩)) := by
  refine ⟨.enable isMockHardware bridge ⟨true, [], [], []⟩, rfl, ?_⟩
  intro client _
  rw [Call.answer, enable, if_pos h]

/-- The access of the flag: it finds what it explains, and leaves what the request makes of it. -/
theorem handlerStep_access (h : handlerStep isDisabled handler label = some (pc, isDisabled'))
    (hpc : handler.pc = .called) : label = .access ∧ isDisabled' = handler.request.sets.getD isDisabled ∧
      Handler.Explained isDisabled ⟨handler.request, pc⟩ ∧
      ∀ call, Handler.events call ⟨handler.request, pc⟩ = [.invoke call handler.request, .effect call handler.request] := by
  obtain ⟨request, _⟩ := handler
  subst hpc
  cases label with
  | access =>
    cases request with
    | getState =>
      cases isDisabled with
      | true =>
        cases h
        exact ⟨rfl, rfl, answered_getState_disabled, fun _ => rfl⟩
      | false =>
        cases h
        exact ⟨rfl, rfl, .inl ⟨rfl, rfl⟩, fun _ => rfl⟩
    | enable =>
      cases h
      exact ⟨rfl, rfl, rfl, fun _ => rfl⟩
    | disable =>
      cases h
      exact ⟨rfl, rfl, answered_disable isDisabled, fun _ => rfl⟩
  | _ => cases request <;> cases h

/-- The steps after it keep to what was found, and leave the flag alone. -/
theorem handlerStep_after (h : handlerStep isDisabled handler label = some (pc, isDisabled'))
    (hpc : handler.pc ≠ .called) : isDisabled' = isDisabled ∧
      (∀ before, handler.Explained before → Handler.Explained before ⟨handler.request, pc⟩) ∧
      ∀ call, Handler.events call ⟨handler.request, pc⟩ = handler.events call ++ (handler.event call label).toList ∧
        (handler.event call label).bind CallEvent.effect? = none := by
  obtain ⟨request, pc'⟩ := handler
  cases pc' with
  | called => exact absurd rfl hpc
  | synchronizing =>
    cases label with
    | synchronize isMockHardware bridge =>
      cases request with
      | enable =>
        rw [handlerStep] at h
        cases hfails : !isMockHardware && !triggerSceneSynchronization bridge with
        | true =>
          rw [hfails] at h
          cases h
          exact ⟨rfl, fun before _ => answered_enable_failed hfails, fun _ => ⟨rfl, rfl⟩⟩
        | false =>
          rw [hfails] at h
          cases h
          exact ⟨rfl, fun before _ => .inr ⟨rfl, _, _, hfails⟩, fun _ => ⟨rfl, rfl⟩⟩
      | _ => cases h
    | _ => cases request <;> cases h
  | checking =>
    cases label with
    | checkHealth report =>
      cases request with
      | getState =>
        cases h
        refine ⟨rfl, ?_, fun _ => ⟨rfl, rfl⟩⟩
        intro before hbefore
        rcases hbefore with ⟨-, rfl⟩ | ⟨hrequest, -⟩
        · exact answered_getState
        · cases hrequest
      | enable =>
        cases h
        refine ⟨rfl, ?_, fun _ => ⟨rfl, rfl⟩⟩
        intro before hbefore
        rcases hbefore with ⟨hrequest, -⟩ | ⟨-, isMockHardware, bridge, hsynced⟩
        · cases hrequest
        · exact answered_enable hsynced
      | disable => cases h
    | _ => cases request <;> cases h
  | returning answer =>
    cases label with
    | respond =>
      cases request <;> cases h <;> exact ⟨rfl, fun _ hbefore => hbefore, fun _ => ⟨rfl, rfl⟩⟩
    | _ => cases request <;> cases h
  | returned answer => cases request <;> cases label <;> cases h

theorem Handler.event_call {call : ℕ} {e : CallEvent ℕ StateRequest CallAnswer}
    (h : handler.event call label = some e) : e.call = call := by
  obtain ⟨request, pc⟩ := handler
  cases label <;> cases pc <;> cases h <;> rfl

end Handler

/-! ### Runs of the server -/

/-- What the log says about the state. -/
structure ServerInv (log : List (CallEvent ℕ StateRequest CallAnswer)) (s : ServerState) : Prop where
  events : ∀ call, eventsOf log call = s.handlers[call]?.elim [] (Handler.events call)
  flag : s.isDisabled = flagAfter ((effects log).map Prod.snd)
  explained : ∀ before call request after, effects log = before ++ (call, request) :: after →
    ∃ handler, s.handlers[call]? = some handler ∧ handler.request = request ∧
      handler.Explained (flagAfter (before.map Prod.snd))

theorem serverInv_init : ServerInv [] .init where
  events _ := rfl
  flag := rfl
  explained before call request after h := by simp at h

theorem serverInv_begin {log : List (CallEvent ℕ StateRequest CallAnswer)} {s : ServerState}
    (hinv : ServerInv log s) (request : StateRequest) :
    ServerInv (log ++ [.invoke s.handlers.length request]) ⟨s.isDisabled, s.handlers ++ [⟨request, .called⟩]⟩ where
  events call := by
    rw [eventsOf_append, hinv.events]
    by_cases hcall : call = s.handlers.length
    · subst hcall
      rw [eventsOf_cons_self (i := s.handlers.length) rfl]
      simp [eventsOf, Handler.events]
    · rw [eventsOf_cons_ne (Ne.symm hcall), eventsOf, List.filter_nil, List.append_nil]
      rcases Nat.lt_or_ge call s.handlers.length with hlt | hge
      · rw [List.getElem?_append_left hlt]
      · have hlt : s.handlers.length + 1 ≤ call := by omega
        rw [List.getElem?_eq_none hge, List.getElem?_eq_none (by simpa using hlt)]
  flag := by simpa [effects_append] using hinv.flag
  explained before call request' after h := by
    rw [effects_append, effects_invoke, effects_nil, List.append_nil] at h
    obtain ⟨handler, hhandler, hrequest, hexplained⟩ := hinv.explained before call request' after h
    refine ⟨handler, ?_, hrequest, hexplained⟩
    rw [List.getElem?_append_left (List.getElem?_eq_some_iff.mp hhandler).1]
    exact hhandler

theorem eventsOf_event {log : List (CallEvent ℕ StateRequest CallAnswer)} {handler : Handler} {label : HandlerLabel}
    {call : ℕ} (other : ℕ) : eventsOf (log ++ (handler.event call label).toList) other =
      if other = call then eventsOf log call ++ (handler.event call label).toList else eventsOf log other := by
  rw [eventsOf_append]
  cases hevent : handler.event call label with
  | none =>
    split_ifs with hother
    · simp [eventsOf, hother]
    · simp [eventsOf]
  | some e =>
    have hcall := Handler.event_call hevent
    split_ifs with hother
    · rw [Option.toList_some, eventsOf_cons_self (by rw [hcall, hother]), hother]
      simp [eventsOf]
    · rw [Option.toList_some, eventsOf_cons_ne (by rw [hcall]; exact Ne.symm hother)]
      simp [eventsOf]

theorem serverInv_handler {log : List (CallEvent ℕ StateRequest CallAnswer)} {s : ServerState} {call : ℕ}
    {handler : Handler} {label : HandlerLabel} {pc : HandlerPc} {isDisabled : Bool} (hinv : ServerInv log s)
    (hhandler : s.handlers[call]? = some handler)
    (h : handlerStep s.isDisabled handler label = some (pc, isDisabled)) :
    ServerInv (log ++ (handler.event call label).toList) ⟨isDisabled, s.handlers.set call ⟨handler.request, pc⟩⟩ := by
  have hlt : call < s.handlers.length := (List.getElem?_eq_some_iff.mp hhandler).1
  have hself : (s.handlers.set call ⟨handler.request, pc⟩)[call]? = some ⟨handler.request, pc⟩ :=
    List.getElem?_set_self hlt
  have hothers : ∀ other, other ≠ call → (s.handlers.set call ⟨handler.request, pc⟩)[other]? = s.handlers[other]? := by
    intro other hother
    exact List.getElem?_set_ne (Ne.symm hother)
  have hevents : eventsOf log call = handler.events call := by rw [hinv.events, hhandler, Option.elim_some]
  by_cases hpc : handler.pc = .called
  · obtain ⟨rfl, rfl, hexplained, hpcEvents⟩ := handlerStep_access h hpc
    have hevent : (handler.event call .access).toList = [.effect call handler.request] := rfl
    have hfresh : handler.events call = [.invoke call handler.request] := by
      obtain ⟨request, _⟩ := handler
      subst hpc
      rfl
    refine ⟨?_, ?_, ?_⟩
    · intro other
      rw [eventsOf_event]
      split_ifs with hother
      · rw [hother, hself, hevents, hevent, Option.elim_some, hpcEvents, hfresh]
        rfl
      · rw [hothers other hother, hinv.events]
    · rw [hevent, effects_append, effects_effect, effects_nil, List.map_append, List.map_singleton, flagAfter_concat,
        ← hinv.flag]
    · intro before other request after hsplit
      rw [hevent, effects_append, effects_effect, effects_nil] at hsplit
      rcases after.eq_nil_or_concat' with rfl | ⟨after, last, rfl⟩
      · obtain ⟨rfl, hlast⟩ := List.append_inj' hsplit rfl
        cases hlast
        refine ⟨_, hself, rfl, ?_⟩
        rw [← hinv.flag]
        exact hexplained
      · rw [← List.cons_append, ← List.append_assoc] at hsplit
        have hbefore := (List.append_inj' hsplit rfl).1
        obtain ⟨found, hfound, hrequest, hfoundExplained⟩ := hinv.explained before other request after hbefore
        have hother : other ≠ call := by
          rintro rfl
          rw [hhandler] at hfound
          cases hfound
          obtain ⟨request, _⟩ := handler
          subst hpc
          exact hfoundExplained
        exact ⟨found, by rw [hothers other hother, hfound], hrequest, hfoundExplained⟩
  · obtain ⟨rfl, hexplained, hnext⟩ := handlerStep_after h hpc
    obtain ⟨hpcEvents, hnone⟩ := hnext call
    have heffects : effects (handler.event call label).toList = [] := by
      cases hevent : handler.event call label with
      | none => rfl
      | some e =>
        rw [hevent, Option.bind_some] at hnone
        simp [effects, hnone]
    refine ⟨?_, ?_, ?_⟩
    · intro other
      rw [eventsOf_event]
      split_ifs with hother
      · rw [hother, hself, hevents, Option.elim_some, hpcEvents]
      · rw [hothers other hother, hinv.events]
    · rw [effects_append, heffects, List.append_nil]
      exact hinv.flag
    · intro before other request after hsplit
      rw [effects_append, heffects, List.append_nil] at hsplit
      obtain ⟨found, hfound, hrequest, hbefore⟩ := hinv.explained before other request after hsplit
      by_cases hother : other = call
      · subst hother
        rw [hhandler] at hfound
        cases hfound
        exact ⟨_, hself, hrequest, hexplained _ hbefore⟩
      · exact ⟨found, by rw [hothers other hother, hfound], hrequest, hbefore⟩

theorem serverInv_step (log : List (CallEvent ℕ StateRequest CallAnswer)) (s : ServerState) (l : ServerLabel)
    (t : ServerState) (hinv : ServerInv log s) (h : serverStep s l = some t) :
    ServerInv (log ++ (serverEvent s l).toList) t := by
  cases l with
  | begin request =>
    cases h
    exact serverInv_begin hinv request
  | handler call label =>
    obtain ⟨handler, hhandler, h⟩ := Option.bind_eq_some_iff.mp h
    obtain ⟨⟨pc, isDisabled⟩, hstep, h⟩ := Option.bind_eq_some_iff.mp h
    cases h
    rw [serverEvent, hhandler, Option.bind_some]
    exact serverInv_handler hinv hhandler hstep

theorem serverInv_of_run {labels : List ServerLabel} {s : ServerState} (h : exec serverStep .init labels = some s) :
    ServerInv (history labels) s := by
  have hinv := outputs_invariant (I := ServerInv) serverInv_step h serverInv_init
  simpa [history] using hinv

theorem Handler.callEvents (call : ℕ) (handler : Handler) : CallEvents call (handler.events call) := by
  obtain ⟨request, pc⟩ := handler
  cases pc with
  | called => exact .invoked request
  | returned answer => exact .answered request answer
  | _ => exact .effected request

theorem ServerInv.atomic {log : List (CallEvent ℕ StateRequest CallAnswer)} {s : ServerState} (h : ServerInv log s) :
    Atomic log := by
  intro call
  rw [h.events]
  cases s.handlers[call]? with
  | none => exact .absent
  | some handler => exact handler.callEvents call

theorem ServerInv.pc_of_response {log : List (CallEvent ℕ StateRequest CallAnswer)} {s : ServerState} {call : ℕ}
    {handler : Handler} {answer : CallAnswer} (h : ServerInv log s) (hhandler : s.handlers[call]? = some handler)
    (hanswer : .response call answer ∈ log) : handler.pc = .returned answer := by
  have hmem : .response call answer ∈ eventsOf log call := mem_eventsOf.mpr hanswer
  rw [h.events, hhandler, Option.elim_some] at hmem
  obtain ⟨request, pc⟩ := handler
  cases pc with
  | returned answer' =>
    have heq : answer = answer' := by simpa [Handler.events] using hmem
    rw [heq]
  | _ => simp [Handler.events] at hmem

theorem StateRequest.exists_call (request : StateRequest) : ∃ call : Call, call.request = some request := by
  cases request with
  | getState => exact ⟨.getState ⟨true, [], [], []⟩, rfl⟩
  | enable => exact ⟨.enable true ⟨true, none⟩ ⟨true, [], [], []⟩, rfl⟩
  | disable => exact ⟨.disable, rfl⟩

theorem exists_order {labels : List ServerLabel} {s : ServerState} (h : exec serverStep .init labels = some s) :
    ∃ order, Linearizes serviceObject (history labels) order ∧
      order.map (fun call => call.2.request) = (effects (history labels)).map fun call => some call.2 := by
  have hinv := serverInv_of_run h
  apply linearizes_of_effects hinv.atomic
  intro before call request after hsplit
  obtain ⟨handler, hhandler, rfl, hexplained⟩ := hinv.explained before call request after hsplit
  by_cases hreturned : ∃ answer, handler.pc = .returned answer
  · obtain ⟨answer, hpc⟩ := hreturned
    obtain ⟨request, _⟩ := handler
    subst hpc
    obtain ⟨met, hmet, hmetAnswer⟩ := hexplained
    refine ⟨met, hmet, ?_⟩
    intro answer' hanswer' calls hcalls
    cases hinv.pc_of_response hhandler hanswer'
    apply hmetAnswer
    apply afterCalls_flag
    rw [List.map_map]
    exact hcalls
  · obtain ⟨met, hmet⟩ := handler.request.exists_call
    refine ⟨met, hmet, ?_⟩
    intro answer hanswer
    exact absurd ⟨answer, hinv.pc_of_response hhandler hanswer⟩ hreturned

namespace Sample

/-- An `Enable` that is overtaken by a `Disable` returns OK, and the service is disabled. -/
def overtakenEnable : List ServerLabel :=
  [.begin .enable, .begin .disable, .handler 0 .access, .handler 1 .access, .handler 1 .respond,
    .handler 0 (.synchronize true ⟨false, none⟩), .handler 0 (.checkHealth ⟨true, [], [], []⟩), .handler 0 .respond,
    .begin .getState, .handler 2 .access, .handler 2 .respond]

def overtakenState : ServerState :=
  ⟨true, [⟨.enable, .returned (.status (.ok ()))⟩, ⟨.disable, .returned (.status (.ok ()))⟩,
    ⟨.getState, .returned (.state ⟨.disabled, none⟩)⟩]⟩

end Sample

/-- However the handlers interleave, the answers are those of the calls made one after
another, in an order in which no call comes after one made only after its answer, and these
calls leave the flag as it is. -/
theorem calls_linearizable {labels : List ServerLabel} {s : ServerState} (h : exec serverStep .init labels = some s) :
    ∃ order, Linearizes serviceObject (history labels) order ∧
      (afterCalls (order.map Prod.snd)).isDisabled = s.isDisabled := by
  obtain ⟨order, horder, hrequests⟩ := exists_order h
  refine ⟨order, horder, ?_⟩
  rw [(serverInv_of_run h).flag]
  apply afterCalls_flag
  rw [List.map_map, List.map_map]
  exact hrequests

theorem calls_linearizable_overtaken : ∃ order, Linearizes serviceObject (history Sample.overtakenEnable) order ∧
    (afterCalls (order.map Prod.snd)).isDisabled = true :=
  calls_linearizable (s := Sample.overtakenState) (by decide +kernel)

/-! ### What `GetState` tells -/

theorem getState_of_answer {client : MoveItStatusClient} {call : Call} {state : SelfState}
    (h : call.answer client = some (.state state)) : state.stateCode = .disabled ↔ client.isDisabled = true := by
  cases call with
  | getState report =>
    obtain rfl : getState client report = state := by simpa [Call.answer] using h
    exact getState_disabled_iff
  | _ => simp [Call.answer] at h

theorem isDisabled_of_no_enable {client : MoveItStatusClient} {calls : List Call} (hclient : client.isDisabled = true)
    (h : ∀ call ∈ calls, call.request ≠ some .enable) : (calls.foldl Call.apply client).isDisabled = true := by
  induction calls generalizing client with
  | nil => exact hclient
  | cons call calls ih =>
    apply ih
    · rw [Call.apply_isDisabled]
      cases call with
      | enable isMockHardware bridge report => exact absurd rfl (h (.enable isMockHardware bridge report) (by simp))
      | disable => rfl
      | _ => exact hclient
    · intro other hother
      exact h other (by simp [hother])

theorem disable_of_isDisabled {calls : List Call} (h : (afterCalls calls).isDisabled = true) :
    ∃ before call after, calls = before ++ call :: after ∧ call.request = some .disable ∧
      ∀ other ∈ after, other.request ≠ some .enable := by
  rw [afterCalls_isDisabled] at h
  have hset : lastSet Call.sets (fun _ => False) calls = some true := by
    cases hlast : lastSet Call.sets (fun _ => False) calls with
    | none => simp [hlast] at h
    | some flag => simpa [hlast] using h
  obtain ⟨before, call, after, rfl, hcall, -, hafter⟩ := lastSet_eq_some_iff.mp hset
  refine ⟨before, call, after, rfl, ?_, ?_⟩
  · cases call with
    | disable => rfl
    | _ => simp [Call.sets] at hcall
  · intro other hother hrequest
    have hnone := (hafter other hother).1
    rw [Call.sets_of_request hrequest] at hnone
    cases hnone

section Client
variable {labels : List ServerLabel} {s : ServerState} {i j : ℕ} {state : SelfState}

theorem request_of_asked {log : List (CallEvent ℕ StateRequest CallAnswer)} {order : List (ℕ × Call)} {call : Call}
    {request : StateRequest} (hatomic : Atomic log) (horder : Linearizes serviceObject log order)
    (hmem : (i, call) ∈ order) (hinvoke : .invoke i request ∈ log) : call.request = some request := by
  obtain ⟨asked, hasked, hinvoke'⟩ := horder.asked i call hmem
  rw [hatomic.request_eq hinvoke hinvoke']
  exact hasked

/-- What a client may conclude from a state it gets. If the service is not reported as
disabled although a `Disable` was answered before the call was made, then there is an
`Enable` that was neither answered before this `Disable` was made nor made after the answer.
If it is reported as disabled, then there is a `Disable`, not made after the answer, such
that no `Enable` made after the answer of it was answered before the call. -/
theorem state_tells (h : exec serverStep .init labels = some s) (hanswer : .response j (.state state) ∈ history labels) :
    (state.stateCode ≠ .disabled → ∀ i, .invoke i .disable ∈ history labels → Precedes (history labels) i j →
      ∃ k, .invoke k .enable ∈ history labels ∧ ¬Precedes (history labels) k i ∧ ¬Precedes (history labels) j k) ∧
    (state.stateCode = .disabled → ∃ i, .invoke i .disable ∈ history labels ∧ ¬Precedes (history labels) j i ∧
      ∀ k, .invoke k .enable ∈ history labels → Precedes (history labels) i k → ¬Precedes (history labels) k j) := by
  have hatomic := (serverInv_of_run h).atomic
  obtain ⟨order, horder, -⟩ := exists_order h
  obtain ⟨before, d, after, rfl, hd⟩ := horder.place hanswer
  have hdisabled := getState_of_answer hd
  constructor
  · intro hstate i hi hij
    obtain ⟨c, hc⟩ := horder.mem_before hij
    obtain ⟨front, mid, rfl⟩ := List.append_of_mem hc
    have hrequest : c.request = some .disable := request_of_asked hatomic horder (by simp) hi
    by_contra hnone
    apply hstate
    apply hdisabled.mpr
    rw [List.map_append, List.foldl_append, List.map_cons, List.foldl_cons]
    apply isDisabled_of_no_enable
    · show (Call.apply _ c).isDisabled = true
      rw [Call.apply_isDisabled, Call.sets_of_request hrequest]
      rfl
    · intro call hcall henable
      obtain ⟨entry, hentry, rfl⟩ := List.mem_map.mp hcall
      obtain ⟨request, hasked, hinvoke⟩ := horder.asked entry.1 entry.2 (by simp [hentry])
      cases hasked.symm.trans henable
      refine hnone ⟨entry.1, hinvoke, ?_, ?_⟩
      · rw [List.append_assoc] at horder
        exact horder.not_precedes (x := entry) (by simp [hentry])
      · exact horder.not_precedes_before (x := entry) (by simp [hentry])
  · intro hstate
    have hflag : (afterCalls (before.map Prod.snd)).isDisabled = true := hdisabled.mp hstate
    obtain ⟨front, c, mid, hsplit, hrequest, hmid⟩ := disable_of_isDisabled hflag
    obtain ⟨frontCalls, rest, rfl, rfl, hrest⟩ := List.map_eq_append_iff.mp hsplit
    obtain ⟨⟨i, c⟩, midCalls, rfl, rfl, rfl⟩ := List.map_eq_cons_iff.mp hrest
    refine ⟨i, ?_, ?_, ?_⟩
    · obtain ⟨request, hasked, hinvoke⟩ := horder.asked i c (by simp)
      cases hasked.symm.trans hrequest
      exact hinvoke
    · exact horder.not_precedes_before (x := (i, c)) (by simp)
    · intro k hk hik hkj
      obtain ⟨e, he⟩ := horder.mem_before hkj
      have henable : e.request = some .enable := request_of_asked hatomic horder (List.mem_append_left _ he) hk
      rcases List.mem_append.mp he with hfront | hrest
      · rw [List.append_assoc] at horder
        exact horder.not_precedes_before (x := (k, e)) hfront hik
      · rcases List.mem_cons.mp hrest with hself | hmem
        · cases hself
          cases hrequest.symm.trans henable
        · exact hmid e (List.mem_map.mpr ⟨(k, e), hmem, rfl⟩) henable

end Client

theorem state_tells_overtaken : ∃ i, .invoke i .disable ∈ history Sample.overtakenEnable ∧
    ¬Precedes (history Sample.overtakenEnable) 2 i ∧ ∀ k, .invoke k .enable ∈ history Sample.overtakenEnable →
      Precedes (history Sample.overtakenEnable) i k → ¬Precedes (history Sample.overtakenEnable) k 2 :=
  (state_tells (s := Sample.overtakenState) (by decide +kernel)
    (show CallEvent.response 2 (CallAnswer.state ⟨.disabled, none⟩) ∈ _ by decide +kernel)).2 rfl

end MoveitPlanning.Service
