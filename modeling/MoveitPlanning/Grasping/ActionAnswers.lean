import MoveitPlanning.Grasping.ActionProtocol

/-! What the client gets. Whatever the order of the steps, it returns what
`callGraspPlanningAction` makes of an exchange, and a result it returns is that of one run
of `execute_plan_grasps_action` on its goal. Only a goal that somebody has given up on is
cancelled, and a goal that the client has given up on is. So the skill has grasps only
from a goal that has succeeded. -/

namespace MoveitPlanning.Grasping

open Foundation Scene

section Step
variable {fp : Rounding} {sort : StdSort qualityGreater} {goal : Goal}

/-! ### The answer -/

/-- A result is that of the terminal call, or is not known any more. -/
def ActionSystem.Delivered (s : ActionSystem) (code : ResultCode) (result : Result) : Prop :=
  (code = .unknown ∧ s.expired = true) ∨
    ∃ handle terminal, s.handle = some handle ∧ handle.terminals = [(terminal, result)] ∧ code = terminal.code

/-- What the client has met, as far as it has got. -/
structure ActionSystem.Explains (s : ActionSystem) (exchange : ActionExchange) : Prop where
  rejected : exchange.serverReachable = true → exchange.goalAnswered = true → exchange.goalAccepted = false →
    s.handle = none ∧ .goal ∉ s.requests
  accepted : exchange.serverReachable = true → exchange.goalAnswered = true → exchange.goalAccepted = true →
    s.handle ≠ none
  received : exchange.serverReachable = true → exchange.goalAnswered = true → exchange.goalAccepted = true →
    exchange.resultReceived = true → s.Delivered exchange.code exchange.result

variable (fp sort goal) in
structure ProtocolInvariant (s : ActionSystem) : Prop where
  traffic : Traffic s
  handled : ∀ handle, s.handle = some handle → Handled fp sort goal handle
  acceptable : s.handle ≠ none → handlePlanGraspsGoal true goal = .acceptAndExecute
  delivered : ∀ code result, .result code result ∈ s.replies → s.Delivered code result
  explained : ∀ answer, s.client = .returned answer →
    ∃ exchange, answer = callGraspPlanningAction exchange ∧ s.Explains exchange

theorem protocolInvariant_init : ProtocolInvariant fp sort goal .init where
  traffic := traffic_init
  handled _ h := by cases h
  acceptable h := absurd rfl h
  delivered _ _ h := absurd h (Multiset.notMem_zero _)
  explained _ h := by cases h

theorem handled_step {s s' : ActionSystem} {l : ProtocolLabel} (h : ProtocolInvariant fp sort goal s)
    (hstep : protocolStep fp sort goal s l = some s') {handle : ActionState} (hhandle : s'.handle = some handle) :
    Handled fp sort goal handle := by
  cases handleStep hstep with
  | same heq => exact h.handled handle (heq ▸ hhandle)
  | accepted hmem hgoal heq =>
    obtain rfl := Option.some.inj (heq.symm.trans hhandle)
    exact Reachable.init _
  | step act before after hbefore hact heq =>
    obtain rfl := Option.some.inj (heq.symm.trans hhandle)
    exact (h.handled before hbefore).next hact

theorem handle_of_step {s s' : ActionSystem} {l : ProtocolLabel} (h : Traffic s)
    (hstep : protocolStep fp sort goal s l = some s') {handle : ActionState} (hhandle : s.handle = some handle) :
    ∃ handle', s'.handle = some handle' ∧ (handle.phase = .ended → handle' = handle) := by
  cases handleStep hstep with
  | same heq => exact ⟨handle, heq.trans hhandle, fun _ => rfl⟩
  | accepted hmem => exact absurd hmem (h.goal_notMem hhandle)
  | step act before after hbefore hact heq =>
    obtain rfl := Option.some.inj (hbefore.symm.trans hhandle)
    refine ⟨after, heq, fun hended => ?_⟩
    rw [actionStep_of_ended hended] at hact
    cases hact

theorem expired_step {s s' : ActionSystem} {l : ProtocolLabel} (hstep : protocolStep fp sort goal s l = some s')
    (h : s.expired = true) : s'.expired = true := by
  cases protocolStep_eq_some hstep with
  | act l handle handle' hhandle hsync hown hact =>
    unfold ActionSystem.proceed
    split <;> exact h
  | expire => rfl
  | _ => exact h

theorem ActionSystem.Delivered.of_step {s s' : ActionSystem} {l : ProtocolLabel} {code : ResultCode} {result : Result}
    (hd : s.Delivered code result) (h : ProtocolInvariant fp sort goal s)
    (hstep : protocolStep fp sort goal s l = some s') : s'.Delivered code result := by
  rcases hd with ⟨hcode, hexpired⟩ | ⟨handle, terminal, hhandle, hterminals, hcode⟩
  · exact .inl ⟨hcode, expired_step hstep hexpired⟩
  · obtain ⟨handle', hhandle', heq⟩ := handle_of_step h.traffic hstep hhandle
    obtain rfl := heq ((h.handled handle hhandle).ended hterminals)
    exact .inr ⟨_, terminal, hhandle', hterminals, hcode⟩

/-- Without the goal in flight, none is accepted. -/
theorem notAccepted_step {s s' : ActionSystem} {l : ProtocolLabel} (hstep : protocolStep fp sort goal s l = some s')
    (hhandle : s.handle = none) (hgoal : .goal ∉ s.requests) (hclient : s.client ≠ .connecting) :
    s'.handle = none ∧ .goal ∉ s'.requests := by
  have herase : ∀ request, .goal ∉ s.requests.erase request := fun request hmem =>
    hgoal (Multiset.mem_of_mem_erase hmem)
  cases protocolStep_eq_some hstep with
  | serverFound hc => exact absurd hc hclient
  | resultTimeout hc => exact ⟨hhandle, by simpa [ActionSystem.send] using hgoal⟩
  | accepted hmem hc => exact ⟨hhandle, by simpa [ActionSystem.send] using hgoal⟩
  | acceptGoal sceneReady hmem => exact absurd hmem hgoal
  | rejectGoal sceneReady hmem => exact absurd hmem hgoal
  | answerResult sceneReady reply hmem hreply => exact ⟨hhandle, herase _⟩
  | keepRequest sceneReady hmem hreply => exact ⟨hhandle, herase _⟩
  | cancel sceneReady hmem => exact ⟨by simp [ActionSystem.cancelGoal, hhandle], herase _⟩
  | act l handle handle' hsome => simp [hhandle] at hsome
  | cancelByOther => exact ⟨by simp [ActionSystem.cancelGoal, hhandle], hgoal⟩
  | loseRequest request hmem => exact ⟨hhandle, herase _⟩
  | _ => exact ⟨hhandle, hgoal⟩

theorem ActionSystem.Explains.of_step {s s' : ActionSystem} {l : ProtocolLabel} {exchange : ActionExchange}
    (he : s.Explains exchange) (h : ProtocolInvariant fp sort goal s) (hclient : s.client ≠ .connecting)
    (hstep : protocolStep fp sort goal s l = some s') : s'.Explains exchange where
  rejected hr ha hacc := notAccepted_step hstep (he.rejected hr ha hacc).1 (he.rejected hr ha hacc).2 hclient
  accepted hr ha hacc := by
    obtain ⟨handle, hhandle⟩ := Option.ne_none_iff_exists'.mp (he.accepted hr ha hacc)
    obtain ⟨handle', hhandle', -⟩ := handle_of_step h.traffic hstep hhandle
    simp [hhandle']
  received hr ha hacc hres := (he.received hr ha hacc hres).of_step h hstep

theorem resultReply_delivered {s : ActionSystem} (h : ∀ handle, s.handle = some handle → Handled fp sort goal handle)
    (hhandle : s.handle ≠ none) {code : ResultCode} {result : Result}
    (hreply : s.resultReply = some (.result code result)) : s.Delivered code result := by
  unfold ActionSystem.resultReply at hreply
  split at hreply
  · rename_i hnone
    exact absurd hnone hhandle
  · rename_i handle hsome
    split_ifs at hreply with hexpired
    · obtain ⟨rfl, rfl⟩ := Reply.result.inj (Option.some.inj hreply)
      exact .inl ⟨rfl, hexpired⟩
    · obtain ⟨call, hcall, hcode⟩ := Option.map_eq_some_iff.mp hreply
      obtain ⟨rfl, rfl⟩ := Reply.result.inj hcode
      rcases (h handle hsome).terminals with ⟨-, hnil⟩ | ⟨-, only, honly⟩
      · rw [hnil] at hcall
        cases hcall
      · rw [honly] at hcall
        obtain rfl := Option.some.inj hcall
        exact .inr ⟨handle, _, hsome, honly, rfl⟩

/-- A reply with a result that is in flight after a step was so before, or has just been made. -/
theorem delivered_step {s s' : ActionSystem} {l : ProtocolLabel} (h : ProtocolInvariant fp sort goal s)
    (hstep : protocolStep fp sort goal s l = some s') {code : ResultCode} {result : Result}
    (hmem : .result code result ∈ s'.replies) : s'.Delivered code result := by
  have hold : .result code result ∈ s.replies → s'.Delivered code result := fun hmem =>
    (h.delivered code result hmem).of_step h hstep
  cases protocolStep_eq_some hstep with
  | accepted _ hclient => exact hold (Multiset.mem_of_mem_erase hmem)
  | rejected _ hclient => exact hold (Multiset.mem_of_mem_erase hmem)
  | result _ _ _ hclient => exact hold (Multiset.mem_of_mem_erase hmem)
  | dropped => exact hold (Multiset.mem_of_mem_erase hmem)
  | loseReply => exact hold (Multiset.mem_of_mem_erase hmem)
  | acceptGoal => exact hold ((Multiset.mem_cons.mp hmem).resolve_left Reply.noConfusion)
  | rejectGoal => exact hold ((Multiset.mem_cons.mp hmem).resolve_left Reply.noConfusion)
  | answerResult sceneReady reply hrequest hreply =>
    rcases Multiset.mem_cons.mp hmem with heq | hmem
    · obtain ⟨handle, hhandle⟩ := h.traffic.exists_handle (.inl ⟨_, hrequest, by simp⟩)
      have hdelivered : s.Delivered code result :=
        resultReply_delivered h.handled (by simp [hhandle]) (heq ▸ hreply)
      exact hdelivered.of_step h hstep
    · exact hold hmem
  | act l handle handle' hhandle hsync hown hact =>
    have hnext : Handled fp sort goal handle' := (h.handled handle hhandle).next hact
    rcases s.proceed_eq hnext with ⟨-, heq⟩ | ⟨-, call, hcall, heq⟩
    · rw [heq] at hmem
      exact hold hmem
    · rw [heq] at hmem ⊢
      rcases Multiset.mem_add.mp hmem with hmem | hmem
      · obtain ⟨rfl, rfl⟩ := Reply.result.inj (Multiset.eq_of_mem_replicate hmem)
        exact .inr ⟨handle', call.1, rfl, hcall, rfl⟩
      · rw [← heq]
        exact hold hmem
  | _ => exact hold hmem

theorem resultAnswer_eq (code : ResultCode) (result : Result) :
    resultAnswer code result = callGraspPlanningAction ⟨true, true, true, true, code, result⟩ := by
  cases code <;> rfl

theorem explained_step {s s' : ActionSystem} {l : ProtocolLabel} (h : ProtocolInvariant fp sort goal s)
    (hstep : protocolStep fp sort goal s l = some s') {answer : Except Failure Result}
    (hclient : s'.client = .returned answer) :
    ∃ exchange, answer = callGraspPlanningAction exchange ∧ s'.Explains exchange := by
  have hold : s.client = .returned answer →
      ∃ exchange, answer = callGraspPlanningAction exchange ∧ s'.Explains exchange := fun hreturned => by
    obtain ⟨exchange, heq, he⟩ := h.explained answer hreturned
    exact ⟨exchange, heq, he.of_step h (by simp [hreturned]) hstep⟩
  let fresh : Result := ⟨[], .undefined⟩
  cases protocolStep_eq_some hstep with
  | serverFound => cases hclient
  | accepted => cases hclient
  | connectTimeout =>
    obtain rfl := ClientPhase.returned.inj hclient
    exact ⟨⟨false, false, false, false, .unknown, fresh⟩, rfl, by simp, by simp, by simp⟩
  | goalTimeout =>
    obtain rfl := ClientPhase.returned.inj hclient
    exact ⟨⟨true, false, false, false, .unknown, fresh⟩, rfl, by simp, by simp, by simp⟩
  | resultTimeout hawaiting =>
    obtain rfl := ClientPhase.returned.inj hclient
    obtain ⟨handle, hhandle⟩ := h.traffic.exists_handle (.inr (.inr hawaiting))
    exact ⟨⟨true, true, true, false, .unknown, fresh⟩, rfl, by simp,
        fun _ _ _ => by simp [ActionSystem.send, hhandle], by simp⟩
  | rejected hmem hsending =>
    obtain rfl := ClientPhase.returned.inj hclient
    refine ⟨⟨true, true, false, false, .unknown, fresh⟩, rfl, fun _ _ _ => ⟨h.traffic.accepted hmem, fun hgoal => ?_⟩,
      by simp, by simp⟩
    rw [(h.traffic.goalOnce hgoal).2.1] at hmem
    exact absurd hmem (Multiset.notMem_zero _)
  | result code result hmem hawaiting =>
    obtain rfl := ClientPhase.returned.inj hclient
    obtain ⟨handle, hhandle⟩ := h.traffic.exists_handle (.inr (.inr hawaiting))
    exact ⟨_, resultAnswer_eq code result, by simp, fun _ _ _ => by simp [hhandle],
      fun _ _ _ _ => (h.delivered code result hmem).of_step h hstep⟩
  | act l handle handle' hhandle hsync hown hact =>
    refine hold (hclient ▸ ?_)
    unfold ActionSystem.proceed
    split <;> rfl
  | _ => exact hold hclient

theorem protocolInvariant_step {s s' : ActionSystem} {l : ProtocolLabel} (h : ProtocolInvariant fp sort goal s)
    (hstep : protocolStep fp sort goal s l = some s') : ProtocolInvariant fp sort goal s' where
  traffic := traffic_step h.traffic hstep
  handled _ := handled_step h hstep
  acceptable hhandle := by
    cases handleStep hstep with
    | same heq => exact h.acceptable (heq ▸ hhandle)
    | accepted hmem hgoal heq => exact hgoal
    | step l before after hbefore => exact h.acceptable (by simp [hbefore])
  delivered _ _ := delivered_step h hstep
  explained _ := explained_step h hstep

theorem protocolInvariant_of_run {s : ActionSystem} {ls : List ProtocolLabel}
    (hrun : exec (protocolStep fp sort goal) .init ls = some s) : ProtocolInvariant fp sort goal s :=
  Reachable.invariant ⟨ls, hrun⟩ protocolInvariant_init fun _ _ _ => protocolInvariant_step

/-- The client returns what `callGraspPlanningAction` makes of an exchange. Where that
comes to a result, it is the exchange of one run of `execute_plan_grasps_action` on the
goal, which the server accepted, unless the server had forgotten the goal. -/
theorem answer_of_exchange {s : ActionSystem} {ls : List ProtocolLabel} {answer : Except Failure Result}
    (hrun : exec (protocolStep fp sort goal) .init ls = some s) (hclient : s.client = .returned answer) :
    ∃ exchange, answer = callGraspPlanningAction exchange ∧
      (exchange.serverReachable = true → exchange.goalAnswered = true → exchange.goalAccepted = false →
        s.handle = none) ∧
      (exchange.serverReachable = true → exchange.goalAnswered = true → exchange.goalAccepted = true →
        handlePlanGraspsGoal true goal = .acceptAndExecute ∧ (exchange.resultReceived = true →
          exchange.code = .unknown ∧ s.expired = true ∨
            ∃ isCanceling env, s.handle.bind ActionState.run =
                some (executePlanGraspsAction fp sort isCanceling env goal) ∧
              exchange.code = (executePlanGraspsAction fp sort isCanceling env goal).terminal.code ∧
              exchange.result = (executePlanGraspsAction fp sort isCanceling env goal).result)) := by
  have h := protocolInvariant_of_run hrun
  obtain ⟨exchange, heq, he⟩ := h.explained answer hclient
  refine ⟨exchange, heq, fun hr ha hacc => (he.rejected hr ha hacc).1,
    fun hr ha hacc => ⟨h.acceptable (he.accepted hr ha hacc), fun hres => ?_⟩⟩
  rcases he.received hr ha hacc hres with hunknown | ⟨handle, terminal, hhandle, hterminals, hcode⟩
  · exact .inl hunknown
  · obtain ⟨isCanceling, env, hexecute, rfl, hresult⟩ := (h.handled handle hhandle).exists_execute hterminals
    exact .inr ⟨isCanceling, env, by rw [hhandle, Option.bind_some, hexecute], hcode, hresult⟩

theorem answer_of_exchange_box :
    ∃ s, exec (protocolStep .exact Sample.sort (createPlanGraspsGoal .exact Sample.sentParams)) .init
        Sample.answeredSteps = some s ∧
      ∃ exchange, .ok Sample.sentRun.result = callGraspPlanningAction exchange := by
  obtain ⟨s, hrun, hclient⟩ := Sample.exec_answeredSteps
  obtain ⟨exchange, heq, -⟩ := answer_of_exchange hrun hclient
  exact ⟨s, hrun, exchange, heq⟩

/-! ### Cancelling -/

/-- The client has given up on a goal that was accepted. -/
def ActionSystem.GaveUp (s : ActionSystem) : Prop :=
  s.client = .returned (.error ⟨.deadlineExceeded, "Timed out waiting for action result: ".toList ++ actionName⟩)

/-- A goal is being cancelled only by a client that has given up on it. -/
structure CancelledByClient (s : ActionSystem) : Prop where
  inFlight : .cancel ∈ s.requests → s.GaveUp
  canceling : ∀ handle, s.handle = some handle → handle.canceling = true → s.GaveUp

/-- What the client has given up on is on its way to being cancelled, unless it has ended. -/
def CancelComing (s : ActionSystem) : Prop :=
  s.GaveUp → .cancel ∈ s.requests ∨
    ∃ handle, s.handle = some handle ∧ (handle.canceling = true ∨ handle.phase = .ended)

theorem ActionSystem.GaveUp.of_step {s s' : ActionSystem} {l : ProtocolLabel} (h : s.GaveUp)
    (hstep : protocolStep fp sort goal s l = some s') : s'.GaveUp := by
  unfold ActionSystem.GaveUp at h ⊢
  cases protocolStep_eq_some hstep with
  | serverFound hclient => simp [h] at hclient
  | connectTimeout hclient => simp [h] at hclient
  | goalTimeout hclient => simp [h] at hclient
  | resultTimeout hclient => simp [h] at hclient
  | accepted _ hclient => simp [h] at hclient
  | rejected _ hclient => simp [h] at hclient
  | result _ _ _ hclient => simp [h] at hclient
  | act l handle handle' hhandle hsync hown hact =>
    unfold ActionSystem.proceed
    split <;> exact h
  | _ => exact h

theorem cancelledByClient_step {s s' : ActionSystem} {l : ProtocolLabel} (h : CancelledByClient s)
    (hl : l ≠ .cancelByOther) (hstep : protocolStep fp sort goal s l = some s') : CancelledByClient s' where
  inFlight hmem := by
    have hold : .cancel ∈ s.requests → s'.GaveUp := fun hmem => (h.inFlight hmem).of_step hstep
    cases protocolStep_eq_some hstep with
    | serverFound => exact hold ((Multiset.mem_cons.mp hmem).resolve_left Request.noConfusion)
    | resultTimeout => rfl
    | accepted => exact hold ((Multiset.mem_cons.mp hmem).resolve_left Request.noConfusion)
    | acceptGoal => exact hold (Multiset.mem_of_mem_erase hmem)
    | rejectGoal => exact hold (Multiset.mem_of_mem_erase hmem)
    | answerResult => exact hold (Multiset.mem_of_mem_erase hmem)
    | keepRequest => exact hold (Multiset.mem_of_mem_erase hmem)
    | cancel => exact hold (Multiset.mem_of_mem_erase hmem)
    | loseRequest => exact hold (Multiset.mem_of_mem_erase hmem)
    | act l handle handle' hhandle hsync hown hact =>
      refine hold ?_
      unfold ActionSystem.proceed at hmem
      split at hmem <;> exact hmem
    | _ => exact hold hmem
  canceling handle hhandle hcanceling := by
    cases handleStep hstep with
    | same heq => exact (h.canceling handle (heq ▸ hhandle) hcanceling).of_step hstep
    | accepted hmem hgoal heq =>
      obtain rfl := Option.some.inj (heq.symm.trans hhandle)
      cases hcanceling
    | step act before after hbefore hact heq hcancel =>
      obtain rfl := Option.some.inj (heq.symm.trans hhandle)
      rcases cancelRequest_of_canceling hact hcanceling with hcanceling | rfl
      · exact (h.canceling before hbefore hcanceling).of_step hstep
      · exact (h.inFlight ((hcancel rfl).resolve_left hl)).of_step hstep

theorem canceling_step {handle handle' : ActionState} {act : ActionLabel}
    (hact : actionStep fp sort goal handle act = some handle') (h : handle.canceling = true) :
    handle'.canceling = true := by
  cases actionStep_eq_some hact with
  | cancelRequest => rfl
  | _ => exact h

theorem gaveUp_of_step {s s' : ActionSystem} {l : ProtocolLabel} (hstep : protocolStep fp sort goal s l = some s')
    (h : s'.GaveUp) : l = .resultTimeout ∨ s.GaveUp := by
  unfold ActionSystem.GaveUp at h ⊢
  cases protocolStep_eq_some hstep with
  | resultTimeout => exact .inl rfl
  | serverFound => cases h
  | connectTimeout => exact absurd (ClientPhase.returned.inj h) (by decide)
  | goalTimeout => exact absurd (ClientPhase.returned.inj h) (by decide)
  | accepted => cases h
  | rejected => exact absurd (ClientPhase.returned.inj h) (by decide)
  | result code result =>
    have hanswer := ClientPhase.returned.inj h
    cases code <;> cases hanswer
  | act l handle handle' hhandle hsync hown hact =>
    refine .inr (h ▸ ?_)
    unfold ActionSystem.proceed
    split <;> rfl
  | _ => exact .inr h

theorem cancelComing_step {s s' : ActionSystem} {l : ProtocolLabel} (ht : Traffic s) (h : CancelComing s)
    (hl : ∀ request, l ≠ .loseRequest request) (hstep : protocolStep fp sort goal s l = some s') :
    CancelComing s' := by
  intro hgaveUp
  -- a handle that is marked, or has ended, stays so
  have hmarked : (∃ handle, s.handle = some handle ∧ (handle.canceling = true ∨ handle.phase = .ended)) →
      ∃ handle', s'.handle = some handle' ∧ (handle'.canceling = true ∨ handle'.phase = .ended) := by
    rintro ⟨handle, hhandle, hor⟩
    cases handleStep hstep with
    | same heq => exact ⟨handle, heq.trans hhandle, hor⟩
    | accepted hmem => exact absurd hmem (ht.goal_notMem hhandle)
    | step act before after hbefore hact heq =>
      obtain rfl := Option.some.inj (hbefore.symm.trans hhandle)
      refine ⟨after, heq, ?_⟩
      rcases hor with hcanceling | hended
      · exact .inl (canceling_step hact hcanceling)
      · rw [actionStep_of_ended hended] at hact
        cases hact
  have hkept : ∀ request, request ≠ .cancel → s'.requests = s.requests.erase request → .cancel ∈ s.requests →
      .cancel ∈ s'.requests := fun request hne heq hmem => by
    rw [heq]
    exact (Multiset.mem_erase_of_ne hne.symm).mpr hmem
  rcases gaveUp_of_step hstep hgaveUp with rfl | hbefore
  · cases protocolStep_eq_some hstep with
    | resultTimeout => exact .inl (Multiset.mem_cons_self _ _)
  · refine (h hbefore).elim (fun hmem => ?_) fun hsome => .inr (hmarked hsome)
    cases protocolStep_eq_some hstep with
    | cancel sceneReady =>
      obtain ⟨handle, hhandle⟩ := ht.exists_handle (.inl ⟨_, hmem, by simp⟩)
      refine .inr ⟨_, by rw [ActionSystem.cancelGoal, hhandle, Option.map_some], ?_⟩
      rw [cancelRequest_getD]
      split_ifs with hended
      · exact .inr hended
      · exact .inl rfl
    | serverFound => exact .inl (Multiset.mem_cons_of_mem hmem)
    | resultTimeout => exact .inl (Multiset.mem_cons_of_mem hmem)
    | accepted => exact .inl (Multiset.mem_cons_of_mem hmem)
    | acceptGoal => exact .inl (hkept .goal Request.noConfusion rfl hmem)
    | rejectGoal => exact .inl (hkept .goal Request.noConfusion rfl hmem)
    | answerResult => exact .inl (hkept .result Request.noConfusion rfl hmem)
    | keepRequest => exact .inl (hkept .result Request.noConfusion rfl hmem)
    | loseRequest request => exact absurd rfl (hl request)
    | act l handle handle' hhandle hsync hown hact =>
      refine .inl ?_
      unfold ActionSystem.proceed
      split <;> exact hmem
    | _ => exact .inl hmem

/-- The status of a cancelled action stands for a result with that code. -/
theorem code_of_cancelled {exchange : ActionExchange} {text : Name}
    (h : callGraspPlanningAction exchange = .error ⟨.cancelled, text⟩) :
    exchange.serverReachable = true ∧ exchange.goalAnswered = true ∧ exchange.goalAccepted = true ∧
      exchange.resultReceived = true ∧ exchange.code = .canceled := by
  rcases exchange with ⟨_ | _, _ | _, _ | _, _ | _, _ | _ | _ | _, result⟩ <;>
    first | exact ⟨rfl, rfl, rfl, rfl, rfl⟩ | cases h

theorem Terminal.code_eq_canceled {terminal : Terminal} (h : terminal.code = .canceled) : terminal = .canceled := by
  cases terminal with
  | canceled => rfl
  | _ => cases h

/-- An action is cancelled only by a client that has given up on it or by another node, so
a client that nobody interferes with never gets the status of a cancelled action. And what
it gives up on is cancelled, or has ended, as soon as its request arrives. -/
theorem cancels_given_up {s : ActionSystem} {ls : List ProtocolLabel}
    (hrun : exec (protocolStep fp sort goal) .init ls = some s) :
    (.cancelByOther ∉ ls → (∀ handle, s.handle = some handle → handle.canceling = true → s.GaveUp) ∧
        s.client ≠ .returned (.error ⟨.cancelled, "Grasp planning action was canceled.".toList⟩)) ∧
      ((∀ request, .loseRequest request ∉ ls) → s.GaveUp →
        .cancel ∈ s.requests ∨ ∃ handle, s.handle = some handle ∧ (handle.canceling = true ∨ handle.phase = .ended)) := by
  have h := protocolInvariant_of_run hrun
  refine ⟨fun hother => ?_, fun hlost => ?_⟩
  · have hcancelled : CancelledByClient s := by
      refine exec_invariant (P := fun _ l => l ≠ .cancelByOther) (fun _ _ _ hi hl hs => cancelledByClient_step hi hl hs)
        (Along.of_labels fun l hl _ heq => hother (by rwa [heq] at hl)) hrun ⟨fun hmem => ?_, fun handle hhandle => ?_⟩
      · exact absurd hmem (Multiset.notMem_zero _)
      · cases hhandle
    refine ⟨hcancelled.canceling, fun hclient => ?_⟩
    obtain ⟨exchange, heq, he⟩ := h.explained _ hclient
    obtain ⟨hr, ha, hacc, hres, hcode⟩ := code_of_cancelled heq.symm
    rcases he.received hr ha hacc hres with ⟨hunknown, -⟩ | ⟨handle, terminal, hhandle, hterminals, hterminal⟩
    · cases hcode.symm.trans hunknown
    · obtain rfl := Terminal.code_eq_canceled (hterminal.symm.trans hcode)
      have hcanceling : handle.canceling = true :=
        ((h.handled handle hhandle).invariant.goalContract.canceled _
          (by rw [hterminals]; exact List.mem_singleton_self _)).2
      have hgave := hcancelled.canceling handle hhandle hcanceling
      exact absurd (ClientPhase.returned.inj (hclient.symm.trans hgave)) (by decide)
  · exact exec_invariant (P := fun _ l => ∀ request, l ≠ .loseRequest request) (I := fun s => Traffic s ∧ CancelComing s)
      (fun _ _ _ hi hl hs => ⟨traffic_step hi.1 hs, cancelComing_step hi.1 hi.2 hl hs⟩)
      (Along.of_labels fun l hl _ request heq => hlost request (by rwa [heq] at hl)) hrun
        ⟨traffic_init, fun hgave => by cases hgave⟩ |>.2

/-- The client gives up while the goal is being planned, and its request arrives. -/
theorem cancels_given_up_box :
    ∃ s, exec (protocolStep .exact Sample.sort (createPlanGraspsGoal .exact Sample.sentParams)) .init
        (Sample.acceptedSteps ++ [.act .readCanceling, .resultTimeout, .serve false .cancel]) = some s ∧ s.GaveUp ∧
      (.cancel ∈ s.requests ∨ ∃ handle, s.handle = some handle ∧ (handle.canceling = true ∨ handle.phase = .ended)) := by
  obtain ⟨s, hrun, hclient⟩ :
      ∃ s, exec (protocolStep .exact Sample.sort (createPlanGraspsGoal .exact Sample.sentParams)) .init
          (Sample.acceptedSteps ++ [.act .readCanceling, .resultTimeout, .serve false .cancel]) = some s ∧
        decide (s.client = .returned (.error ⟨.deadlineExceeded,
          "Timed out waiting for action result: ".toList ++ actionName⟩)) = true :=
    (Option.any_eq_true _ _).mp (by decide +kernel)
  have hgave : s.client = .returned _ := of_decide_eq_true hclient
  exact ⟨s, hrun, hgave, (cancels_given_up hrun).2 (by simp [Sample.acceptedSteps]) hgave⟩

end Step

/-! ### The skill's results -/

theorem exchange_of_ok {exchange : ActionExchange} {result : Result} (h : callGraspPlanningAction exchange = .ok result) :
    exchange.serverReachable = true ∧ exchange.goalAnswered = true ∧ exchange.goalAccepted = true ∧
      exchange.resultReceived = true ∧ exchange.code ≠ .unknown ∧ exchange.result = result := by
  rcases exchange with ⟨_ | _, _ | _, _ | _, _ | _, _ | _ | _ | _, _⟩ <;>
    first | exact ⟨rfl, rfl, rfl, rfl, ResultCode.noConfusion, Except.ok.inj h⟩ | cases h

theorem success_of_checkedResults {params : GraspPlanningParams} {result : Result} {results : PlanningResults}
    (h : checkedResults params result = .ok results) : result.errorCode = .success := by
  unfold checkedResults at h
  split at h
  · cases h
  · rename_i hok
    exact (moveItErrorCodeToStatus_eq_ok_iff _ _).mp hok

/-- The skill has grasps to return only when the server has called `succeed` on its goal,
with these grasps, after planning every candidate and reporting each of them. -/
theorem results_of_succeed {fp : Rounding} {sort : StdSort qualityGreater} {params : GraspPlanningParams}
    {s : ActionSystem} {ls : List ProtocolLabel} {answer : Except Failure Result} {results : PlanningResults}
    (hrun : exec (protocolStep fp sort (createPlanGraspsGoal fp params)) .init ls = some s)
    (hclient : s.client = .returned answer)
    (hresults : (answer.bind fun result => checkedResults params result) = .ok results) :
    ∃ handle result, s.handle = some handle ∧ handle.terminals = [(.succeed, result)] ∧
      checkedResults params result = .ok results ∧ handle.succeeded = params.candidateObjects.entries.length ∧
      handle.feedback = progressReports handle.succeeded handle.succeeded := by
  have h := protocolInvariant_of_run hrun
  cases answer with
  | error failure => cases hresults
  | ok result =>
    obtain ⟨exchange, heq, he⟩ := h.explained _ hclient
    obtain ⟨hr, ha, hacc, hres, hcode, rfl⟩ := exchange_of_ok heq.symm
    rcases he.received hr ha hacc hres with ⟨hunknown, -⟩ | ⟨handle, terminal, hhandle, hterminals, hterminal⟩
    · exact absurd hunknown hcode
    · have hcontract := (h.handled handle hhandle).invariant.goalContract
      have hsuccess := success_of_checkedResults hresults
      have hmem : (terminal, exchange.result) ∈ handle.terminals := by rw [hterminals]; exact List.mem_singleton_self _
      cases terminal with
      | succeed =>
        obtain ⟨-, -, hall⟩ := hcontract.succeed _ hmem
        have hlength : (createPlanGraspsGoal fp params).candidates.length = params.candidateObjects.entries.length :=
          List.length_map _
        refine ⟨handle, exchange.result, hhandle, hterminals, hresults, hall.trans hlength, ?_⟩
        have hreported := hcontract.reported (by simp [hterminals])
        rw [hcontract.feedback, hreported, hall]
      | abort => exact absurd hsuccess (hcontract.abort _ hmem)
      | canceled => cases hsuccess.symm.trans (hcontract.canceled _ hmem).1

theorem results_of_succeed_box :
    ∃ s handle result, exec (protocolStep .exact Sample.sort (createPlanGraspsGoal .exact Sample.sentParams)) .init
        Sample.answeredSteps = some s ∧ s.handle = some handle ∧ handle.terminals = [(.succeed, result)] ∧
      handle.succeeded = 1 := by
  obtain ⟨s, hrun, hclient⟩ := Sample.exec_answeredSteps
  obtain ⟨results, hresults, -⟩ : ∃ results, checkedResults Sample.sentParams Sample.sentRun.result = .ok results ∧
      true = true := Sample.exists_ok (p := fun _ => true) (by decide +kernel)
  obtain ⟨handle, result, hhandle, hterminals, -, hsucceeded, -⟩ := results_of_succeed hrun hclient hresults
  exact ⟨s, handle, result, hrun, hhandle, hterminals, hsucceeded⟩

end MoveitPlanning.Grasping
