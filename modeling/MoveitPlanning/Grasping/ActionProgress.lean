import MoveitPlanning.Grasping.ActionAnswers

/-! The way to the answer. Every step of the client, of the server and of the network uses
up some of what the goal may still lead to, so there are not many of them. As long as
nothing goes wrong, what the client waits for is in flight, kept by the server, or being
worked on. -/

namespace MoveitPlanning.Grasping

open Foundation Scene

section Step
variable {fp : Rounding} {sort : StdSort qualityGreater} {goal : Goal}

/-! ### The client returns -/

/-- Bounds on the steps that what is there may still lead to, for `n` candidates. -/
def Request.weight (n : ℕ) : Request → ℕ
  | .goal => 3 * n + 5
  | .result => 2
  | .cancel => 1

def ClientPhase.weight (n : ℕ) : ClientPhase → ℕ
  | .connecting => 3 * n + 10
  | .sendingGoal => 4
  | .awaitingResult => 2
  | .returned _ => 0

namespace ActionSystem

def serverWeight (n : ℕ) (s : ActionSystem) : ℕ :=
  s.handle.elim 0 fun handle => handle.stepsLeft n + (!s.synchronized).toNat + (!s.expired).toNat

def weight (n : ℕ) (s : ActionSystem) : ℕ :=
  s.client.weight n + (s.requests.map (Request.weight n)).sum + s.replies.card + s.keptRequests + s.serverWeight n

end ActionSystem

theorem requests_erase {n : ℕ} {requests : Multiset Request} {request : Request} (hmem : request ∈ requests) :
    ((requests.erase request).map (Request.weight n)).sum + request.weight n =
      (requests.map (Request.weight n)).sum := by
  rw [add_comm]
  exact Multiset.sum_map_erase hmem

theorem replies_erase {replies : Multiset Reply} {reply : Reply} (hmem : reply ∈ replies) :
    (replies.erase reply).card + 1 = replies.card := Multiset.card_erase_add_one hmem

variable (fp sort goal) in
theorem serverWeight_cancelGoal (s : ActionSystem) (n : ℕ) :
    (s.cancelGoal fp sort goal).serverWeight n = s.serverWeight n := by
  unfold ActionSystem.serverWeight
  cases hhandle : s.handle with
  | none => simp [ActionSystem.cancelGoal, hhandle]
  | some handle =>
    simp only [ActionSystem.cancelGoal, hhandle, Option.map_some, Option.elim_some, cancelRequest_getD]
    split_ifs <;> rfl

theorem weight_step {s s' : ActionSystem} {l : ProtocolLabel} (h : ProtocolInvariant fp sort goal s)
    (hstep : protocolStep fp sort goal s l = some s') :
    s'.weight goal.candidates.length + (if l.isOwn then 1 else 0) ≤ s.weight goal.candidates.length := by
  cases protocolStep_eq_some hstep with
  | serverFound hclient =>
    simp only [ActionSystem.weight, ActionSystem.serverWeight, ActionSystem.send, Multiset.map_cons, Multiset.sum_cons,
      ClientPhase.weight, Request.weight, ProtocolLabel.isOwn, hclient, if_true]
    omega
  | connectTimeout hclient =>
    simp only [ActionSystem.weight, ActionSystem.serverWeight, ClientPhase.weight, ProtocolLabel.isOwn, hclient, if_true]
    omega
  | goalTimeout hclient =>
    simp only [ActionSystem.weight, ActionSystem.serverWeight, ClientPhase.weight, ProtocolLabel.isOwn, hclient, if_true]
    omega
  | resultTimeout hclient =>
    simp only [ActionSystem.weight, ActionSystem.serverWeight, ActionSystem.send, Multiset.map_cons, Multiset.sum_cons,
      ClientPhase.weight, Request.weight, ProtocolLabel.isOwn, hclient, if_true]
    omega
  | accepted hmem hclient =>
    have hreplies := replies_erase hmem
    simp only [ActionSystem.weight, ActionSystem.serverWeight, ActionSystem.send, Multiset.map_cons, Multiset.sum_cons,
      ClientPhase.weight, Request.weight, ProtocolLabel.isOwn, hclient, if_true]
    omega
  | rejected hmem hclient =>
    have hreplies := replies_erase hmem
    simp only [ActionSystem.weight, ActionSystem.serverWeight, ClientPhase.weight, ProtocolLabel.isOwn, hclient, if_true]
    omega
  | result code result hmem hclient =>
    have hreplies := replies_erase hmem
    simp only [ActionSystem.weight, ActionSystem.serverWeight, ClientPhase.weight, ProtocolLabel.isOwn, hclient, if_true]
    omega
  | dropped reply hmem hgoal hresult =>
    have hreplies := replies_erase hmem
    simp only [ActionSystem.weight, ActionSystem.serverWeight, ProtocolLabel.isOwn, if_true]
    omega
  | acceptGoal sceneReady hmem hgoal =>
    have hrequests := requests_erase (n := goal.candidates.length) hmem
    have hnone := (h.traffic.goalOnce hmem).2.2
    simp only [ActionSystem.weight, ActionSystem.serverWeight, ActionSystem.reply, Multiset.card_cons, Request.weight,
      ProtocolLabel.isOwn, hnone, Option.elim_none, Option.elim_some, ActionState.stepsLeft, ActionState.init,
      if_true] at hrequests ⊢
    have hsync := Bool.toNat_le (!s.synchronized)
    have hexpired := Bool.toNat_le (!s.expired)
    omega
  | rejectGoal sceneReady hmem hgoal =>
    have hrequests := requests_erase (n := goal.candidates.length) hmem
    simp only [ActionSystem.weight, ActionSystem.serverWeight, ActionSystem.reply, Multiset.card_cons, Request.weight,
      ProtocolLabel.isOwn, if_true] at hrequests ⊢
    omega
  | answerResult sceneReady reply hmem hreply =>
    have hrequests := requests_erase (n := goal.candidates.length) hmem
    simp only [ActionSystem.weight, ActionSystem.serverWeight, ActionSystem.reply, Multiset.card_cons, Request.weight,
      ProtocolLabel.isOwn, if_true] at hrequests ⊢
    omega
  | keepRequest sceneReady hmem hreply =>
    have hrequests := requests_erase (n := goal.candidates.length) hmem
    simp only [ActionSystem.weight, ActionSystem.serverWeight, Request.weight, ProtocolLabel.isOwn,
      if_true] at hrequests ⊢
    omega
  | cancel sceneReady hmem =>
    have hrequests := requests_erase (n := goal.candidates.length) hmem
    have hserver :=
      serverWeight_cancelGoal fp sort goal { s with requests := s.requests.erase .cancel } goal.candidates.length
    simp only [ActionSystem.weight, Request.weight, ProtocolLabel.isOwn, if_true] at hrequests ⊢
    rw [hserver]
    simp only [ActionSystem.cancelGoal, ActionSystem.serverWeight]
    omega
  | synchronized status hhandle hsync =>
    obtain ⟨handle, hhandle⟩ := Option.isSome_iff_exists.mp hhandle
    simp only [ActionSystem.weight, ActionSystem.serverWeight, ProtocolLabel.isOwn, hhandle, hsync, Option.elim_some,
      Bool.not_true, Bool.not_false, Bool.toNat_true, Bool.toNat_false, if_true]
    omega
  | act l handle handle' hhandle hsync hown hact =>
    have hleft := stepsLeft_step (h.handled handle hhandle).invariant hact
    rw [hown, if_pos rfl] at hleft
    rcases s.proceed_eq ((h.handled handle hhandle).next hact) with ⟨-, heq⟩ | ⟨-, call, -, heq⟩
    · rw [heq]
      simp only [ActionSystem.weight, ActionSystem.serverWeight, ProtocolLabel.isOwn, hhandle, Option.elim_some, if_true]
      omega
    · rw [heq]
      simp only [ActionSystem.weight, ActionSystem.serverWeight, ProtocolLabel.isOwn, hhandle, Option.elim_some,
        Multiset.card_add, Multiset.card_replicate, if_true]
      omega
  | cancelByOther =>
    have hserver := serverWeight_cancelGoal fp sort goal s goal.candidates.length
    simp only [ActionSystem.weight, ProtocolLabel.isOwn, hserver]
    simp only [ActionSystem.cancelGoal, Bool.false_eq_true, if_false]
    omega
  | expire handle hhandle hended hexpired =>
    simp only [ActionSystem.weight, ActionSystem.serverWeight, ProtocolLabel.isOwn, hhandle, hexpired, Option.elim_some,
      Bool.not_true, Bool.not_false, Bool.toNat_true, Bool.toNat_false, if_true]
    omega
  | loseRequest request hmem =>
    have hrequests := requests_erase (n := goal.candidates.length) hmem
    have hpos : 0 < request.weight goal.candidates.length := by cases request <;> simp [Request.weight]
    simp only [ActionSystem.weight, ActionSystem.serverWeight, ProtocolLabel.isOwn, if_true]
    omega
  | loseReply reply hmem =>
    have hreplies := replies_erase hmem
    simp only [ActionSystem.weight, ActionSystem.serverWeight, ProtocolLabel.isOwn, if_true]
    omega

/-- What a client that has not returned waits for, in a run where nothing goes wrong. -/
structure Attended (s : ActionSystem) : Prop where
  sending : s.client = .sendingGoal → .goal ∈ s.requests ∨ ∃ accepted, .goalResponse accepted ∈ s.replies
  awaiting : s.client = .awaitingResult → .result ∈ s.requests ∨ 0 < s.keptRequests ∨
    ∃ code result, .result code result ∈ s.replies
  kept : 0 < s.keptRequests → ∃ handle, s.handle = some handle ∧ handle.phase ≠ .ended
  remembered : s.expired = false
  answer : ∀ answer, s.client = .returned answer →
    (s.handle = none ∧ .goal ∉ s.requests ∧ answer = .error ⟨.failedPrecondition,
        "Grasp planning goal was rejected by: ".toList ++ actionName⟩) ∨
      ∃ code result, answer = resultAnswer code result ∧ s.Delivered code result

theorem attended_init : Attended .init :=
  ⟨ClientPhase.noConfusion, ClientPhase.noConfusion, fun h => absurd h (lt_irrefl 0), rfl, fun _ h => by cases h⟩

/-- Steps that leave the client and the server where they are, and take nothing that is waited for. -/
theorem Attended.of_same {s s' : ActionSystem} (h : Attended s) (hclient : s'.client = s.client)
    (hgoal : .goal ∈ s.requests → .goal ∈ s'.requests) (hresult : .result ∈ s.requests → .result ∈ s'.requests)
    (hreplies : ∀ reply, s.client = .sendingGoal ∧ (∃ accepted, reply = .goalResponse accepted) ∨
      s.client = .awaitingResult ∧ (∃ code result, reply = .result code result) → reply ∈ s.replies → reply ∈ s'.replies)
    (hkept : s'.keptRequests = s.keptRequests)
    (hhandle : ∀ handle, s.handle = some handle → handle.phase ≠ .ended →
      ∃ handle', s'.handle = some handle' ∧ handle'.phase ≠ .ended)
    (hexpired : s'.expired = s.expired)
    (hanswer : ∀ answer, s.client = .returned answer →
      (s.handle = none → .goal ∉ s.requests → s'.handle = none ∧ .goal ∉ s'.requests) ∧
        ∀ code result, s.Delivered code result → s'.Delivered code result) : Attended s' where
  sending hc := by
    rw [hclient] at hc
    rcases h.sending hc with hmem | ⟨accepted, hmem⟩
    · exact .inl (hgoal hmem)
    · exact .inr ⟨accepted, hreplies _ (.inl ⟨hc, accepted, rfl⟩) hmem⟩
  awaiting hc := by
    rw [hclient] at hc
    rcases h.awaiting hc with hmem | hpos | ⟨code, result, hmem⟩
    · exact .inl (hresult hmem)
    · exact .inr (.inl (hkept ▸ hpos))
    · exact .inr (.inr ⟨code, result, hreplies _ (.inr ⟨hc, code, result, rfl⟩) hmem⟩)
  kept hpos := by
    obtain ⟨handle, hsome, hphase⟩ := h.kept (hkept ▸ hpos)
    exact hhandle handle hsome hphase
  remembered := hexpired.trans h.remembered
  answer answer hc := by
    rw [hclient] at hc
    rcases h.answer answer hc with ⟨hnone, hmem, heq⟩ | ⟨code, result, heq, hd⟩
    · obtain ⟨hnone', hmem'⟩ := (hanswer answer hc).1 hnone hmem
      exact .inl ⟨hnone', hmem', heq⟩
    · exact .inr ⟨code, result, heq, (hanswer answer hc).2 code result hd⟩

theorem exists_notEnded_of_cancelGoal {s : ActionSystem} {handle : ActionState} (hhandle : s.handle = some handle)
    (hphase : handle.phase ≠ .ended) :
    ∃ handle', (s.cancelGoal fp sort goal).handle = some handle' ∧ handle'.phase ≠ .ended := by
  refine ⟨_, by rw [ActionSystem.cancelGoal, hhandle, Option.map_some], ?_⟩
  rw [cancelRequest_getD, if_neg hphase]
  exact hphase

theorem notEnded_of_resultReply {s : ActionSystem} (hi : ProtocolInvariant fp sort goal s) (hreply : s.resultReply = none) :
    ∃ handle, s.handle = some handle ∧ handle.phase ≠ .ended := by
  unfold ActionSystem.resultReply at hreply
  split at hreply
  · cases hreply
  · rename_i handle hhandle
    split_ifs at hreply
    refine ⟨handle, hhandle, fun hended => ?_⟩
    rcases (hi.handled handle hhandle).terminals with ⟨hphase, -⟩ | ⟨-, call, hcall⟩
    · exact hphase hended
    · rw [hcall] at hreply
      cases hreply

theorem attended_step {s s' : ActionSystem} {l : ProtocolLabel} (hi : ProtocolInvariant fp sort goal s)
    (h : Attended s) (hl : l.orderly = true) (hstep : protocolStep fp sort goal s l = some s') : Attended s' := by
  have hanswer : ∀ answer, s.client = .returned answer →
      (s.handle = none → .goal ∉ s.requests → s'.handle = none ∧ .goal ∉ s'.requests) ∧
        ∀ code result, s.Delivered code result → s'.Delivered code result := fun answer hc =>
    ⟨fun hnone hmem => notAccepted_step hstep hnone hmem (by simp [hc]), fun _ _ hd => hd.of_step hi hstep⟩
  have hkeep : ∀ {answer}, s.client = .returned answer →
      (s'.handle = none ∧ .goal ∉ s'.requests ∧ answer = .error ⟨.failedPrecondition,
          "Grasp planning goal was rejected by: ".toList ++ actionName⟩) ∨
        ∃ code result, answer = resultAnswer code result ∧ s'.Delivered code result := fun hc => by
    rcases h.answer _ hc with ⟨hnone, hmem, heq⟩ | ⟨code, result, heq, hd⟩
    · obtain ⟨hnone', hmem'⟩ := (hanswer _ hc).1 hnone hmem
      exact .inl ⟨hnone', hmem', heq⟩
    · exact .inr ⟨code, result, heq, (hanswer _ hc).2 code result hd⟩
  cases protocolStep_eq_some hstep with
  | connectTimeout => cases hl
  | goalTimeout => cases hl
  | resultTimeout => cases hl
  | cancelByOther => cases hl
  | expire => cases hl
  | loseRequest => cases hl
  | loseReply => cases hl
  | serverFound hclient =>
    exact ⟨fun _ => .inl (Multiset.mem_cons_self _ _), ClientPhase.noConfusion, h.kept, h.remembered,
      fun _ hc => by cases hc⟩
  | accepted hmem hclient =>
    exact ⟨ClientPhase.noConfusion, fun _ => .inl (Multiset.mem_cons_self _ _), h.kept, h.remembered,
      fun _ hc => by cases hc⟩
  | rejected hmem hclient =>
    refine ⟨ClientPhase.noConfusion, ClientPhase.noConfusion, h.kept, h.remembered, fun answer hc => .inl ?_⟩
    obtain rfl := ClientPhase.returned.inj hc
    refine ⟨hi.traffic.accepted hmem, fun hgoal => ?_, rfl⟩
    rw [(hi.traffic.goalOnce hgoal).2.1] at hmem
    exact absurd hmem (Multiset.notMem_zero _)
  | result code result hmem hclient =>
    refine ⟨ClientPhase.noConfusion, ClientPhase.noConfusion, h.kept, h.remembered, fun answer hc => .inr ?_⟩
    obtain rfl := ClientPhase.returned.inj hc
    exact ⟨code, result, rfl, (hi.delivered code result hmem).of_step hi hstep⟩
  | dropped reply hmem hgoal hresult =>
    refine h.of_same rfl id id (fun other hother hin => ?_) rfl (fun handle hsome hphase => ⟨handle, hsome, hphase⟩) rfl
      hanswer
    refine (Multiset.mem_erase_of_ne ?_).mpr hin
    rintro rfl
    rcases hother with ⟨hc, accepted, heq⟩ | ⟨hc, code, result, heq⟩
    · exact hgoal hc accepted heq
    · exact hresult hc code result heq
  | acceptGoal sceneReady hmem hgoal =>
    refine ⟨fun _ => .inr ⟨true, Multiset.mem_cons_self _ _⟩, fun hc => ?_, fun _ => ⟨.init, rfl, ActionPhase.noConfusion⟩,
      h.remembered, fun _ => hkeep⟩
    exact absurd hc (hi.traffic.notAccepted (hi.traffic.goalOnce hmem).2.2).2.2.2
  | rejectGoal sceneReady hmem hgoal =>
    refine ⟨fun _ => .inr ⟨false, Multiset.mem_cons_self _ _⟩, fun hc => ?_, h.kept, h.remembered, fun _ => hkeep⟩
    exact absurd hc (hi.traffic.notAccepted (hi.traffic.goalOnce hmem).2.2).2.2.2
  | answerResult sceneReady reply hmem hreply =>
    refine ⟨fun hc => ?_, fun hc => ?_, h.kept, h.remembered, fun _ => hkeep⟩
    · rcases h.sending hc with hgoal | ⟨accepted, hin⟩
      · exact .inl ((Multiset.mem_erase_of_ne Request.noConfusion).mpr hgoal)
      · exact .inr ⟨accepted, Multiset.mem_cons_of_mem hin⟩
    · cases reply with
      | goalResponse accepted => exact absurd rfl (resultReply_ne hreply accepted)
      | result code result => exact .inr (.inr ⟨code, result, Multiset.mem_cons_self _ _⟩)
  | keepRequest sceneReady hmem hreply =>
    refine ⟨fun hc => ?_, fun _ => .inr (.inl (Nat.succ_pos _)),
      fun _ => notEnded_of_resultReply (s := s) hi hreply, h.remembered,
      fun _ => hkeep⟩
    rcases h.sending hc with hgoal | hin
    · exact .inl ((Multiset.mem_erase_of_ne Request.noConfusion).mpr hgoal)
    · exact .inr hin
  | cancel sceneReady hmem =>
    exact h.of_same rfl (fun hgoal => (Multiset.mem_erase_of_ne Request.noConfusion).mpr hgoal)
      (fun hresult => (Multiset.mem_erase_of_ne Request.noConfusion).mpr hresult) (fun _ _ => id) rfl
      (fun handle hsome hphase => exists_notEnded_of_cancelGoal hsome hphase) rfl hanswer
  | synchronized status hhandle hsync =>
    exact h.of_same rfl id id (fun _ _ => id) rfl (fun handle hsome hphase => ⟨handle, hsome, hphase⟩) rfl hanswer
  | act l handle handle' hhandle hsync hown hact =>
    rcases s.proceed_eq ((hi.handled handle hhandle).next hact) with ⟨hphase, heq⟩ | ⟨-, call, -, heq⟩
    · rw [heq] at hkeep ⊢
      exact ⟨h.sending, h.awaiting, fun _ => ⟨handle', rfl, hphase⟩, h.remembered, fun _ => hkeep⟩
    · rw [heq] at hkeep ⊢
      refine ⟨fun hc => ?_, fun hc => ?_, fun hpos => absurd hpos (lt_irrefl 0), h.remembered, fun _ => hkeep⟩
      · exact (h.sending hc).imp_right fun ⟨accepted, hin⟩ => ⟨accepted, Multiset.mem_add.mpr (.inr hin)⟩
      · rcases h.awaiting hc with hresult | hpos | ⟨code, result, hin⟩
        · exact .inl hresult
        · refine .inr (.inr ⟨call.1.code, call.2, Multiset.mem_add.mpr (.inl ?_)⟩)
          exact Multiset.mem_replicate.mpr ⟨hpos.ne', rfl⟩
        · exact .inr (.inr ⟨code, result, Multiset.mem_add.mpr (.inr hin)⟩)

theorem attended_of_run {s : ActionSystem} {ls : List ProtocolLabel}
    (hrun : exec (protocolStep fp sort goal) .init ls = some s) (horderly : ∀ l ∈ ls, l.orderly = true) : Attended s :=
  (exec_invariant (P := fun _ l => l.orderly = true) (I := fun s => ProtocolInvariant fp sort goal s ∧ Attended s)
    (fun _ _ _ hi hl hs => ⟨protocolInvariant_step hi.1 hs, attended_step hi.1 hi.2 hl hs⟩)
    (Along.of_labels fun l hl _ => horderly l hl) hrun ⟨protocolInvariant_init, attended_init⟩).2

/-- Until the client has returned, one of the two can go on, whatever the next call of the
pipeline meets. -/
theorem exists_protocolStep {s : ActionSystem} (h : Attended s)
    (hwaits : ∀ answer, s.client ≠ .returned answer) (env : PlanningEnv) :
    ∃ l, l.orderly = true ∧ (protocolStep fp sort goal s l).isSome = true := by
  have hreceive : ∀ reply ∈ s.replies, ∃ l, l.orderly = true ∧ (protocolStep fp sort goal s l).isSome = true :=
    fun reply hmem => ⟨.receive reply, rfl, by simp [protocolStep, hmem]⟩
  have hserve : ∀ request ∈ s.requests, ∃ l, l.orderly = true ∧ (protocolStep fp sort goal s l).isSome = true :=
    fun request hmem => ⟨.serve true request, rfl, by simp [protocolStep, hmem]⟩
  cases hclient : s.client with
  | connecting => exact ⟨.serverFound, rfl, by simp [protocolStep, hclient]⟩
  | sendingGoal =>
    rcases h.sending hclient with hmem | ⟨accepted, hmem⟩
    · exact hserve _ hmem
    · exact hreceive _ hmem
  | awaitingResult =>
    rcases h.awaiting hclient with hmem | hpos | ⟨code, result, hmem⟩
    · exact hserve _ hmem
    · obtain ⟨handle, hhandle, hphase⟩ := h.kept hpos
      cases hsync : s.synchronized with
      | false => exact ⟨.synchronized (.ok ()), rfl, by simp [protocolStep, hhandle, hsync]⟩
      | true =>
        obtain ⟨act, hact, hsome⟩ : ∃ act ∈ [.readCanceling, .planCandidate env, .publishFeedback, .rank],
            (actionStep fp sort goal handle act).isSome = true := exists_actionStep hphase env
        have hown : act.isOwn = true := by
          simp only [List.mem_cons, List.not_mem_nil, or_false] at hact
          rcases hact with rfl | rfl | rfl | rfl <;> rfl
        exact ⟨.act act, rfl, by simp [protocolStep, hhandle, hsync, hown, hsome]⟩
    · exact hreceive _ hmem
  | returned answer => exact absurd hclient (hwaits answer)

/-- In every run the two take at most three steps for each candidate and ten more. Where
nothing is lost, forgotten or given up, and nobody else cancels, one of them can go on
until the client has returned, with the refusal of the goal or with the outcome of its
execution. -/
theorem client_returns {s : ActionSystem} {ls : List ProtocolLabel}
    (hrun : exec (protocolStep fp sort goal) .init ls = some s) :
    ls.countP ProtocolLabel.isOwn ≤ 3 * goal.candidates.length + 10 ∧
      ((∀ l ∈ ls, l.orderly = true) →
        ((∀ answer, s.client ≠ .returned answer) → ∀ _ : PlanningEnv,
          ∃ l, l.orderly = true ∧ (protocolStep fp sort goal s l).isSome = true) ∧
        ∀ answer, s.client = .returned answer →
          s.handle = none ∧ answer = .error ⟨.failedPrecondition,
              "Grasp planning goal was rejected by: ".toList ++ actionName⟩ ∨
            ∃ isCanceling env, answer =
              callGraspPlanningAction (executePlanGraspsAction fp sort isCanceling env goal).exchange) := by
  have hi := protocolInvariant_of_run hrun
  refine ⟨?_, fun horderly => ?_⟩
  · have hle := exec_countP_add_le ProtocolLabel.isOwn (ActionSystem.weight goal.candidates.length)
      (fun _ _ _ hi hs => ⟨protocolInvariant_step hi hs, weight_step hi hs⟩) hrun protocolInvariant_init
    have hstart : ActionSystem.init.weight goal.candidates.length = 3 * goal.candidates.length + 10 := by
      simp [ActionSystem.weight, ActionSystem.serverWeight, ActionSystem.init, ClientPhase.weight]
    omega
  · have ha := attended_of_run hrun horderly
    refine ⟨fun hwaits => exists_protocolStep ha hwaits, fun answer hclient => ?_⟩
    rcases ha.answer answer hclient with ⟨hnone, -, heq⟩ | ⟨code, result, heq, hd⟩
    · exact .inl ⟨hnone, heq⟩
    · rcases hd with ⟨-, hexpired⟩ | ⟨handle, terminal, hhandle, hterminals, rfl⟩
      · rw [ha.remembered] at hexpired
        cases hexpired
      · obtain ⟨isCanceling, env, -, rfl, rfl⟩ := (hi.handled handle hhandle).exists_execute hterminals
        exact .inr ⟨isCanceling, env, heq.trans (resultAnswer_eq _ _)⟩

theorem client_returns_box :
    ∃ s, exec (protocolStep .exact Sample.sort (createPlanGraspsGoal .exact Sample.sentParams)) .init
        Sample.answeredSteps = some s ∧ Sample.answeredSteps.countP ProtocolLabel.isOwn ≤ 13 ∧
      ∃ isCanceling env, .ok Sample.sentRun.result = callGraspPlanningAction
        (executePlanGraspsAction .exact Sample.sort isCanceling env
          (createPlanGraspsGoal .exact Sample.sentParams)).exchange := by
  obtain ⟨s, hrun, hclient⟩ := Sample.exec_answeredSteps
  obtain ⟨hbound, horderly⟩ := client_returns hrun
  refine ⟨s, hrun, hbound, ?_⟩
  exact ((horderly (by simp [Sample.answeredSteps, Sample.acceptedSteps, ProtocolLabel.orderly])).2 _ hclient).resolve_left
    fun h => by cases h.2

end Step

end MoveitPlanning.Grasping
