import MoveitPlanning.Foundation.LastEvent
import MoveitPlanning.Service.StatusMonitor

/-! Runs of the service state. `Enable` clears the flag before the steps that may fail, and
an early return leaves it cleared, so a service that was disabled counts as enabled after an
`Enable` with an error. Over any calls, `GetState` reports the service as disabled exactly
when the last call with OK was a `Disable`, except after such an `Enable`. -/

namespace MoveitPlanning.Service

open Foundation Scene

/-- A call, with what it meets: `report` is what `check_health` returns in it. -/
inductive Call
  | getState (report : SubsystemHealthReport)
  | enable (isMockHardware : Bool) (bridge : BridgeExchange) (report : SubsystemHealthReport)
  | disable
  | recordJointState (now : ℤ) (name : List Name)

def Call.apply (client : MoveItStatusClient) : Call → MoveItStatusClient
  | getState _ => client
  | enable isMockHardware bridge report => (Service.enable client isMockHardware bridge report).2
  | disable => (Service.disable client).2
  | recordJointState now name => client.recordJointState now name

/-- The client after the calls, in their order. -/
def afterCalls (calls : List Call) : MoveItStatusClient := calls.foldl Call.apply .init

/-- An `Enable` returns OK unless one of its two steps fails. -/
def enableSucceeds (isMockHardware : Bool) (bridge : BridgeExchange) (report : SubsystemHealthReport) : Bool :=
  (isMockHardware || triggerSceneSynchronization bridge) && report.healthy

/-- What a call with OK makes of the service: whether it is disabled. -/
def Call.succeeds : Call → Option Bool
  | enable isMockHardware bridge report => if enableSucceeds isMockHardware bridge report then some false else none
  | disable => some true
  | _ => none

/-- What a call makes of the flag. -/
def Call.sets : Call → Option Bool
  | enable _ _ _ => some false
  | disable => some true
  | _ => none

/-- The last call that returned OK, of `Enable` and `Disable`. -/
def lastOk (calls : List Call) : Option Bool := lastSet Call.succeeds (fun _ => False) calls

/-- Since a `Disable`, no call has returned OK, and an `Enable` has returned an error. -/
def EnableFailedSinceDisable (calls : List Call) : Prop :=
  ∃ before after, calls = before ++ Call.disable :: after ∧ (∀ call ∈ after, call.succeeds = none) ∧
    ∃ isMockHardware bridge report, Call.enable isMockHardware bridge report ∈ after

/-! ### Single calls -/

theorem enable_eq_ok_iff {client : MoveItStatusClient} {isMockHardware : Bool} {bridge : BridgeExchange}
    {report : SubsystemHealthReport} : (enable client isMockHardware bridge report).1 = .ok () ↔
      enableSucceeds isMockHardware bridge report = true := by
  rw [enable, enableSucceeds]
  cases isMockHardware <;> cases triggerSceneSynchronization bridge <;> cases report.healthy <;> simp

theorem enable_client (client : MoveItStatusClient) (isMockHardware : Bool) (bridge : BridgeExchange)
    (report : SubsystemHealthReport) :
    (enable client isMockHardware bridge report).2 = client.setDisabled false := by
  rw [enable]
  split_ifs <;> rfl

/-- An `Enable` that returns an error leaves the service as it was only if it was not disabled. -/
theorem enable_keeps_iff {client : MoveItStatusClient} {isMockHardware : Bool} {bridge : BridgeExchange}
    {report : SubsystemHealthReport} :
    (enable client isMockHardware bridge report).2.isDisabled = client.isDisabled ↔ client.isDisabled = false := by
  rw [enable_client, MoveItStatusClient.setDisabled]
  exact eq_comm

theorem getState_disabled_iff {client : MoveItStatusClient} {report : SubsystemHealthReport} :
    (getState client report).stateCode = .disabled ↔ client.isDisabled = true := by
  rw [getState]
  split_ifs with hdisabled <;> simp [hdisabled]

theorem Call.apply_isDisabled (client : MoveItStatusClient) (call : Call) :
    (call.apply client).isDisabled = call.sets.getD client.isDisabled := by
  cases call with
  | enable isMockHardware bridge report => rw [apply, enable_client]; rfl
  | _ => rfl

/-! ### Runs -/

theorem afterCalls_isDisabled (calls : List Call) :
    (afterCalls calls).isDisabled = (lastSet Call.sets (fun _ => False) calls).getD false := by
  induction calls using List.reverseRecOn with
  | nil => rfl
  | append_singleton calls call ih =>
    rw [afterCalls, List.foldl_append, List.foldl_cons, List.foldl_nil, Call.apply_isDisabled, ← afterCalls, ih,
      lastSet_concat, nextSet, if_neg not_false]
    cases call.sets <;> rfl

theorem sets_of_succeeds {call : Call} {disabled : Bool} (h : call.succeeds = some disabled) :
    call.sets = some disabled := by
  cases call with
  | enable isMockHardware bridge report =>
    rw [Call.succeeds] at h
    split_ifs at h
    exact h
  | disable => exact h
  | _ => cases h

theorem sets_of_not_succeeds {call : Call} (h : call.succeeds = none) :
    call.sets = none ∨ call.sets = some false ∧ ∃ isMockHardware bridge report,
      call = .enable isMockHardware bridge report := by
  cases call with
  | enable isMockHardware bridge report => exact .inr ⟨rfl, _, _, _, rfl⟩
  | disable => cases h
  | _ => exact .inl rfl

/-- A service that counts as disabled was disabled by the last call with OK. -/
theorem lastOk_of_disabled {calls : List Call} (h : (afterCalls calls).isDisabled = true) :
    lastOk calls = some true := by
  induction calls using List.reverseRecOn with
  | nil => cases h
  | append_singleton calls call ih =>
    rw [lastOk, lastSet_concat, nextSet, if_neg not_false]
    rw [afterCalls_isDisabled, lastSet_concat, nextSet, if_neg not_false] at h
    cases hsucceeds : call.succeeds with
    | some disabled =>
      rw [sets_of_succeeds hsucceeds] at h
      exact congrArg some h
    | none =>
      rcases sets_of_not_succeeds hsucceeds with hsets | ⟨hsets, -⟩
      · rw [hsets, Option.none_or, ← afterCalls_isDisabled] at h
        exact ih h
      · rw [hsets] at h
        exact absurd h Bool.false_ne_true

/-- An `Enable` clears the flag, and calls without OK do not set it again. -/
theorem lastSet_sets_of_enable {log after : List Call} (hfail : ∀ call ∈ after, call.succeeds = none)
    (henable : ∃ isMockHardware bridge report, Call.enable isMockHardware bridge report ∈ after) :
    lastSet Call.sets (fun _ => False) (log ++ after) = some false := by
  induction after using List.reverseRecOn with
  | nil =>
    obtain ⟨_, _, _, hmem⟩ := henable
    cases hmem
  | append_singleton after call ih =>
    rw [← List.append_assoc, lastSet_concat, nextSet, if_neg not_false]
    rcases sets_of_not_succeeds (hfail call (by simp)) with hsets | ⟨hsets, -⟩
    · rw [hsets, Option.none_or]
      refine ih (fun c hc => hfail c (by simp [hc])) ?_
      obtain ⟨isMockHardware, bridge, report, hmem⟩ := henable
      rcases List.mem_append.mp hmem with hbefore | hself
      · exact ⟨_, _, _, hbefore⟩
      · rw [← List.mem_singleton.mp hself] at hsets
        cases hsets
    · rw [hsets, Option.some_or]

theorem not_disabled_of_enableFailed {calls : List Call} (h : EnableFailedSinceDisable calls) :
    (afterCalls calls).isDisabled = false := by
  obtain ⟨before, after, rfl, hfail, henable⟩ := h
  rw [afterCalls_isDisabled, ← List.singleton_append, ← List.append_assoc, lastSet_sets_of_enable hfail henable]
  rfl

/-- Unless an `Enable` has failed since, a `Disable` with OK has left the service disabled. -/
theorem disabled_or_enableFailed {calls : List Call} (h : lastOk calls = some true) :
    (afterCalls calls).isDisabled = true ∨ EnableFailedSinceDisable calls := by
  obtain ⟨before, call, after, rfl, hcall, -, hafter⟩ := lastSet_eq_some_iff.mp h
  obtain rfl : call = .disable := by
    cases call with
    | disable => rfl
    | enable isMockHardware bridge report =>
      rw [Call.succeeds] at hcall
      split_ifs at hcall
      cases hcall
    | _ => cases hcall
  by_cases henable : ∃ isMockHardware bridge report, Call.enable isMockHardware bridge report ∈ after
  · exact .inr ⟨before, after, rfl, fun c hc => (hafter c hc).1, henable⟩
  · left
    have hsets : ∀ c ∈ after, c.sets = none ∧ ¬False := fun c hc => by
      rcases sets_of_not_succeeds (hafter c hc).1 with hnone | ⟨-, isMockHardware, bridge, report, rfl⟩
      · exact ⟨hnone, not_false⟩
      · exact absurd ⟨_, _, _, hc⟩ henable
    have hset : lastSet Call.sets (fun _ => False) (before ++ Call.disable :: after) = some true :=
      lastSet_eq_some_iff.mpr ⟨before, .disable, after, rfl, rfl, not_false, hsets⟩
    rw [afterCalls_isDisabled, hset]
    rfl

/-- After any calls, `GetState` reports the service as disabled just when the last call with
OK was a `Disable`, unless an `Enable` has returned an error since. -/
theorem disabled_reported_iff (calls : List Call) (report : SubsystemHealthReport) :
    ((getState (afterCalls calls) report).stateCode = .disabled ↔ lastOk calls = some true) ↔
      ¬EnableFailedSinceDisable calls := by
  rw [getState_disabled_iff]
  constructor
  · intro hiff hfailed
    have hcleared := not_disabled_of_enableFailed hfailed
    obtain ⟨before, after, rfl, hfail, -⟩ := hfailed
    have hlast : lastOk (before ++ Call.disable :: after) = some true :=
      lastSet_eq_some_iff.mpr ⟨before, .disable, after, rfl, rfl, not_false, fun c hc => ⟨hfail c hc, not_false⟩⟩
    rw [hiff.mpr hlast] at hcleared
    exact Bool.noConfusion hcleared
  · exact fun hnot => ⟨lastOk_of_disabled, fun h => (disabled_or_enableFailed h).resolve_right hnot⟩

/-- After `Disable` and an `Enable` that cannot reach the bridge, the service is not reported
as disabled. -/
theorem failed_enable_enables :
    let calls := [Call.disable, .enable false ⟨false, none⟩ ⟨true, [], [], []⟩]
    lastOk calls = some true ∧
      (enable (afterCalls [.disable]) false ⟨false, none⟩ ⟨true, [], [], []⟩).1 ≠ .ok () ∧
      (getState (afterCalls calls) ⟨true, [], [], []⟩).stateCode ≠ .disabled := by
  decide

end MoveitPlanning.Service
