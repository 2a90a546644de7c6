import MoveitPlanning.Service.StatusMonitor

/-! The checks of the joint states, over any sequence of messages. The monitor keeps the
time and the names of the last message only, so it reports joints as missing that another
recent message has brought: its verdict is that of the whole stream exactly when the last
message is recent and names all expected joints whenever each of them was named recently. -/

namespace MoveitPlanning.Service

open Foundation Scene

/-- A message as `record_joint_state` gets it. -/
structure ReceivedJointState where
  time : ℤ
  name : List Name
  deriving DecidableEq, Repr

/-- The monitor after the messages, in the order of their calls. -/
def afterMessages (client : MoveItStatusClient) (msgs : List ReceivedJointState) : MoveItStatusClient :=
  msgs.foldl (fun client msg => client.recordJointState msg.time msg.name) client

def jointStateTitles : List Name :=
  ["Joint States Offline".toList, "Joint States Stale".toList, "Missing Expected Joints".toList]

/-- Received within the last `joint_state_timeout_sec`. -/
def ReceivedJointState.Recent (fp : Rounding) (params : StatusParameters) (now : ℤ) (msg : ReceivedJointState) : Prop :=
  isStale fp params now msg.time = false

/-! ### The titles of the checks -/

/-- A check that ends with a report ends with one of the titles. -/
def Titled {α : Type} (titles : List Name) (check : Except SubsystemHealthReport α) : Prop :=
  ∀ report, check = .error report → report.title ∈ titles

namespace Titled
variable {α β : Type} {titles : List Name}

theorem ok (a : α) : Titled titles (.ok a : Except SubsystemHealthReport α) := nofun

theorem error {report : SubsystemHealthReport} (h : report.title ∈ titles) :
    Titled titles (.error report : Except SubsystemHealthReport α) := by
  intro r hr
  obtain rfl := Except.error.inj hr
  exact h

theorem bind {x : Except SubsystemHealthReport α} {f : α → Except SubsystemHealthReport β} (hx : Titled titles x)
    (hf : ∀ a, x = .ok a → Titled titles (f a)) : Titled titles (x >>= f) := by
  cases x with
  | error report => exact error (hx report rfl)
  | ok a => exact hf a rfl

theorem reportIf {fails : Bool} {title message instructions : Name} (h : title ∈ titles) :
    Titled titles (Service.reportIf fails title message instructions) := by
  cases fails with
  | true => exact error h
  | false => exact ok ()

end Titled

theorem reportIf_bind_eq_ok_iff {α : Type} {fails : Bool} {title message instructions : Name}
    {f : Unit → Except SubsystemHealthReport α} {a : α} :
    (reportIf fails title message instructions >>= f) = .ok a ↔ fails = false ∧ f () = .ok a := by
  cases fails with
  | true => exact ⟨nofun, nofun⟩
  | false => exact ⟨fun h => ⟨rfl, h⟩, fun h => h.2⟩

section Checks
variable {fp : Rounding} {tenths : Double → Name} {params : StatusParameters} {client : MoveItStatusClient}
  {env : HealthEnv}

theorem titled_checkJointStates : Titled jointStateTitles (checkJointStates fp tenths params client env) := by
  refine (Titled.reportIf (by simp [jointStateTitles])).bind fun _ _ => ?_
  refine (Titled.reportIf (by simp [jointStateTitles])).bind fun _ _ => ?_
  split
  · exact Titled.ok ()
  · exact Titled.error (by simp [jointStateTitles])

/-- The joint states pass when something was received, recently, and with all joints. -/
theorem checkJointStates_eq_ok_iff : checkJointStates fp tenths params client env = .ok () ↔
    client.lastJointStateTime ≠ 0 ∧ isStale fp params env.now client.lastJointStateTime = false ∧
      ∀ joint ∈ params.expectedJoints, joint ∈ client.receivedJointNames := by
  rw [checkJointStates, reportIf_bind_eq_ok_iff, reportIf_bind_eq_ok_iff, decide_eq_false_iff_not]
  refine and_congr_right fun _ => and_congr_right fun _ => ?_
  have hfind : (params.expectedJoints.find? fun joint => decide (joint ∉ client.receivedJointNames)) = none ↔
      ∀ joint ∈ params.expectedJoints, joint ∈ client.receivedJointNames := by
    simp [List.find?_eq_none]
  rw [← hfind]
  split
  · rename_i hnone
    exact ⟨fun _ => hnone, fun _ => rfl⟩
  · rename_i joint hsome
    exact ⟨nofun, fun hnone => nomatch hsome.symm.trans hnone⟩

/-- The titles of the checks after the joint states. -/
def laterTitles : List Name := ["MoveIt Robot State Uninitialized".toList, "TF Tree Incomplete".toList]

theorem titled_checkTransform {targetFrame sourceFrame target source instructions : Name} :
    Titled laterTitles (checkTransform env targetFrame sourceFrame target source instructions) := by
  unfold checkTransform
  split_ifs
  · exact Titled.ok ()
  · split
    · exact Titled.ok ()
    · exact Titled.error (by simp [laterTitles])

theorem titled_later (scene : PlanningSceneResponse) :
    Titled laterTitles (checkRobotState scene >>= fun _ => checkTransforms params env) := by
  refine (Titled.reportIf (by simp [laterTitles])).bind fun _ _ => ?_
  exact titled_checkTransform.bind fun _ _ => titled_checkTransform

/-- Once the checks before them pass, the report is one of joint states just when they fail. -/
theorem title_mem_iff {scene : PlanningSceneResponse} (hmock : params.useMockHardware = false)
    (hplanning : checkPlanning fp params env = .ok scene) :
    (checkHealth fp tenths params client env).title ∈ jointStateTitles ↔
      checkJointStates fp tenths params client env ≠ .ok () := by
  have hchecks : healthChecks fp tenths params client env =
      checkJointStates fp tenths params client env >>= fun _ =>
        checkRobotState scene >>= fun _ => checkTransforms params env := by
    rw [healthChecks, hplanning]
    simp [hmock, bind, Except.bind]
  have hjoints : Titled jointStateTitles (checkJointStates fp tenths params client env) := titled_checkJointStates
  have hdisjoint : ∀ title ∈ laterTitles, title ∉ jointStateTitles := by decide
  cases hcheck : checkJointStates fp tenths params client env with
  | error report =>
    have hreport : healthChecks fp tenths params client env = .error report := by
      rw [hchecks, hcheck]
      rfl
    rw [checkHealth, hreport]
    exact ⟨nofun, fun _ => hjoints report hcheck⟩
  | ok _ =>
    have hrest : healthChecks fp tenths params client env =
        (checkRobotState scene >>= fun _ => checkTransforms params env) := by
      rw [hchecks, hcheck]
      rfl
    refine ⟨fun h => ?_, fun h => absurd rfl h⟩
    rw [checkHealth, hrest] at h
    cases hlater : checkRobotState scene >>= fun _ => checkTransforms params env with
    | error report =>
      rw [hlater] at h
      exact absurd h (hdisjoint _ (titled_later scene report hlater))
    | ok _ =>
      rw [hlater] at h
      exact absurd h (show ([] : Name) ∉ jointStateTitles by decide)

end Checks

/-! ### The verdict and the stream -/

section Stream
variable {fp : Rounding} {tenths : Double → Name} {params : StatusParameters} {env : HealthEnv}

theorem afterMessages_concat (client : MoveItStatusClient) (msgs : List ReceivedJointState) (msg : ReceivedJointState) :
    afterMessages client (msgs ++ [msg]) = (afterMessages client msgs).recordJointState msg.time msg.name := by
  rw [afterMessages, List.foldl_append, List.foldl_cons, List.foldl_nil, afterMessages]

theorem afterMessages_eq (client : MoveItStatusClient) (msgs : List ReceivedJointState) :
    (afterMessages client msgs).lastJointStateTime = (msgs.getLast?.map (·.time)).getD client.lastJointStateTime ∧
      (afterMessages client msgs).receivedJointNames =
        (msgs.getLast?.map (·.name.toFinset)).getD client.receivedJointNames := by
  induction msgs using List.reverseRecOn with
  | nil => exact ⟨rfl, rfl⟩
  | append_singleton msgs msg _ =>
    rw [afterMessages_concat, List.getLast?_concat]
    exact ⟨rfl, rfl⟩

/-- The last message is a message of the stream that passes the checks by itself. -/
def LastMessagePasses (fp : Rounding) (params : StatusParameters) (now : ℤ) (msgs : List ReceivedJointState) : Prop :=
  ∃ last, msgs.getLast? = some last ∧ last.time ≠ 0 ∧ last.Recent fp params now ∧
    ∀ joint ∈ params.expectedJoints, joint ∈ last.name

theorem checkJointStates_afterMessages (msgs : List ReceivedJointState) :
    checkJointStates fp tenths params (afterMessages .init msgs) env = .ok () ↔
      LastMessagePasses fp params env.now msgs := by
  obtain ⟨htime, hnames⟩ := afterMessages_eq .init msgs
  rw [checkJointStates_eq_ok_iff, htime, hnames, LastMessagePasses]
  cases hlast : msgs.getLast? with
  | none => simp [MoveItStatusClient.init]
  | some last => simp [ReceivedJointState.Recent]

/-- The report on the joint states is right about the whole stream exactly when the last
message passes by itself, or some expected joint is in no recent message. -/
theorem joint_report_iff {msgs : List ReceivedJointState} {scene : PlanningSceneResponse}
    (hmock : params.useMockHardware = false) (hplanning : checkPlanning fp params env = .ok scene) :
    ((checkHealth fp tenths params (afterMessages .init msgs) env).title ∈ jointStateTitles ↔
      ∃ joint ∈ params.expectedJoints, ∀ msg ∈ msgs, msg.Recent fp params env.now → joint ∉ msg.name) ↔
      LastMessagePasses fp params env.now msgs ∨
        ∃ joint ∈ params.expectedJoints, ∀ msg ∈ msgs, msg.Recent fp params env.now → joint ∉ msg.name := by
  rw [title_mem_iff hmock hplanning, Ne, checkJointStates_afterMessages]
  constructor
  · intro h
    exact or_iff_not_imp_left.mpr h.mp
  · intro h
    constructor
    · exact h.resolve_left
    · -- the last message is one of the stream
      rintro ⟨joint, hjoint, hnone⟩ ⟨last, hlast, -, hrecent, hall⟩
      exact hnone last (List.mem_of_getLast? hlast) hrecent (hall joint hjoint)

theorem ReceivedJointState.Recent.mono {now : ℤ} {msg last : ReceivedJointState} (h : msg.Recent fp params now)
    (hle : msg.time ≤ last.time) : last.Recent fp params now := by
  obtain ⟨hage, hne⟩ := durationSeconds_mono fp (show now - last.time ≤ now - msg.time by omega)
  rw [Recent, isStale, Double.lt, decide_eq_false_iff_not] at h ⊢
  exact fun hlt => h ⟨hlt.1, hne, hlt.2.2.trans_le hage⟩

/-- When the clock starts above 0 and does not go back, and some joint is expected, the last
message need only name all expected joints. -/
theorem lastMessagePasses_or_iff {now : ℤ} {msgs : List ReceivedJointState} (hne : params.expectedJoints ≠ [])
    (hclock : msgs.Pairwise fun msg msg' => msg.time ≤ msg'.time) (hpos : ∀ msg ∈ msgs, 0 < msg.time) :
    (LastMessagePasses fp params now msgs ∨
        ∃ joint ∈ params.expectedJoints, ∀ msg ∈ msgs, msg.Recent fp params now → joint ∉ msg.name) ↔
      (∃ last, msgs.getLast? = some last ∧ ∀ joint ∈ params.expectedJoints, joint ∈ last.name) ∨
        ∃ joint ∈ params.expectedJoints, ∀ msg ∈ msgs, msg.Recent fp params now → joint ∉ msg.name := by
  constructor
  · exact Or.imp_left fun ⟨last, hlast, _, _, hall⟩ => ⟨last, hlast, hall⟩
  · rintro (⟨last, hlast, hall⟩ | hmissing)
    · obtain ⟨joint, hjoint⟩ := List.exists_mem_of_ne_nil _ hne
      by_cases hrecent : last.Recent fp params now
      · exact .inl ⟨last, hlast, (hpos last (List.mem_of_getLast? hlast)).ne', hrecent, hall⟩
      · -- nothing before the last message is recent either
        refine .inr ⟨joint, hjoint, fun msg hmsg hmsgRecent => absurd (hmsgRecent.mono ?_) hrecent⟩
        obtain ⟨before, rfl⟩ := List.getLast?_eq_some_iff.mp hlast
        rcases List.mem_append.mp hmsg with hbefore | hself
        · exact (List.pairwise_append.mp hclock).2.2 msg hbefore last (by simp)
        · rw [List.mem_singleton.mp hself]
    · exact .inr hmissing

end Stream

/-! ### Two publishers -/

namespace Sample

/-- Everything but the joint states is as it should be. -/
def healthEnv (now : ℤ) : HealthEnv where
  getSceneAvailable _ := true
  sceneResponse _ := some (.ok ⟨["box".toList], ["shoulder".toList]⟩)
  motionPlanReady := true
  graspPlanReady := true
  now
  canTransform _ _ := .ok ()

/-- An arm and a gripper with one joint each. -/
def statusParameters : StatusParameters :=
  { StatusParameters.declared with expectedJoints := ["elbow".toList, "finger".toList] }

/-- The arm and the gripper publish in turn, within a tenth of a second. -/
def armThenGripper : List ReceivedJointState :=
  [⟨1000000000, ["elbow".toList]⟩, ⟨1100000000, ["finger".toList]⟩]

end Sample

/-- Both joints have just been received, and one is reported missing. -/
theorem split_publishers_reported :
    (checkHealth .exact (fun _ => []) Sample.statusParameters (afterMessages .init Sample.armThenGripper)
      (Sample.healthEnv 1200000000)).title = "Missing Expected Joints".toList ∧
      ¬∃ joint ∈ Sample.statusParameters.expectedJoints, ∀ msg ∈ Sample.armThenGripper,
        msg.Recent .exact Sample.statusParameters 1200000000 → joint ∉ msg.name := by
  unfold ReceivedJointState.Recent
  decide +kernel

theorem joint_report_iff_together : let msgs : List ReceivedJointState :=
      Sample.armThenGripper ++ [⟨1150000000, ["elbow".toList, "finger".toList]⟩]
    ((checkHealth .exact (fun _ => []) Sample.statusParameters (afterMessages .init msgs)
        (Sample.healthEnv 1200000000)).title ∈ jointStateTitles ↔
      ∃ joint ∈ Sample.statusParameters.expectedJoints, ∀ msg ∈ msgs,
        msg.Recent .exact Sample.statusParameters 1200000000 → joint ∉ msg.name) ↔
      LastMessagePasses .exact Sample.statusParameters 1200000000 msgs ∨
        ∃ joint ∈ Sample.statusParameters.expectedJoints, ∀ msg ∈ msgs,
          msg.Recent .exact Sample.statusParameters 1200000000 → joint ∉ msg.name := by
  intro msgs
  have hplanning : checkPlanning .exact Sample.statusParameters (Sample.healthEnv 1200000000) =
      .ok ⟨["box".toList], ["shoulder".toList]⟩ := rfl
  exact joint_report_iff rfl hplanning

end MoveitPlanning.Service
