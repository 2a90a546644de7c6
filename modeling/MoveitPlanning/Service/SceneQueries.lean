import MoveitPlanning.Foundation.RequestTable
import MoveitPlanning.Service.Readiness

/-! The queries of move_group's planning scene. The synchronizing thread and the threads of
the goals share the node's one client of `/get_planning_scene`, and each query waits for its
response with a timeout, after which it removes its request; an executor of its own receives
the responses. Which request a response belongs to is the client's affair, so what a query
gives is that of its own request in every interleaving, and no request is left behind. -/

namespace MoveitPlanning.Service

open Foundation Scene Grasping

/-- A planning scene that move_group answers with, as far as it is read. -/
structure SceneContents where
  collisionObjects : List (CollisionObject Double)
  robotStateJointNames : List Name

/-- What `future.get()` gives. -/
abbrev SceneAnswer := Except Name SceneContents

def SceneContents.response (scene : SceneContents) : PlanningSceneResponse :=
  ⟨scene.collisionObjects.map CollisionObject.id, scene.robotStateJointNames⟩

/-! ### The queries, by what their request comes to -/

/-- `GetPlanningSceneObjectIds`. -/
def getPlanningSceneObjectIds : Option SceneAnswer → List Name
  | some (.ok scene) => scene.collisionObjects.map CollisionObject.id
  | _ => []

/-- `GetPlanningSceneCollisionObject`. -/
def getPlanningSceneCollisionObject (objectId : Name) : Option SceneAnswer → Option (CollisionObject Double)
  | some (.ok scene) => scene.collisionObjects.find? fun object => object.id = objectId
  | _ => none

/-- The fourth step of `orchestrate_scene_synchronization`. -/
def querySceneOutcome : Option SceneAnswer → QueryOutcome
  | none => .timedOut
  | some (.error text) => .exception text
  | some (.ok scene) => .response scene.response

inductive SceneQuery
  | objectIds
  | collisionObject (objectId : Name)
  | readiness
  deriving DecidableEq

inductive SceneResult
  | objectIds (ids : List Name)
  | collisionObject (object : Option (CollisionObject Double))
  | readiness (outcome : QueryOutcome)

def SceneQuery.result : SceneQuery → Option SceneAnswer → SceneResult
  | objectIds, answer => .objectIds (getPlanningSceneObjectIds answer)
  | collisionObject objectId, answer => .collisionObject (getPlanningSceneCollisionObject objectId answer)
  | readiness, answer => .readiness (querySceneOutcome answer)

/-- What query number `c` has returned. -/
def sceneResult (s : ClientState SceneQuery SceneAnswer) (c : ℕ) : Option SceneResult :=
  s.callers[c]?.bind fun caller =>
    match caller.pc with
    | .returned _ response => some (caller.query.result response)
    | _ => none

theorem sceneResult_eq_some {s : ClientState SceneQuery SceneAnswer} {c : ℕ} {result : SceneResult}
    (h : sceneResult s c = some result) : ∃ query request response,
      s.callers[c]? = some ⟨query, .returned request response⟩ ∧ query.result response = result := by
  obtain ⟨⟨query, pc⟩, hc, hresult⟩ := Option.bind_eq_some_iff.mp h
  cases pc with
  | returned request response => exact ⟨query, request, response, hc, Option.some.inj hresult⟩
  | _ => cases hresult

/-! ### Steps -/

/-- The queries of the goals look whether there is a service; the synchronizing thread has
waited for one before, and sends. -/
def looksForService (s : ClientState SceneQuery SceneAnswer) : ClientLabel SceneQuery SceneAnswer → Bool
  | .caller c .unavailable => s.callers[c]?.any fun caller => caller.query != .readiness
  | _ => true

def sceneQueryStep (s : ClientState SceneQuery SceneAnswer) (l : ClientLabel SceneQuery SceneAnswer) :
    Option (ClientState SceneQuery SceneAnswer) :=
  if looksForService s l then clientStep s l else none

theorem unavailable_of_unsent {table table' : RequestTable SceneAnswer} {pc : CallerPc SceneAnswer} {label : CallerLabel}
    {response : Option SceneAnswer} (h : callerStep table pc label = some (.returned none response, table')) :
    label = .unavailable := by
  cases label with
  | unavailable => rfl
  | ready =>
    cases pc with
    | waiting k =>
      obtain ⟨v, -, heq⟩ := Option.map_eq_some_iff.mp h
      cases heq
    | _ => cases h
  | timeOut =>
    cases pc with
    | waiting k =>
      obtain ⟨-, heq⟩ := Option.ite_none_right_eq_some.mp h
      cases heq
    | _ => cases h
  | _ => cases pc <;> cases h

/-- A query that sent nothing is one of the goals'. -/
def UnsentInv (s : ClientState SceneQuery SceneAnswer) : Prop :=
  ∀ (c : ℕ) (query : SceneQuery) (response : Option SceneAnswer),
    s.callers[c]? = some ⟨query, .returned none response⟩ → query ≠ .readiness

theorem clientStep_of_sceneQueryStep (s : ClientState SceneQuery SceneAnswer) (l : ClientLabel SceneQuery SceneAnswer)
    (t : ClientState SceneQuery SceneAnswer) (h : sceneQueryStep s l = some t) : clientStep s l = some t :=
  (Option.ite_none_right_eq_some.mp h).2

theorem UnsentInv.step (s : ClientState SceneQuery SceneAnswer) (l : ClientLabel SceneQuery SceneAnswer)
    (t : ClientState SceneQuery SceneAnswer) (h : UnsentInv s) (hstep : sceneQueryStep s l = some t) : UnsentInv t := by
  obtain ⟨hlooks, hstep⟩ := Option.ite_none_right_eq_some.mp hstep
  intro c query response hc
  cases l with
  | call asked =>
    cases hstep
    rcases getElem?_append_singleton hc with hold | ⟨-, heq⟩
    · exact h c query response hold
    · cases heq
  | caller d label =>
    obtain ⟨⟨asked, pc⟩, hd, hstep⟩ := Option.bind_eq_some_iff.mp hstep
    obtain ⟨⟨pc', table'⟩, hcaller, heq⟩ := Option.map_eq_some_iff.mp hstep
    cases heq
    rcases getElem?_set_eq_some hc with ⟨rfl, heq⟩ | ⟨-, hold⟩
    · cases heq
      obtain rfl := unavailable_of_unsent hcaller
      simpa [looksForService, hd] using hlooks
    · exact h c query response hold
  | receive k v =>
    obtain ⟨-, heq⟩ := Option.ite_none_right_eq_some.mp hstep
    cases heq
    exact h c query response hc

theorem unsentInv_of_run {log : List (ClientLabel SceneQuery SceneAnswer)} {s : ClientState SceneQuery SceneAnswer}
    (h : exec sceneQueryStep .empty log = some s) : UnsentInv s := by
  have hreachable : Reachable sceneQueryStep .empty s := ⟨log, h⟩
  apply hreachable.invariant _ UnsentInv.step
  intro c query response hc
  simp [ClientState.empty] at hc

/-- In every interleaving of the queries with the arrivals of responses, a query that has
returned gives what the first response to a request of its own makes of it, or, when no
response to that request had come by the end of its wait or, for the queries of the goals,
there was no service, what the lack of one makes; and no more requests are pending than
there are queries under way. -/
theorem queries_answered {log : List (ClientLabel SceneQuery SceneAnswer)} {s : ClientState SceneQuery SceneAnswer}
    (h : exec sceneQueryStep .empty log = some s) :
    (∀ c result, sceneResult s c = some result → ∃ query request response,
      s.callers[c]? = some ⟨query, .returned request response⟩ ∧
      (request = none ∧ query ≠ .readiness ∧ result = query.result none ∨ ∃ k, request = some k ∧
        (∀ d caller, s.callers[d]? = some caller → caller.pc.request? = some k → d = c) ∧
        ((∃ answer, firstResponse k log = some answer ∧ result = query.result (some answer)) ∨
          GaveUp log c k ∧ result = query.result none))) ∧
    s.table.pending.card ≤ s.callers.countP fun caller => caller.pc.holds?.isSome := by
  have hinv := callersInv_of_run (exec_mono clientStep_of_sceneQueryStep h)
  refine ⟨?_, hinv.pending_card_le⟩
  intro c result hresult
  obtain ⟨query, request, response, hc, rfl⟩ := sceneResult_eq_some hresult
  refine ⟨query, request, response, hc, ?_⟩
  rcases hinv.result hc with ⟨rfl, rfl⟩ | ⟨k, hrequest, hown, hanswer⟩
  · exact .inl ⟨rfl, unsentInv_of_run h c query _ hc, rfl⟩
  · refine .inr ⟨k, hrequest, hown, ?_⟩
    rcases hanswer with ⟨answer, rfl, hfirst⟩ | ⟨rfl, hgaveUp⟩
    · exact .inl ⟨answer, hfirst, rfl⟩
    · exact .inr ⟨hgaveUp, rfl⟩

namespace Sample

/-- A planning scene with nothing in it. -/
def emptyScene : SceneContents := ⟨[], []⟩

/-- Two queries wait at once; the first gives up, and its response comes too late. -/
def lateResponse : List (ClientLabel SceneQuery SceneAnswer) :=
  [.call .readiness, .call .objectIds, .caller 0 .send, .caller 1 .send, .caller 0 .timeOut,
    .receive 1 (.error "down".toList), .receive 0 (.ok emptyScene), .caller 0 .remove, .caller 1 .ready]

def lateState : ClientState SceneQuery SceneAnswer where
  table := ⟨[some (.ok emptyScene), some (.error "down".toList)], ∅, by simp⟩
  callers := [⟨.readiness, .returned (some 0) none⟩, ⟨.objectIds, .returned (some 1) (some (.error "down".toList))⟩]

theorem late_run : exec sceneQueryStep .empty lateResponse = some lateState := rfl

end Sample

theorem queries_answered_late : (∃ query request response,
      Sample.lateState.callers[0]? = some ⟨query, .returned request response⟩ ∧
      (request = none ∧ query ≠ .readiness ∧ SceneResult.readiness .timedOut = query.result none ∨ ∃ k, request = some k ∧
        (∀ d caller, Sample.lateState.callers[d]? = some caller → caller.pc.request? = some k → d = 0) ∧
        ((∃ answer, firstResponse k Sample.lateResponse = some answer ∧
            SceneResult.readiness .timedOut = query.result (some answer)) ∨
          GaveUp Sample.lateResponse 0 k ∧ SceneResult.readiness .timedOut = query.result none))) ∧
    Sample.lateState.table.pending.card ≤ 0 :=
  ⟨(queries_answered Sample.late_run).1 0 _ rfl, (queries_answered Sample.late_run).2⟩

end MoveitPlanning.Service
