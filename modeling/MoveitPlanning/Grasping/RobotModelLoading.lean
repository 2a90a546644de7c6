import MoveitPlanning.Foundation.OnceCell
import MoveitPlanning.Grasping.Messages

/-! The robot model of the pipeline. The constructor loads it if the node knows the robot's
description; otherwise `GetRobotModel` loads it when it is first needed, under a mutex,
but it checks and returns the pointer without the mutex. Goals are executed on threads of
their own that share the pipeline, so the calls of `GetRobotModel` interleave. -/

namespace MoveitPlanning.Grasping

open Foundation

/-- What the constructor is given and meets. -/
structure PipelineSetup where
  robotModel : Option RobotModel
  /-- `node_` is not null -/
  node : Bool
  /-- the node has the parameter `robot_description` -/
  hasRobotDescription : Bool
  /-- what `getModel` gives, a null pointer included, or nothing if the loader throws -/
  loaded : Option (Option RobotModel)

/-- `robot_model_` after the constructor. -/
def PipelineSetup.constructed (setup : PipelineSetup) : Option RobotModel :=
  if setup.robotModel.isNone && setup.node && setup.hasRobotDescription then setup.loaded.getD none
  else setup.robotModel

/-- The calls of `GetRobotModel`; a load is that of `RobotModelLoader` and `getModel`. -/
def getRobotModelStep (setup : PipelineSetup) :
    OnceState RobotModel → OnceLabel RobotModel → Option (OnceState RobotModel) :=
  onceStep setup.node

/-- The reads of `robot_model_` without the mutex race with its store in some run exactly when
the constructor has left the pointer null and there is a node to load from. -/
theorem robot_model_races_iff (setup : PipelineSetup) :
    (∃ s, Reachable (getRobotModelStep setup) (.start setup.constructed) s ∧ s.Races) ↔
      setup.node = true ∧ setup.robotModel = none ∧
        (setup.hasRobotDescription = true → setup.loaded.getD none = none) := by
  rw [getRobotModelStep, races_iff, PipelineSetup.constructed]
  cases hnode : setup.node with
  | false => simp
  | true =>
    cases hgiven : setup.robotModel with
    | some model => simp
    | none => cases hdescription : setup.hasRobotDescription <;> simp

/-- Were the accesses of the pointer atomic, then in every interleaving at most one load would
come to a model, all calls that return one would return the same, for good, and a call would
return null only without a node or when its own load has come to nothing. -/
theorem robot_model_loaded_once {setup : PipelineSetup} {log : List (OnceLabel RobotModel)} {s : OnceState RobotModel}
    (h : exec (getRobotModelStep setup) (.start setup.constructed) log = some s) :
    log.countP OnceLabel.succeeds ≤ 1 ∧
    (∀ (c : ℕ) (model : RobotModel), s.callers[c]? = some (.returned (some model)) → ∀ rest t,
      exec (getRobotModelStep setup) s rest = some t → t.cell = some model) ∧
    ∀ c : ℕ, s.callers[c]? = some (.returned none) → setup.node = false ∨ FailedLoad log c := by
  have hinv := onceInv_of_run h
  refine ⟨hinv.once, ?_, ?_⟩
  · intro c model hc rest t hrest
    have hcell : s.cell = some model := hinv.explained c _ hc
    exact cell_kept_of_run h hrest hcell
  · intro c hc
    exact hinv.explained c _ hc

namespace Sample

/-- A node without the parameter, as `main` makes it. -/
def lazySetup : PipelineSetup := ⟨none, true, false, none⟩

def robotModel : RobotModel := ⟨"world".toList, fun _ => true, fun _ => true, fun _ => none⟩

/-- The load of the first call throws, and the second call loads the model. -/
def loadingRun : List (OnceLabel RobotModel) :=
  [.call, .call, .access 0, .access 1, .access 0, .access 0, .load 0 none, .access 0, .access 0, .access 1, .access 1,
    .load 1 (some (some robotModel)), .access 1, .access 1, .access 1]

def loadedState : OnceState RobotModel := ⟨some robotModel, none, [.returned none, .returned (some robotModel)]⟩

end Sample

theorem robot_model_loaded_once_second : Sample.loadingRun.countP OnceLabel.succeeds ≤ 1 ∧
    (∀ (c : ℕ) (model : RobotModel), Sample.loadedState.callers[c]? = some (.returned (some model)) → ∀ rest t,
      exec (getRobotModelStep Sample.lazySetup) Sample.loadedState rest = some t → t.cell = some model) ∧
    ∀ c : ℕ, Sample.loadedState.callers[c]? = some (.returned none) →
      Sample.lazySetup.node = false ∨ FailedLoad Sample.loadingRun c :=
  robot_model_loaded_once rfl

end MoveitPlanning.Grasping
