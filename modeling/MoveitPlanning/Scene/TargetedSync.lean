import MoveitPlanning.Scene.Publish
import MoveitPlanning.Scene.FetchPlan
import Mathlib.Tactic.FinCases

/-! A fetch and the ADD pass after it are given the same argument, but read it
differently: `GetObjects` takes World object names, with an empty list for all
objects, and `addCollisionObjectsToScene` takes tracked frames, with an empty list
for none. What a fetch brought in is therefore published exactly when the argument
is absent or happens to name every frame in question. -/

namespace MoveitPlanning.Scene

open Foundation

variable {R : Type*} [Zero R] [One R]

variable (lib : Library R) (cfg : Config R) (world : WorldClient R) (ord : IterOrder Name) (now : ℤ)

/-- The ADD pass after a fetch of `objects` publishes every tracked frame of them. -/
def PublishesFetched (objectNames : Option (List Name)) (objects : List (WorldObject R)) (σ : Data R) :
    Prop :=
  let (_, σ', msgs) := fetchAndSynchronizeCollisionObjects lib ord now cfg world objectNames σ
  ∀ f, FrameOf cfg objects f → σ'.Tracked f → ∃ msg ∈ msgs, msg.operation = .add ∧ msg.id = f

variable {lib cfg world ord now}

theorem fetchAndSynchronizeCollisionObjects_ok {objectNames : Option (List Name)}
    {objects : List (WorldObject R)} {σ : Data R}
    (hresp : world.getObjects (requestNames objectNames) = .ok objects) :
    fetchAndSynchronizeCollisionObjects lib ord now cfg world objectNames σ =
      (.ok (), fetchItems σ (fetchPlan lib cfg world.getGltf objects),
        addCollisionObjectsToScene lib ord now
          (fetchItems σ (fetchPlan lib cfg world.getGltf objects)) objectNames) := by
  simp only [fetchAndSynchronizeCollisionObjects, fetchAndSynchronize, hresp]

/-- A list of names covers what was fetched exactly when it names, as frames, all
frames of the response that were tracked before or are tracked now. -/
theorem publishesFetched_iff {objectNames : Option (List Name)} {objects : List (WorldObject R)}
    {σ : Data R} (hresp : world.getObjects (requestNames objectNames) = .ok objects)
    (hget : Retrieved σ (fetchPlan lib cfg world.getGltf objects)) :
    PublishesFetched lib cfg world ord now objectNames objects σ ↔
      ∀ names, objectNames = some names → ∀ f, FrameOf cfg objects f →
        (σ.Tracked f ∨ CollisionFrame cfg objects f) → f ∈ names := by
  rw [PublishesFetched, fetchAndSynchronizeCollisionObjects_ok hresp]
  simp only [← exists_mem_fetchPlan_frame lib cfg world.getGltf objects, ← fetchItems_tracked hget]
  constructor
  · intro h names hn f hf ht
    exact (exists_add_iff lib now objectNames ht).mp (h f hf ht) names hn
  · intro h f hf ht
    exact (exists_add_iff lib now objectNames ht).mpr fun names hn => h names hn f hf ht

/-- A box that is fetched by its object name, or with the empty list, is not
published: its frame is `box/whole`. -/
theorem fetched_box_not_published :
    let world := Sample.client [Sample.object "box".toList (Sample.boxGeometry 1)]
    let objects := [Sample.object "box".toList (Sample.boxGeometry 1)]
    ∀ names ∈ [["box".toList], []],
      world.getObjects (requestNames (some names)) = .ok objects ∧
      Retrieved (Data.init : Data ℚ) (fetchPlan Sample.library Config.default world.getGltf objects) ∧
      ¬PublishesFetched Sample.library Config.default world (.increasing Name) 0 (some names) objects
        Data.init := by
  intro world objects names hn
  have hresp : world.getObjects (requestNames (some names)) = .ok objects := by
    fin_cases hn <;> rfl
  have hget : Retrieved (Data.init : Data ℚ)
      (fetchPlan Sample.library Config.default world.getGltf objects) :=
    retrieved_of_answered _ (by decide)
  refine ⟨hresp, hget, fun h => ?_⟩
  have hf : FrameOf (Config.default : Config ℚ) objects "box/whole".toList :=
    ⟨_, List.mem_singleton_self _, ⟨by decide, by decide⟩, _, List.mem_singleton_self _, by decide⟩
  rw [PublishesFetched, fetchAndSynchronizeCollisionObjects_ok hresp] at h
  have ht := (fetchItems_tracked hget "box/whole".toList).mpr (.inr (by decide))
  have hmem := (exists_add_iff _ _ _ ht).mp (h _ hf ht) names rfl
  fin_cases hn <;> revert hmem <;> decide

theorem publishesFetched_iff_box :
    let world := Sample.client [Sample.object "box".toList (Sample.boxGeometry 1)]
    let objects := [Sample.object "box".toList (Sample.boxGeometry 1)]
    PublishesFetched Sample.library Config.default world (.increasing Name) 0
        (some ["box".toList]) objects Data.init ↔
      ∀ names, some ["box".toList] = some names → ∀ f, FrameOf (Config.default : Config ℚ) objects f →
        ((Data.init : Data ℚ).Tracked f ∨ CollisionFrame Config.default objects f) → f ∈ names :=
  publishesFetched_iff (by rfl) (retrieved_of_answered _ (by decide))

end MoveitPlanning.Scene
