import MoveitPlanning.Foundation.TagClash
import MoveitPlanning.Grasping.Provenance

/-! The ids of grasps. The loop over the solutions of one candidate numbers its grasps, so
the grasps of one candidate have different ids and the `n`-th grasps of two candidates have
the same. Both get into a result unless the better ones, and the two themselves, already
fill it. -/

namespace MoveitPlanning.Grasping

open Foundation Scene
open scoped List

/-- The id of the `n`-th grasp of a candidate. -/
def graspId (n : ℕ) : Name := "grasp_".toList ++ Nat.toDigits 10 n

theorem graspId_injective : Function.Injective graspId := by
  intro m n h
  have hdigits : Nat.toDigits 10 m = Nat.toDigits 10 n := List.append_cancel_left h
  rw [← Nat.ofDigitChars_ten_toDigits (n := m), hdigits, Nat.ofDigitChars_ten_toDigits]

/-! ### The ids of a candidate -/

section Ids
variable {fp : Rounding} {env : ℕ → PlanningEnv} {goal : Goal}

theorem validGrasps_id {inputs : LoopInputs} {solutions : List (Option Solution)} {n i : ℕ} {g : RankedGrasp}
    (h : (validGrasps fp inputs n solutions)[i]? = some g) : g.grasp.id = graspId (n + i) := by
  induction solutions generalizing n i with
  | nil => exact nomatch h
  | cons solution rest ih =>
    rw [validGrasps] at h
    cases he : extractGrasp fp inputs n solution with
    | none =>
      rw [he] at h
      exact ih h
    | some first =>
      rw [he] at h
      cases i with
      | zero =>
        obtain rfl := Option.some.inj h
        obtain ⟨s, states, pregrasp, -, -, -, rfl⟩ := extractGrasp_eq_some fp inputs he
        rfl
      | succ i =>
        rw [ih h, Nat.add_right_comm, Nat.add_assoc]

theorem allGrasps_id {c n : ℕ} {g : RankedGrasp} (h : (allGrasps fp env goal c)[n]? = some g) :
    g.grasp.id = graspId n := by
  unfold allGrasps candidateGrasps at h
  split at h
  · exact nomatch h
  · split at h
    · exact nomatch h
    · rw [validGrasps_id h, Nat.zero_add]

/-- What the candidate at an index contributes to the merged grasps. -/
def keptGrasps (fp : Rounding) (env : ℕ → PlanningEnv) (goal : Goal) (c : ℕ) : List RankedGrasp :=
  (allGrasps fp env goal c).take goal.maxNumGraspsOrOne

theorem keptGrasps_getElem?_eq_some {c n : ℕ} {g : RankedGrasp} :
    (keptGrasps fp env goal c)[n]? = some g ↔
      n < goal.maxNumGraspsOrOne ∧ (allGrasps fp env goal c)[n]? = some g := by
  rw [keptGrasps, List.getElem?_take]
  split_ifs with hn
  · rw [and_iff_right hn]
  · exact ⟨nofun, fun h => absurd h.1 hn⟩

/-- The valid grasps of the candidates before ranking. -/
def mergedGrasps (fp : Rounding) (env : ℕ → PlanningEnv) (goal : Goal) : List RankedGrasp :=
  ((List.range goal.candidates.length).map (keptGrasps fp env goal)).flatten

/-- Merged grasps with the same id are those with the same number, of different candidates. -/
theorem pairwise_mergedGrasps_iff {R : RankedGrasp → RankedGrasp → Prop} :
    ((mergedGrasps fp env goal).Pairwise fun g h => g.grasp.id = h.grasp.id → R g h) ↔
      ∀ c d, c < d → d < goal.candidates.length → ∀ n < goal.maxNumGraspsOrOne, ∀ g h,
        (allGrasps fp env goal c)[n]? = some g → (allGrasps fp env goal d)[n]? = some h → R g h := by
  rw [mergedGrasps, List.pairwise_flatten, List.pairwise_map]
  constructor
  · rintro ⟨-, hpairs⟩ c d hcd hd n hn g h hg hh
    have hne := List.pairwise_iff_getElem.mp hpairs c d (by simpa using hcd.trans hd) (by simpa using hd) hcd
    rw [List.getElem_range, List.getElem_range] at hne
    refine hne g (List.mem_of_getElem? (keptGrasps_getElem?_eq_some.mpr ⟨hn, hg⟩)) h
      (List.mem_of_getElem? (keptGrasps_getElem?_eq_some.mpr ⟨hn, hh⟩)) ?_
    rw [allGrasps_id hg, allGrasps_id hh]
  · intro hR
    constructor
    · -- the grasps of one candidate have different numbers
      intro l hl
      obtain ⟨c, -, rfl⟩ := List.mem_map.mp hl
      refine List.pairwise_iff_getElem.mpr fun i j hi hj hij hid => ?_
      rw [allGrasps_id (keptGrasps_getElem?_eq_some.mp (List.getElem?_eq_getElem hi)).2,
        allGrasps_id (keptGrasps_getElem?_eq_some.mp (List.getElem?_eq_getElem hj)).2] at hid
      exact absurd (graspId_injective hid) hij.ne
    · refine List.pairwise_iff_getElem.mpr fun c d hc hd hcd => ?_
      rw [List.getElem_range, List.getElem_range]
      intro g hg h hh hid
      obtain ⟨m, hm⟩ := List.mem_iff_getElem?.mp hg
      obtain ⟨n, hn⟩ := List.mem_iff_getElem?.mp hh
      obtain ⟨-, hgm⟩ := keptGrasps_getElem?_eq_some.mp hm
      obtain ⟨hlt, hhn⟩ := keptGrasps_getElem?_eq_some.mp hn
      rw [allGrasps_id hgm, allGrasps_id hhn] at hid
      obtain rfl := graspId_injective hid
      exact hR c d hcd (by simpa using hd) m hlt g h hgm hhn

end Ids

/-! ### The ids of a result -/

theorem map_eq_map_of_forall₂ {α β γ : Type*} {f : α → γ} {g : β → γ} {as : List α} {bs : List β}
    (h : List.Forall₂ (fun a b => f a = g b) as bs) : as.map f = bs.map g := by
  induction h with
  | nil => rfl
  | cons hab _ ih => rw [List.map_cons, List.map_cons, hab, ih]

/-- The ids of the action's result, and of an answer of the skill that it comes to. -/
structure DistinctIds (fp : Rounding) (sort : StdSort qualityGreater) (isCanceling : ℕ → Bool)
    (env : ℕ → PlanningEnv) (goal : Goal) : Prop where
  result : ((executePlanGraspsAction fp sort isCanceling env goal).result.rankedGrasps.map fun g =>
    g.grasp.id).Nodup
  answer : ∀ {W Object Node : Type} (world : ObjectWorld W Object Node) (params : GraspPlanningParams) (nowMs : ℤ)
    (sceneReady : Bool) (w w' : W) (response : GraspPlanningResult), createPlanGraspsGoal fp params = goal →
      execute fp nowMs (actionServer fp sort isCanceling env sceneReady) world (.ok params) w =
        (.ok response, w') →
      (response.grasps.map fun p => p.graspId).Nodup

/-- The `n`-th grasps of two candidates do not both get into a result: at least as many
grasps as it holds come before the second of them. -/
def SameNumbersApart (fp : Rounding) (env : ℕ → PlanningEnv) (goal : Goal) : Prop :=
  ∀ c d, c < d → d < goal.candidates.length → ∀ n < goal.maxNumGraspsOrOne, ∀ g h,
    (allGrasps fp env goal c)[n]? = some g → (allGrasps fp env goal d)[n]? = some h →
      Apart quality goal.maxNumGraspsOrOne (mergedGrasps fp env goal) g h

section Result
variable {fp : Rounding} {sort : StdSort qualityGreater} {isCanceling : ℕ → Bool} {env : ℕ → PlanningEnv}
  {goal : Goal}

theorem graspIds_of_execute {W Object Node : Type} {world : ObjectWorld W Object Node} {params : GraspPlanningParams}
    {nowMs : ℤ} {sceneReady : Bool} {w w' : W} {response : GraspPlanningResult}
    (h : execute fp nowMs (actionServer fp sort isCanceling env sceneReady) world (.ok params) w =
      (.ok response, w')) :
    (response.grasps.map fun p => p.graspId) =
      (executePlanGraspsAction fp sort isCanceling env
        (createPlanGraspsGoal fp params)).result.rankedGrasps.map fun g => g.grasp.id := by
  obtain ⟨results, hresults, rfl, -⟩ := execute_eq_ok fp nowMs _ world w h
  obtain ⟨-, -, -, hrecords⟩ := planningResults_of_server hresults
  have hids := map_eq_map_of_forall₂ (f := fun g : RankedGrasp => g.grasp.id)
    (g := fun r : ObjectPlanningResult => r.grasp.id) <| hrecords.imp fun g r hrecord => by
      obtain ⟨c, object, -, rfl⟩ := hrecord
      rfl
  rw [hids]
  refine List.ext_getElem? fun i => ?_
  rw [graspPlanningResult, List.getElem?_map, List.getElem?_map, List.getElem?_mapIdx, Option.map_map]
  rfl

/-- The ids of a successful run are distinct, whatever the sort does with equal qualities,
exactly when grasps of two candidates with one number do not both get into the result. -/
theorem grasp_ids_distinct_iff
    (hsuccess : (executePlanGraspsAction fp sort isCanceling env goal).result.errorCode = .success) :
    (∀ sort', DistinctIds fp sort' isCanceling env goal) ↔ SameNumbersApart fp env goal := by
  have hpasses := not_stops_of_success hsuccess
  have hmerged : graspsBefore fp env goal goal.candidates.length = mergedGrasps fp env goal :=
    graspsBefore_eq_flatten hpasses
  have hresult : ∀ sort' : StdSort qualityGreater,
      (executePlanGraspsAction fp sort' isCanceling env goal).result.rankedGrasps =
        (sort'.sort (mergedGrasps fp env goal)).take goal.maxNumGraspsOrOne := by
    intro sort'
    rw [(execute_of_no_stop sort' hpasses).2.1, rankGrasps, hmerged]
  have hkey : ∀ a ∈ mergedGrasps fp env goal, ∀ b ∈ mergedGrasps fp env goal,
      qualityGreater a b = true ↔ quality b < quality a := by
    rw [← hmerged]
    exact fun a ha b hb =>
      qualityGreater_iff (graspsBefore_ne_nan fp env goal ha) (graspsBefore_ne_nan fp env goal hb)
  have hdistinct : (∀ sort', DistinctIds fp sort' isCanceling env goal) ↔ ∀ sort' : StdSort qualityGreater,
      (((sort'.sort (mergedGrasps fp env goal)).take goal.maxNumGraspsOrOne).map fun g => g.grasp.id).Nodup := by
    constructor
    · exact fun h sort' => hresult sort' ▸ (h sort').result
    · intro h sort'
      refine ⟨(hresult sort').symm ▸ h sort', ?_⟩
      rintro W Object Node world params nowMs sceneReady w w' response rfl hexecute
      rw [graspIds_of_execute hexecute, hresult sort']
      exact h sort'
  rw [hdistinct, sort.forall_sort_iff hkey (P := fun m => ((m.take _).map _).Nodup),
    forall_descending_nodup_iff, pairwise_mergedGrasps_iff, SameNumbersApart]

end Result

/-! ### Two candidates with a grasp each -/

/-- Both grasps have number 0 and there is room for both. -/
theorem first_grasps_clash :
    (∃ (env : ℕ → PlanningEnv) (goal : Goal),
      (executePlanGraspsAction .exact Sample.sort (fun _ => false) env goal).result.errorCode = .success ∧
        ¬((executePlanGraspsAction .exact Sample.sort (fun _ => false) env goal).result.rankedGrasps.map fun g =>
          g.grasp.id).Nodup) ∧
      ∃ response w', execute .exact 0 Sample.twoServer Sample.lineWorld (.ok Sample.twoParams)
          (Sample.onlyAway (.object "cup".toList)) = (.ok response, w') ∧
        ¬(response.grasps.map fun p => p.graspId).Nodup := by
  refine ⟨⟨fun _ => Sample.env [0], Sample.goal [1, 1] 2, by decide +kernel, by decide +kernel⟩, ?_⟩
  obtain ⟨response, hexecute, hclash⟩ : ∃ response,
      (execute .exact 0 Sample.twoServer Sample.lineWorld (.ok Sample.twoParams)
        (Sample.onlyAway (.object "cup".toList))).1 = .ok response ∧
      decide (¬(response.grasps.map fun p => p.graspId).Nodup) = true :=
    Sample.exists_ok (by decide +kernel)
  exact ⟨response, _, Prod.ext hexecute rfl, of_decide_eq_true hclash⟩

theorem grasp_ids_distinct_two :
    (∀ sort', DistinctIds .exact sort' (fun _ => false) (fun _ => Sample.env [0]) (Sample.goal [1, 1] 1)) ↔
      SameNumbersApart .exact (fun _ => Sample.env [0]) (Sample.goal [1, 1] 1) := by
  have hsuccess : (executePlanGraspsAction .exact Sample.sort (fun _ => false) (fun _ => Sample.env [0])
      (Sample.goal [1, 1] 1)).result.errorCode = .success := by decide +kernel
  exact grasp_ids_distinct_iff hsuccess

end MoveitPlanning.Grasping
