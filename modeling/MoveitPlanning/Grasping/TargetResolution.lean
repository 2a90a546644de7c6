import Mathlib.Data.List.MinMax
import MoveitPlanning.Scene.FetchPlan
import MoveitPlanning.Scene.Publish
import MoveitPlanning.Grasping.Skill

/-! Resolution of a target against the ids of the planning scene. An id matches a target
in one of four ways, and the target is resolved to the first id of the best way there
is. The skill makes a target of the id of an object or of its name, while the ids of the
scene are made of names only. -/

namespace MoveitPlanning.Grasping

open Foundation Scene

/-! ### The ranks of the ids -/

/-- The target without a leading slash. -/
def cleanId (targetId : Name) : Name := if targetId.head? = some '/' then targetId.drop 1 else targetId

/-- How well an id matches the target, from 1 for the target itself to 5 for not at all. -/
def matchRank (targetId id : Name) : ℕ :=
  if id = targetId then 1
  else if id = cleanId targetId then 2
  else if id = cleanId targetId ++ "/whole".toList then 3
  else if (cleanId targetId ++ ['/']).isPrefixOf id then 4
  else 5

/-- The id matches the target, and no other does better or as well and earlier. -/
structure BestMatch (existingObjectIds : List Name) (targetId id : Name) : Prop where
  target_ne : targetId ≠ []
  first : id ∈ existingObjectIds.argmin (matchRank targetId)
  ranked : matchRank targetId id < 5

/-- An element with a property, at or before every other with the property, is the one
found. -/
theorem find?_eq_some_of_first {α : Type*} [DecidableEq α] {p : α → Bool} {l : List α} {a : α} (ha : a ∈ l)
    (hp : p a = true) (hfirst : ∀ b ∈ l, p b = true → l.idxOf a ≤ l.idxOf b) : l.find? p = some a := by
  cases hfind : l.find? p with
  | none => exact absurd hp (List.find?_eq_none.mp hfind a ha)
  | some b =>
    obtain ⟨hb, as, bs, rfl, has⟩ := List.find?_eq_some_iff_append.mp hfind
    have hle := hfirst b (by simp) hb
    have hbas : b ∉ as := fun hmem => by simpa [hb] using has b hmem
    have haas : a ∉ as := fun hmem => by simpa [hp] using has a hmem
    rw [List.idxOf_append_of_notMem haas, List.idxOf_append_of_notMem hbas, List.idxOf_cons_self] at hle
    by_contra hne
    rw [List.idxOf_cons_ne _ (fun heq => hne (congrArg some heq))] at hle
    omega

section Rank
variable {targetId id : Name}

theorem matchRank_le_one_iff : matchRank targetId id ≤ 1 ↔ id = targetId := by
  unfold matchRank
  split_ifs with h <;> simp_all

theorem matchRank_le_two_iff : matchRank targetId id ≤ 2 ↔ id = targetId ∨ id = cleanId targetId := by
  unfold matchRank
  split_ifs with h1 h2 <;> simp_all

theorem matchRank_le_three_iff : matchRank targetId id ≤ 3 ↔
    id = targetId ∨ id = cleanId targetId ∨ id = cleanId targetId ++ "/whole".toList := by
  unfold matchRank
  split_ifs with h1 h2 h3 <;> simp_all

theorem matchRank_le_four_iff : matchRank targetId id ≤ 4 ↔
    matchRank targetId id ≤ 3 ∨ (cleanId targetId ++ ['/']).isPrefixOf id = true := by
  rw [matchRank_le_three_iff]
  unfold matchRank
  split_ifs with h1 h2 h3 h4 <;> simp_all

/-- The target is the id, up to a leading slash, or a path that leads to it. -/
def NamesId (targetId id : Name) : Prop :=
  id = targetId ∨ id = cleanId targetId ∨ cleanId targetId ++ ['/'] <+: id

theorem namesId_of_matchRank_le (h : matchRank targetId id ≤ 4) : NamesId targetId id := by
  rcases matchRank_le_four_iff.mp h with h3 | hprefix
  · rcases matchRank_le_three_iff.mp h3 with h1 | h2 | hwhole
    · exact .inl h1
    · exact .inr (.inl h2)
    · refine .inr (.inr ⟨"whole".toList, ?_⟩)
      rw [hwhole, List.append_assoc]
      rfl
  · exact .inr (.inr (List.isPrefixOf_iff_prefix.mp hprefix))

end Rank

section Resolve
variable {ids : List Name} {targetId id : Name}

theorem resolveTargetObjectId_eq (h : targetId ≠ []) : resolveTargetObjectId ids targetId =
    if targetId ∈ ids then targetId
    else if cleanId targetId ∈ ids then cleanId targetId
    else if cleanId targetId ++ "/whole".toList ∈ ids then cleanId targetId ++ "/whole".toList
    else (ids.find? fun id => (cleanId targetId ++ ['/']).isPrefixOf id).getD targetId := by
  rw [resolveTargetObjectId, if_neg h]
  rfl

theorem BestMatch.resolve (h : BestMatch ids targetId id) : resolveTargetObjectId ids targetId = id := by
  obtain ⟨hne, hfirst, hranked⟩ := h
  obtain ⟨hmem, hbest, hearly⟩ := List.mem_argmin_iff.mp hfirst
  rw [resolveTargetObjectId_eq hne]
  split_ifs with h1 h2 h3
  · exact (matchRank_le_one_iff.mp ((hbest _ h1).trans (matchRank_le_one_iff.mpr rfl))).symm
  · rcases matchRank_le_two_iff.mp ((hbest _ h2).trans (matchRank_le_two_iff.mpr (.inr rfl))) with rfl | rfl
    · exact absurd hmem h1
    · rfl
  · rcases matchRank_le_three_iff.mp ((hbest _ h3).trans (matchRank_le_three_iff.mpr (.inr (.inr rfl)))) with
      rfl | rfl | rfl
    · exact absurd hmem h1
    · exact absurd hmem h2
    · rfl
  · -- none of the first three ways is there, so the id and all that match have the last rank
    have hfour : ¬matchRank targetId id ≤ 3 := by
      intro hle
      rcases matchRank_le_three_iff.mp hle with rfl | rfl | rfl
      · exact h1 hmem
      · exact h2 hmem
      · exact h3 hmem
    have hprefix := (matchRank_le_four_iff.mp (Nat.le_of_lt_succ hranked)).resolve_left hfour
    rw [find?_eq_some_of_first hmem hprefix, Option.getD_some]
    intro b hb hbprefix
    have hb4 := matchRank_le_four_iff.mpr (.inr hbprefix)
    exact hearly b hb (by omega)

theorem target_ne_of_resolve (h : resolveTargetObjectId ids targetId ≠ []) : targetId ≠ [] := by
  rintro rfl
  exact h rfl

theorem matchRank_resolve_le (ids : List Name) (hne : targetId ≠ []) :
    matchRank targetId (resolveTargetObjectId ids targetId) ≤ 4 := by
  rw [resolveTargetObjectId_eq hne, matchRank_le_four_iff, matchRank_le_three_iff]
  split_ifs with h1 h2 h3
  · exact .inl (.inl rfl)
  · exact .inl (.inr (.inl rfl))
  · exact .inl (.inr (.inr rfl))
  · cases hfind : ids.find? fun id => (cleanId targetId ++ ['/']).isPrefixOf id with
    | none => exact .inl (.inl rfl)
    | some found => exact .inr (List.find?_some hfind)

/-- The ids of the scene to which a target is resolved are its best matches. -/
theorem resolve_eq_iff (hid : id ∈ ids) (hne : id ≠ []) :
    resolveTargetObjectId ids targetId = id ↔ BestMatch ids targetId id := by
  refine ⟨?_, BestMatch.resolve⟩
  rintro rfl
  have htarget := target_ne_of_resolve hne
  have hle := matchRank_resolve_le ids htarget
  cases hfirst : ids.argmin (matchRank targetId) with
  | none =>
    rw [List.argmin_eq_none.mp hfirst] at hid
    cases hid
  | some best =>
    have hbest : BestMatch ids targetId best :=
      ⟨htarget, hfirst, Nat.lt_succ_of_le ((List.le_of_mem_argmin hid hfirst).trans hle)⟩
    rw [hbest.resolve]
    exact hbest

end Resolve

/-! ### References by id and by name -/

/-- An object of the World with the id by which it can be referred to. -/
structure IdentifiedObject (R : Type*) where
  id : Name
  object : WorldObject R

/-- The request for one object instead of the candidates. -/
def GraspPlanningParams.only (params : GraspPlanningParams) (reference : ObjectReference) : GraspPlanningParams :=
  { params with candidateObjects := .one reference }

/-- What the targets of the request's goal are resolved to. -/
def resolvedTargets (fp : Rounding) (params : GraspPlanningParams) (existingObjectIds : List Name) : List Name :=
  (createPlanGraspsGoal fp params).candidates.map fun candidate =>
    resolveTargetObjectId existingObjectIds candidate.targetId

theorem resolvedTargets_only (fp : Rounding) (params : GraspPlanningParams) (reference : ObjectReference)
    (ids : List Name) :
    resolvedTargets fp (params.only reference) ids = [resolveTargetObjectId ids reference.targetId] := rfl

theorem ne_nil_of_collisionFrame {R : Type*} {cfg : Config R} {objects : List (WorldObject R)} {frame : Name}
    (h : CollisionFrame cfg objects frame) : frame ≠ [] := by
  obtain ⟨object, -, -, entity, -, -, rfl⟩ := h
  simp [Config.tfFrameName]

section References
variable {R : Type*} (fp : Rounding) (cfg : Config R) (params : GraspPlanningParams) (ids : List Name)
  (o : IdentifiedObject R)

/-- The goals for the object by its id and by its name have one target in the scene, a
collision object of the object. -/
def ReferencesAgree : Prop :=
  ∃ frame, CollisionFrame cfg [o.object] frame ∧
    resolvedTargets fp (params.only (.id o.id)) ids = [frame] ∧
    resolvedTargets fp (params.only (.byName o.object.name)) ids = [frame]

/-- References that agree have an id that names a frame of the object: an id that is no
frame of it and no path to one is of no use as a target. -/
theorem ReferencesAgree.namesId (h : ReferencesAgree fp cfg params ids o) :
    ∃ frame, CollisionFrame cfg [o.object] frame ∧ NamesId o.id frame ∧ NamesId o.object.name frame := by
  obtain ⟨frame, hframe, hid, hname⟩ := h
  have hne := ne_nil_of_collisionFrame hframe
  simp only [resolvedTargets_only, ObjectReference.targetId, List.cons.injEq, and_true] at hid hname
  have hnamed : ∀ targetId, resolveTargetObjectId ids targetId = frame → NamesId targetId frame := by
    rintro targetId rfl
    exact namesId_of_matchRank_le (matchRank_resolve_le ids (target_ne_of_resolve hne))
  exact ⟨frame, hframe, hnamed _ hid, hnamed _ hname⟩

/-- The references to an object agree exactly when one of its frames is the best match of
both its id and its name. -/
theorem references_agree_iff (hadded : ∀ frame, CollisionFrame cfg [o.object] frame → frame ∈ ids) :
    ReferencesAgree fp cfg params ids o ↔
      ∃ frame, CollisionFrame cfg [o.object] frame ∧ BestMatch ids o.id frame ∧ BestMatch ids o.object.name frame := by
  unfold ReferencesAgree
  refine exists_congr fun frame => and_congr_right fun hframe => ?_
  have hmem := hadded frame hframe
  have hne := ne_nil_of_collisionFrame hframe
  simp only [resolvedTargets_only, ObjectReference.targetId, List.cons.injEq, and_true]
  exact and_congr (resolve_eq_iff hmem hne) (resolve_eq_iff hmem hne)

end References

/-! ### An object with an opaque id -/

namespace Sample

/-- A box of the World, whose id is not made of its name. -/
def box : IdentifiedObject ℚ := ⟨"obj_1".toList, Scene.Sample.object "box".toList (Scene.Sample.boxGeometry 1)⟩

/-- The ids that the synchronizer adds to the scene for the box. -/
def boxIds : List Name :=
  (fetchAndSynchronizeCollisionObjects Scene.Sample.library (.increasing Name) 0 .default
    (Scene.Sample.client [box.object]) none .init).2.2.map (·.id)

theorem box_added : ∀ frame, CollisionFrame (.default : Config ℚ) [box.object] frame → frame ∈ boxIds := by
  rintro _ ⟨object, hobject, -, entity, hentity, -, rfl⟩
  obtain rfl := List.mem_singleton.mp hobject
  obtain rfl := List.mem_singleton.mp hentity
  decide +kernel

end Sample

/-- The goal by the name of the box gets to its collision object, the goal by its id does
not get to the scene. -/
theorem references_differ :
    let params := Sample.sizedParams .notSet
    let whole : Name := "box/whole".toList
    Sample.boxIds = [whole] ∧ CollisionFrame (.default : Config ℚ) [Sample.box.object] whole ∧
      resolvedTargets .exact (params.only (.id Sample.box.id)) Sample.boxIds = ["obj_1".toList] ∧
      resolvedTargets .exact (params.only (.byName Sample.box.object.name)) Sample.boxIds = [whole] ∧
      ¬ReferencesAgree .exact (.default : Config ℚ) params Sample.boxIds Sample.box := by
  intro params whole
  have hids : Sample.boxIds = [whole] := by decide +kernel
  have hframe : CollisionFrame (.default : Config ℚ) [Sample.box.object] whole :=
    (exists_mem_fetchPlan_frame Scene.Sample.library .default (fun _ _ => .ok []) _ _).mp (by decide +kernel)
  have hid : resolvedTargets .exact (params.only (.id Sample.box.id)) [whole] = ["obj_1".toList] := by
    decide +kernel
  have hname : resolvedTargets .exact (params.only (.byName Sample.box.object.name)) [whole] = [whole] := by
    decide +kernel
  rw [hids]
  refine ⟨rfl, hframe, hid, hname, ?_⟩
  rintro ⟨frame, -, hfirst, hsecond⟩
  rw [hid] at hfirst
  rw [hname, ← hfirst] at hsecond
  exact absurd hsecond (by decide +kernel)

theorem references_agree_iff_box :
    ReferencesAgree .exact (.default : Config ℚ) (Sample.sizedParams .notSet) Sample.boxIds Sample.box ↔
      ∃ frame, CollisionFrame (.default : Config ℚ) [Sample.box.object] frame ∧
        BestMatch Sample.boxIds Sample.box.id frame ∧ BestMatch Sample.boxIds Sample.box.object.name frame :=
  references_agree_iff .exact .default (Sample.sizedParams .notSet) Sample.boxIds Sample.box Sample.box_added

end MoveitPlanning.Grasping
