import MoveitPlanning.Scene.Fetch

/-! The plan of a fetch in terms of the World objects it was made from: which
entities contribute items, under which frames, and when a geometry contributes any.
Responses that differ in the order of their maps have the same plan up to its order. -/

namespace MoveitPlanning.Scene

open Foundation

variable {R : Type*}

/-- The entity has `t` among its collision geometries, under `innerName`. -/
def Entity.Carries (entity : Entity R) (innerName : Name) (t : TransformedGeometry R) : Prop :=
  ∃ named, entity.geometryComponent = some named ∧
    ∃ entry ∈ named, entry.1 = intrinsicCollision ∧ (innerName, t) ∈ entry.2

/-- The fetch can take a shape from the geometry: a mesh, or a supported primitive. -/
def Geometry.HasShape : Geometry R → Prop
  | .geoRef _ => True
  | .inlineGeometryData (some (.primitiveSet primitives)) => ∃ p ∈ primitives, p.solid.isSome
  | _ => False

/-- The object takes part in collision synchronization. -/
def WorldObject.Synchronized (cfg : Config R) (object : WorldObject R) : Prop :=
  object.name ≠ [] ∧ cfg.isExcluded (cfg.shortName object.name) = false

/-- A frame of a synchronized object of the response. -/
def FrameOf (cfg : Config R) (objects : List (WorldObject R)) (f : Name) : Prop :=
  ∃ object ∈ objects, object.Synchronized cfg ∧
    ∃ entity ∈ object.entities, f = cfg.tfFrameName (cfg.shortName object.name) entity.name

/-- A frame of a synchronized object with a supported collision geometry. -/
def CollisionFrame (cfg : Config R) (objects : List (WorldObject R)) (f : Name) : Prop :=
  ∃ object ∈ objects, object.Synchronized cfg ∧
    ∃ entity ∈ object.entities, (∃ innerName t, entity.Carries innerName t ∧ t.geometry.HasShape) ∧
      f = cfg.tfFrameName (cfg.shortName object.name) entity.name

section Geometries
variable [Zero R] [One R] (lib : Library R) (cfg : Config R)

theorem mem_entityGeometries (object : WorldObject R) (entity : Entity R) (g : CollisionGeometry R) :
    g ∈ entityGeometries lib cfg object entity ↔
      cfg.isExcluded (cfg.shortName object.name) = false ∧
        ∃ innerName t, entity.Carries innerName t ∧
          g = collisionGeometry lib cfg object entity innerName t := by
  unfold entityGeometries Entity.Carries
  cases hc : entity.geometryComponent with
  | none => simp
  | some named =>
    simp only [List.mem_flatMap, Option.some.injEq, exists_eq_left']
    constructor
    · rintro ⟨entry, hentry, hg⟩
      by_cases hkey : entry.1 = intrinsicCollision
      · rw [if_neg (not_not.mpr hkey), List.mem_filterMap] at hg
        obtain ⟨⟨innerName, t⟩, hin, hg⟩ := hg
        split_ifs at hg with hex
        exact ⟨by simpa using hex, innerName, t, ⟨entry, hentry, hkey, hin⟩,
          (Option.some.inj hg).symm⟩
      · simp [hkey] at hg
    · rintro ⟨hex, innerName, t, ⟨entry, hentry, hkey, hin⟩, rfl⟩
      refine ⟨entry, hentry, ?_⟩
      rw [if_neg (not_not.mpr hkey), List.mem_filterMap]
      exact ⟨(innerName, t), hin, by simp [hex]⟩

theorem mem_collisionGeometries (objects : List (WorldObject R)) (g : CollisionGeometry R) :
    g ∈ collisionGeometries lib cfg objects ↔
      ∃ object ∈ objects, object.Synchronized cfg ∧ ∃ entity ∈ object.entities,
        ∃ innerName t, entity.Carries innerName t ∧
          g = collisionGeometry lib cfg object entity innerName t := by
  simp only [collisionGeometries, List.mem_flatMap, objectGeometries, WorldObject.Synchronized]
  constructor
  · rintro ⟨object, ho, hg⟩
    by_cases hname : object.name = []
    · simp [hname] at hg
    · rw [if_neg hname] at hg
      obtain ⟨entity, he, hg⟩ := List.mem_flatMap.mp hg
      obtain ⟨hex, h⟩ := (mem_entityGeometries lib cfg object entity g).mp hg
      exact ⟨object, ho, ⟨hname, hex⟩, entity, he, h⟩
  · rintro ⟨object, ho, ⟨hname, hex⟩, entity, he, h⟩
    refine ⟨object, ho, ?_⟩
    rw [if_neg hname, List.mem_flatMap]
    exact ⟨entity, he, (mem_entityGeometries lib cfg object entity g).mpr ⟨hex, h⟩⟩

end Geometries

theorem mem_primitiveItems (g : CollisionGeometry R) (primitives : List (TransformedPrimitive R))
    (x : FetchItem R) :
    x ∈ primitiveItems g primitives ↔ ∃ p i solid, primitives[i]? = some p ∧ p.solid = some solid ∧
      x = ⟨g.tfFrameName, primId g.collisionMeshId primitives.length i, g.meshPose, .primitive solid⟩ := by
  simp only [primitiveItems, List.mem_filterMap, Option.map_eq_some_iff, Prod.exists,
    List.mem_zipIdx_iff_getElem?]
  constructor
  · rintro ⟨p, i, hi, solid, hs, rfl⟩
    exact ⟨p, i, solid, hi, hs, rfl⟩
  · rintro ⟨p, i, solid, hi, hs, rfl⟩
    exact ⟨p, i, hi, solid, hs, rfl⟩

theorem items_frame {g : CollisionGeometry R} {getGltf : GeoRef → Except Failure Bytes} {x : FetchItem R}
    (h : x ∈ g.items getGltf) : x.frame = g.tfFrameName ∧ x.pose = g.meshPose := by
  rcases g with ⟨frame, id, pose, ref | (_ | (primitives | _)) | _⟩
  · obtain rfl := List.mem_singleton.mp h
    exact ⟨rfl, rfl⟩
  · simp [CollisionGeometry.items] at h
  · obtain ⟨p, i, solid, -, -, rfl⟩ := (mem_primitiveItems _ _ _).mp h
    exact ⟨rfl, rfl⟩
  · simp [CollisionGeometry.items] at h
  · simp [CollisionGeometry.items] at h

theorem exists_items_iff (g : CollisionGeometry R) (getGltf : GeoRef → Except Failure Bytes) :
    (∃ x, x ∈ g.items getGltf) ↔ g.geometry.HasShape := by
  rcases g with ⟨frame, id, pose, ref | (_ | (primitives | _)) | _⟩
  · simp [CollisionGeometry.items, Geometry.HasShape]
  · simp [CollisionGeometry.items, Geometry.HasShape]
  · simp only [CollisionGeometry.items, mem_primitiveItems, Geometry.HasShape,
      Option.isSome_iff_exists]
    constructor
    · rintro ⟨x, p, i, solid, hi, hs, -⟩
      exact ⟨p, List.mem_of_getElem? hi, solid, hs⟩
    · rintro ⟨p, hp, solid, hs⟩
      obtain ⟨i, hi⟩ := List.mem_iff_getElem?.mp hp
      exact ⟨_, p, i, solid, hi, hs, rfl⟩
  · simp [CollisionGeometry.items, Geometry.HasShape]
  · simp [CollisionGeometry.items, Geometry.HasShape]

section Plan
variable [Zero R] [One R] {lib : Library R} {cfg : Config R}
  {getGltf : ℕ → GeoRef → Except Failure Bytes} {objects : List (WorldObject R)}

theorem mem_fetchPlan {x : FetchItem R} : x ∈ fetchPlan lib cfg getGltf objects ↔
    ∃ (g : CollisionGeometry R) (k : ℕ), (collisionGeometries lib cfg objects)[k]? = some g ∧
      x ∈ g.items (getGltf k) := by
  simp only [fetchPlan, List.mem_flatMap, Prod.exists, List.mem_zipIdx_iff_getElem?]

variable (lib cfg getGltf objects) in
/-- The frames of a plan are the frames with a supported collision geometry. -/
theorem exists_mem_fetchPlan_frame (f : Name) :
    (∃ x ∈ fetchPlan lib cfg getGltf objects, x.frame = f) ↔ CollisionFrame cfg objects f := by
  constructor
  · rintro ⟨x, hx, rfl⟩
    obtain ⟨g, k, hg, hx⟩ := mem_fetchPlan.mp hx
    obtain ⟨object, ho, hs, entity, he, innerName, t, hc, rfl⟩ :=
      (mem_collisionGeometries lib cfg objects g).mp (List.mem_of_getElem? hg)
    exact ⟨object, ho, hs, entity, he, ⟨innerName, t, hc, (exists_items_iff _ _).mp ⟨x, hx⟩⟩,
      (items_frame hx).1⟩
  · rintro ⟨object, ho, hs, entity, he, ⟨innerName, t, hc, hshape⟩, rfl⟩
    have hg := (mem_collisionGeometries lib cfg objects _).mpr
      ⟨object, ho, hs, entity, he, innerName, t, hc, rfl⟩
    obtain ⟨k, hk⟩ := List.mem_iff_getElem?.mp hg
    obtain ⟨x, hx⟩ := (exists_items_iff (collisionGeometry lib cfg object entity innerName t)
      (getGltf k)).mpr hshape
    exact ⟨x, mem_fetchPlan.mpr ⟨_, k, hk, hx⟩, (items_frame hx).1⟩

end Plan

/-! ### The order of the maps -/

/-- The same entity, each of its two levels of geometries in any order. -/
def Entity.Same (entity entity' : Entity R) : Prop :=
  entity.name = entity'.name ∧
    Option.Rel (SameEntries fun entry entry' => entry.1 = entry'.1 ∧ entry.2.Perm entry'.2)
      entity.geometryComponent entity'.geometryComponent

def WorldObject.Same (object object' : WorldObject R) : Prop :=
  object.name = object'.name ∧ SameEntries Entity.Same object.entities object'.entities

/-- Two copies of one list of objects. The order of a map is not part of a message, so
each copy has its own, and the objects may be in any order as well. -/
def SameObjects (objects objects' : List (WorldObject R)) : Prop :=
  SameEntries WorldObject.Same objects objects'

theorem Entity.Same.refl (entity : Entity R) : entity.Same entity := by
  refine ⟨rfl, ?_⟩
  cases entity.geometryComponent with
  | none => exact .none
  | some named => exact .some (.refl (fun entry => ⟨rfl, .refl _⟩) named)

theorem SameObjects.refl (objects : List (WorldObject R)) : SameObjects objects objects :=
  SameEntries.refl (fun object => ⟨rfl, .refl Entity.Same.refl object.entities⟩) objects

section Order
variable [Zero R] [One R] {lib : Library R} {cfg : Config R} {objects objects' : List (WorldObject R)}
  {getGltf : GeoRef → Except Failure Bytes}

theorem entityGeometries_perm {object object' : WorldObject R} (hname : object.name = object'.name)
    {entity entity' : Entity R} (h : entity.Same entity') :
    (entityGeometries lib cfg object entity).Perm (entityGeometries lib cfg object' entity') := by
  rcases entity with ⟨name, named⟩
  rcases entity' with ⟨_, named'⟩
  obtain ⟨rfl, hgeometries⟩ := h
  have hsame : ∀ named, collisionGeometry lib cfg object ⟨name, named⟩ =
      collisionGeometry lib cfg object' ⟨name, named'⟩ := fun named => by
    funext innerName t
    rw [collisionGeometry, collisionGeometry, hname]
  unfold entityGeometries
  cases hgeometries with
  | none => exact .refl _
  | some hentries =>
    refine hentries.flatMap fun entry entry' ⟨hkey, hinner⟩ => ?_
    rw [hkey, hname, hsame]
    by_cases hcollision : entry'.1 ≠ intrinsicCollision
    · rw [if_pos hcollision, if_pos hcollision]
    · rw [if_neg hcollision, if_neg hcollision]
      exact hinner.filterMap _

theorem collisionGeometries_perm (h : SameObjects objects objects') :
    (collisionGeometries lib cfg objects).Perm (collisionGeometries lib cfg objects') := by
  refine SameEntries.flatMap h fun object object' ⟨hname, hentities⟩ => ?_
  rw [objectGeometries, objectGeometries, hname]
  split_ifs
  · exact .refl _
  · exact hentities.flatMap fun _ _ hentity => entityGeometries_perm hname hentity

/-- Where the answers of `GetGltf` depend on the reference alone, the items do not depend
on the positions of the geometries. -/
theorem fetchPlan_const (objects : List (WorldObject R)) :
    fetchPlan lib cfg (fun _ => getGltf) objects =
      (collisionGeometries lib cfg objects).flatMap fun g => g.items getGltf := by
  have hfst : (collisionGeometries lib cfg objects).zipIdx.map Prod.fst = collisionGeometries lib cfg objects :=
    List.zipIdx_map_fst 0 _
  rw [fetchPlan]
  conv_rhs => rw [← hfst, List.flatMap_map]

theorem fetchPlan_perm (h : SameObjects objects objects') :
    (fetchPlan lib cfg (fun _ => getGltf) objects').Perm (fetchPlan lib cfg (fun _ => getGltf) objects) := by
  rw [fetchPlan_const, fetchPlan_const]
  exact (collisionGeometries_perm h).symm.flatMap_right _

end Order

end MoveitPlanning.Scene
