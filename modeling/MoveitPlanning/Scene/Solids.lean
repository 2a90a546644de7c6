import MoveitPlanning.Scene.Placement

/-! What the published primitives cover. A box, a cylinder and a sphere are published as
they are. A capsule becomes the cylinder with its length and its radius, which leaves out
the points beyond the ends of its segment. -/

namespace MoveitPlanning.Scene

open Foundation Quaternion

variable {R : Type*}

/-! ### Shapes with their inside -/

section Points
variable [Field R] [LinearOrder R]

def boxPoints (size : Fin 3 → R) : Set (Fin 3 → R) := {p | ∀ i, |p i| ≤ size i / (2 : ℕ)}

/-- A cylinder around the z axis. -/
def cylinderPoints (length radius : R) : Set (Fin 3 → R) :=
  {p | p 0 ^ 2 + p 1 ^ 2 ≤ radius ^ 2 ∧ |p 2| ≤ length / (2 : ℕ)}

def spherePoints (radius : R) : Set (Fin 3 → R) := {p | p 0 ^ 2 + p 1 ^ 2 + p 2 ^ 2 ≤ radius ^ 2}

/-- The points within the radius of a segment on the z axis. -/
def capsulePoints (length radius : R) : Set (Fin 3 → R) :=
  {p | ∃ z, |z| ≤ length / (2 : ℕ) ∧ p 0 ^ 2 + p 1 ^ 2 + (p 2 - z) ^ 2 ≤ radius ^ 2}

/-- The points of a World primitive, in its own frame. -/
def PrimitiveShape.points : PrimitiveShape R → Set (Fin 3 → R)
  | .box size => boxPoints size.coords
  | .cylinder length radius => cylinderPoints length radius
  | .sphere radius => spherePoints radius
  | .capsule length radius => capsulePoints length radius
  | .other => ∅

/-- The points of a published primitive, in its own frame. -/
def SolidPrimitive.points (solid : SolidPrimitive R) : Set (Fin 3 → R) :=
  match solid.type, solid.dimensions with
  | .box, [x, y, z] => boxPoints ![x, y, z]
  | .cylinder, [height, radius] => cylinderPoints height radius
  | .sphere, [radius] => spherePoints radius
  | _, _ => ∅

end Points

/-! ### What is left out -/

section Ordered
variable [Field R] [LinearOrder R] [IsStrictOrderedRing R]

/-- A cylinder is the part of the capsule between the ends of its segment. -/
theorem capsulePoints_inter (length radius : R) :
    capsulePoints length radius ∩ {p | |p 2| ≤ length / (2 : ℕ)} = cylinderPoints length radius := by
  ext p
  constructor
  · rintro ⟨⟨z, -, hp⟩, hz⟩
    exact ⟨le_trans (le_add_of_nonneg_right (sq_nonneg _)) hp, hz⟩
  · rintro ⟨hp, hz⟩
    exact ⟨⟨p 2, hz, by rwa [sub_self, zero_pow two_ne_zero, add_zero]⟩, hz⟩

theorem tip_mem_capsulePoints {length radius : R} (hlength : 0 < length) (hradius : 0 < radius) :
    Pi.single 2 (length / (2 : ℕ) + radius) ∈ capsulePoints length radius \ cylinderPoints length radius := by
  have hhalf : 0 < length / (2 : ℕ) := div_pos hlength (Nat.cast_pos.mpr two_pos)
  refine ⟨⟨length / (2 : ℕ), (abs_of_pos hhalf).le, ?_⟩, fun h => ?_⟩
  · simp
  · have hz : |length / (2 : ℕ) + radius| ≤ length / (2 : ℕ) := by simpa using h.2
    rw [abs_of_pos (add_pos hhalf hradius)] at hz
    linarith

omit [IsStrictOrderedRing R] in
/-- A supported primitive other than a capsule is published as it is. -/
theorem points_of_not_isCapsule {source : PrimitiveShape R} {solid : SolidPrimitive R}
    (hsolid : toSolidPrimitive source = some solid) (hcapsule : ¬source.isCapsule) :
    solid.points = source.points := by
  cases source with
  | capsule length radius => exact absurd trivial hcapsule
  | other => cases hsolid
  | _ =>
    obtain rfl := Option.some.inj hsolid
    rfl

theorem points_subset_iff {source : PrimitiveShape R} {solid : SolidPrimitive R}
    (hsolid : toSolidPrimitive source = some solid) (hpos : source.Positive) :
    source.points ⊆ solid.points ↔ ¬source.isCapsule := by
  constructor
  · intro hsubset hcapsule
    cases source with
    | capsule length radius =>
      obtain rfl := Option.some.inj hsolid
      obtain ⟨htip, hbeyond⟩ := tip_mem_capsulePoints hpos.1 hpos.2
      exact hbeyond (hsubset htip)
    | _ => exact hcapsule.elim
  · exact fun hcapsule => (points_of_not_isCapsule hsolid hcapsule).ge

/-- A converted primitive of a set is in the ADD of its entity, at the pose of the set, and
what is published at a pose has all points of the primitive at that pose exactly when it is
no capsule. -/
theorem published_covers_iff (lib : Library R) (cfg : Config R) (object : WorldObject R) (entity : Entity R)
    (innerName : Name) (refTShape : Option (Option (MatrixXd R))) (set : List (TransformedPrimitive R))
    (getGltf : GeoRef → Except Failure Bytes) (ord : IterOrder Name) (now : ℤ) {i : ℕ} {source : PrimitiveShape R}
    {solid : SolidPrimitive R} (hsource : set[i]?.bind (·.shape) = some source)
    (hsolid : toSolidPrimitive source = some solid) (hpos : source.Positive) :
    let g := collisionGeometry lib cfg object entity innerName
      ⟨refTShape, .inlineGeometryData (some (.primitiveSet set))⟩
    (∃ x ∈ g.items getGltf, x.shape = .primitive solid ∧ x.pose = g.meshPose ∧
      ∀ σ' : Data R, PublishesCurrent lib ord now σ' x → x.PlacedIn lib (addMessage lib now ord σ' x.frame)) ∧
    ∀ pose : Pose R, normSq pose.orientation.quaternion = 1 →
      (Set.image pose.transform.act source.points ⊆ Set.image pose.transform.act solid.points ↔
        ¬source.isCapsule) := by
  intro g
  obtain ⟨p, hp, hshape⟩ := Option.bind_eq_some_iff.mp hsource
  constructor
  · refine ⟨⟨g.tfFrameName, primId g.collisionMeshId set.length i, g.meshPose, .primitive solid⟩, ?_, rfl, rfl,
      fun σ' hcurrent => hcurrent.2.2.placedIn hcurrent.2.1⟩
    refine (mem_primitiveItems _ _ _).mpr ⟨p, i, solid, hp, ?_, rfl⟩
    rw [TransformedPrimitive.solid, hshape, Option.bind_some, hsolid]
  · intro pose hunit
    have hrigid : pose.transform.IsRigid := rotationMatrix_mem hunit
    rw [Set.image_subset_image_iff hrigid.act_injective]
    exact points_subset_iff hsolid hpos

end Ordered

/-! ### A box and a capsule -/

namespace Sample

/-- A set of a unit box and a capsule. -/
def boxAndCapsule : List (TransformedPrimitive ℚ) := [⟨some (.box ⟨1, 1, 1⟩)⟩, ⟨some (.capsule 1 1)⟩]

end Sample

/-- The tip of a capsule is not published. -/
theorem capsule_tip_missed : ¬∀ (source : PrimitiveShape ℚ) (solid : SolidPrimitive ℚ),
    toSolidPrimitive source = some solid → source.Positive → source.points ⊆ solid.points := by
  intro h
  obtain ⟨htip, hbeyond⟩ := tip_mem_capsulePoints one_pos (one_pos (α := ℚ))
  exact hbeyond (h (.capsule 1 1) _ rfl ⟨one_pos, one_pos⟩ htip)

theorem published_covers_iff_capsule :
    let g := collisionGeometry Sample.library Config.default (Sample.object "cell".toList (Sample.boxGeometry 1))
      ⟨"box".toList, none⟩ "lid".toList ⟨none, .inlineGeometryData (some (.primitiveSet Sample.boxAndCapsule))⟩
    (∃ x ∈ g.items Sample.noFile, x.shape = .primitive ⟨.cylinder, [1, 1]⟩ ∧ x.pose = g.meshPose ∧
      ∀ σ' : Data ℚ, PublishesCurrent Sample.library (.increasing Name) 0 σ' x →
        x.PlacedIn Sample.library (addMessage Sample.library 0 (.increasing Name) σ' x.frame)) ∧
    ∀ pose : Pose ℚ, normSq pose.orientation.quaternion = 1 →
      (Set.image pose.transform.act (PrimitiveShape.capsule 1 1).points ⊆
          Set.image pose.transform.act (⟨.cylinder, [1, 1]⟩ : SolidPrimitive ℚ).points ↔
        ¬(PrimitiveShape.capsule (1 : ℚ) 1).isCapsule) := by
  have hsource : Sample.boxAndCapsule[1]?.bind (·.shape) = some (.capsule 1 1) := rfl
  exact published_covers_iff _ _ _ _ _ _ _ _ _ _ hsource rfl ⟨one_pos, one_pos⟩

end MoveitPlanning.Scene
