import MoveitPlanning.Scene.Poses
import MoveitPlanning.Scene.Refetch
import MoveitPlanning.Scene.SyncStatus

/-! Where the published shapes are. The World places a geometry by an affine matrix, and
each primitive of a set by a transform of its own within the set. The fetch keeps of the
matrix its translation and its rotation, gives the one pose to all primitives of a set,
and makes a cylinder of a capsule. What the matrix does beyond rotating is a scaling, and
the points are where the World has them when the scaling and the primitive's own transform
undo each other. -/

namespace MoveitPlanning.Scene

open Foundation Matrix Quaternion

variable {R : Type*}

/-! ### Shapes as sets of points -/

section Surface
variable [Field R] [LinearOrder R]

def boxSurface (size : Fin 3 → R) : Set (Fin 3 → R) :=
  {p | (∀ i, |p i| ≤ size i / (2 : ℕ)) ∧ ∃ i, |p i| = size i / (2 : ℕ)}

/-- A cylinder around the z axis. -/
def cylinderSurface (length radius : R) : Set (Fin 3 → R) :=
  {p | (p 0 ^ 2 + p 1 ^ 2 = radius ^ 2 ∧ |p 2| ≤ length / (2 : ℕ)) ∨
    (p 0 ^ 2 + p 1 ^ 2 ≤ radius ^ 2 ∧ |p 2| = length / (2 : ℕ))}

def sphereSurface (radius : R) : Set (Fin 3 → R) := {p | p 0 ^ 2 + p 1 ^ 2 + p 2 ^ 2 = radius ^ 2}

/-- A cylinder around the z axis, with half a sphere on each end. -/
def capsuleSurface (length radius : R) : Set (Fin 3 → R) :=
  {p | (p 0 ^ 2 + p 1 ^ 2 = radius ^ 2 ∧ |p 2| ≤ length / (2 : ℕ)) ∨
    (p 0 ^ 2 + p 1 ^ 2 + (|p 2| - length / (2 : ℕ)) ^ 2 = radius ^ 2 ∧ length / (2 : ℕ) ≤ |p 2|)}

/-- The surface of a World primitive, in its own frame. -/
def PrimitiveShape.surface : PrimitiveShape R → Set (Fin 3 → R)
  | .box size => boxSurface size.coords
  | .cylinder length radius => cylinderSurface length radius
  | .sphere radius => sphereSurface radius
  | .capsule length radius => capsuleSurface length radius
  | .other => ∅

/-- The surface of a published primitive, in its own frame. -/
def SolidPrimitive.surface (solid : SolidPrimitive R) : Set (Fin 3 → R) :=
  match solid.type, solid.dimensions with
  | .box, [x, y, z] => boxSurface ![x, y, z]
  | .cylinder, [height, radius] => cylinderSurface height radius
  | .sphere, [radius] => sphereSurface radius
  | _, _ => ∅

def PrimitiveShape.Positive : PrimitiveShape R → Prop
  | .box size => ∀ i, 0 < size.coords i
  | .cylinder length radius => 0 < length ∧ 0 < radius
  | .sphere radius => 0 < radius
  | .capsule length radius => 0 < length ∧ 0 < radius
  | .other => False

def PrimitiveShape.isCapsule : PrimitiveShape R → Prop
  | .capsule _ _ => True
  | _ => False

end Surface

/-! ### The World's side -/

/-- A primitive of a set, with its own transform within the set. -/
structure PlacedPrimitive (R : Type*) extends TransformedPrimitive R where
  setTPrimitive : Transform R

/-- A geometry with all that places its points, less the matrix that places the whole. -/
inductive SourceGeometry (R : Type*)
  | mesh (ref : GeoRef)
  | primitives (set : List (PlacedPrimitive R))

/-- What the fetch reads of it. -/
def SourceGeometry.geometry : SourceGeometry R → Geometry R
  | .mesh ref => .geoRef ref
  | .primitives set => .inlineGeometryData (some (.primitiveSet (set.map fun p => p.toTransformedPrimitive)))

/-- A 4 by 4 matrix as the map it stands for. -/
def MatrixXd.transform (m : MatrixXd R) : Transform R :=
  ⟨fun i j => m.coeff i j, fun i => m.coeff i 3⟩

def ShapesMesh.vertex (m : ShapesMesh R) (i : ℕ) : Fin 3 → R :=
  ![m.vertices (3 * i), m.vertices (3 * i + 1), m.vertices (3 * i + 2)]

section Places
variable [Field R] [LinearOrder R]

/-- The rotation that the fetch keeps of the matrix. -/
def rotationPart (lib : Library R) (m : MatrixXd R) : Matrix (Fin 3) (Fin 3) R :=
  rotationMatrix (lib.rotationQuaternion fun i j => m.coeff i j).quaternion

/-- What the matrix does before it rotates. -/
def scalingPart (lib : Library R) (m : MatrixXd R) : Matrix (Fin 3) (Fin 3) R :=
  (rotationPart lib m)ᵀ * m.transform.linear

/-- The published mesh has the vertices of the decoded one, and its pose puts them where
the World has them. -/
def Mesh.Places (mesh : Mesh R) (pose : Pose R) (world : Transform R) (source : ShapesMesh R) : Prop :=
  ∀ i < source.vertexCount, ∃ v, mesh.vertices[i]? = some v ∧
    pose.transform.act v.coords = world.act (source.vertex i)

/-- The published primitive has the points of the World's, and its pose puts them where
the World has them. -/
def SolidPrimitive.Places (solid : SolidPrimitive R) (pose : Pose R) (world : Transform R)
    (source : PrimitiveShape R) : Prop :=
  ∀ p ∈ source.surface, p ∈ solid.surface ∧ pose.transform.act p = world.act p

/-- Every point of a mesh or a supported primitive is published where the World has it. -/
def PlacesEveryPoint (lib : Library R) (getGltf : GeoRef → Except Failure Bytes) (pose : Pose R)
    (world : Transform R) : SourceGeometry R → Prop
  | .mesh ref => ∀ gltf source, getGltf ref = .ok gltf → lib.createMeshFromBinary gltf = some source →
    source.toMesh.Places pose world source
  | .primitives set => ∀ p ∈ set, ∀ source solid, p.shape = some source → toSolidPrimitive source = some solid →
    solid.Places pose (world * p.setTPrimitive) source

/-- The scaling takes every point of a mesh, and every point of a primitive that its own
transform has moved, to where it is in the frame of the shape. -/
def ScalingUndone (lib : Library R) (getGltf : GeoRef → Except Failure Bytes)
    (scaling : Matrix (Fin 3) (Fin 3) R) : SourceGeometry R → Prop
  | .mesh ref => ∀ gltf source, getGltf ref = .ok gltf → lib.createMeshFromBinary gltf = some source →
    ∀ i < source.vertexCount, scaling *ᵥ source.vertex i = source.vertex i
  | .primitives set => ∀ p ∈ set, ∀ source solid, p.shape = some source → toSolidPrimitive source = some solid →
    source.surface ⊆ solid.surface ∧ ∀ q ∈ source.surface, scaling *ᵥ p.setTPrimitive.act q = q

/-- The message has the item's shape at the item's pose, in the frame of the entity. -/
def FetchItem.PlacedIn (lib : Library R) (x : FetchItem R) (msg : CollisionObject R) : Prop :=
  msg.frameId = x.frame ∧ msg.pose = Pose.identity ∧
    match x.shape with
    | .mesh _ gltf => ∀ data source, gltf = .ok data → lib.createMeshFromBinary data = some source →
      (source.toMesh, x.pose) ∈ msg.meshes.zip msg.meshPoses
    | .primitive solid => (solid, x.pose) ∈ msg.primitives.zip msg.primitivePoses

end Places

/-! ### What is published -/

/-- The shape of an item that is current is in the ADD of its frame. -/
theorem FetchItem.Current.placedIn [Field R] {lib : Library R} {ord : IterOrder Name} {now : ℤ} {σ' : Data R}
    {x : FetchItem R} (hid : x.id ∈ σ'.meshIds x.frame) (h : x.Current σ') :
    x.PlacedIn lib (addMessage lib now ord σ' x.frame) := by
  refine ⟨rfl, rfl, ?_⟩
  rcases x with ⟨frame, id, pose, ⟨ref, gltf⟩ | solid⟩
  · intro data source hdata hdecode
    obtain ⟨data', rfl, hentry⟩ := h
    obtain rfl := Except.ok.inj hdata
    exact (mem_addMessage_meshes lib ord now σ' frame _ _).mpr ⟨id, hid, data', source, hentry, hdecode, rfl⟩
  · exact (mem_addMessage_primitives lib ord now σ' frame _ _).mpr ⟨id, hid, h⟩

/-! ### When the points are where they should be -/

theorem ShapesMesh.toMesh_vertices_getElem? (source : ShapesMesh R) {i : ℕ} (h : i < source.vertexCount) :
    ∃ v, source.toMesh.vertices[i]? = some v ∧ v.coords = source.vertex i := by
  refine ⟨⟨source.vertices (3 * i), source.vertices (3 * i + 1), source.vertices (3 * i + 2)⟩, ?_, rfl⟩
  simp [ShapesMesh.toMesh, h]

section Rotation
variable [Field R] {lib : Library R} {m : MatrixXd R}

theorem meshPose_transform (lib : Library R) (hrows : m.rows = 4) (hcols : m.cols = 4) :
    (meshPose lib (some (some m))).transform =
      ⟨rotationPart lib m, m.transform.translation⟩ := by
  rw [meshPose, if_pos ⟨hrows, hcols⟩, Pose.transform, rotationPart]
  congr 1
  funext i
  fin_cases i <;> rfl

/-- The published pose puts a point where the matrix has another one just when the
scaling takes the second to the first. -/
theorem meshPose_act_eq_iff (hrows : m.rows = 4) (hcols : m.cols = 4)
    (hunit : normSq (lib.rotationQuaternion fun i j => m.coeff i j).quaternion = 1) {p q : Fin 3 → R} :
    (meshPose lib (some (some m))).transform.act p = m.transform.act q ↔ scalingPart lib m *ᵥ q = p := by
  have hrigid : (⟨rotationPart lib m, m.transform.translation⟩ : Transform R).IsRigid := rotationMatrix_mem hunit
  have hscaled : m.transform.act q =
      (⟨rotationPart lib m, m.transform.translation⟩ : Transform R).act (scalingPart lib m *ᵥ q) := by
    rw [Transform.act, Transform.act, scalingPart, mulVec_mulVec, ← mul_assoc, hrigid.mul_transpose, one_mul]
  rw [meshPose_transform lib hrows hcols, hscaled, hrigid.act_injective.eq_iff, eq_comm]

end Rotation

section Ordered
variable [Field R] [LinearOrder R] [IsStrictOrderedRing R] {lib : Library R} {m : MatrixXd R}
  {scaling : Matrix (Fin 3) (Fin 3) R}

theorem single_mem_boxSurface {size : Fin 3 → R} (hpos : ∀ i, 0 < size i) {i : Fin 3} {c : R}
    (hc : |c| = size i / (2 : ℕ)) : Pi.single i c ∈ boxSurface size := by
  refine ⟨fun j => ?_, i, by rw [Pi.single_eq_same, hc]⟩
  by_cases hj : j = i
  · subst hj
    rw [Pi.single_eq_same, hc]
  · rw [Pi.single_eq_of_ne hj, abs_zero]
    exact div_nonneg (hpos j).le (Nat.cast_nonneg 2)

theorem single_mem_cylinderSurface {length radius : R} (hlength : 0 < length) {i : Fin 3} {c : R}
    (hside : i ≠ 2 → c ^ 2 = radius ^ 2) (hend : i = 2 → |c| = length / (2 : ℕ)) :
    Pi.single i c ∈ cylinderSurface length radius := by
  have hhalf : 0 ≤ length / (2 : ℕ) := div_nonneg hlength.le (Nat.cast_nonneg 2)
  fin_cases i
  · exact .inl ⟨by simpa using hside (by decide), by simpa using hhalf⟩
  · exact .inl ⟨by simpa using hside (by decide), by simpa using hhalf⟩
  · exact .inr ⟨by simpa using sq_nonneg radius, by simpa using hend rfl⟩

omit [LinearOrder R] [IsStrictOrderedRing R] in
theorem single_mem_sphereSurface {radius : R} {i : Fin 3} {c : R} (hc : c ^ 2 = radius ^ 2) :
    Pi.single i c ∈ sphereSurface radius := by
  fin_cases i <;> simpa [sphereSurface] using hc

/-- A positive primitive other than a capsule is published with its own surface, which
has points on every axis. -/
theorem surface_of_positive {source : PrimitiveShape R} {solid : SolidPrimitive R}
    (hsolid : toSolidPrimitive source = some solid) (hpos : source.Positive) (hcapsule : ¬source.isCapsule) :
    solid.surface = source.surface ∧ Transform.Spread source.surface := by
  have htwo : (0 : R) < (2 : ℕ) := Nat.cast_pos.mpr two_pos
  cases source with
  | box size =>
    obtain rfl := Option.some.inj hsolid
    refine ⟨rfl, fun i => ?_⟩
    have hhalf : 0 < size.coords i / (2 : ℕ) := div_pos (hpos i) htwo
    exact ⟨_, hhalf.ne', single_mem_boxSurface hpos (abs_of_pos hhalf),
      single_mem_boxSurface hpos (by rw [abs_neg, abs_of_pos hhalf])⟩
  | cylinder length radius =>
    obtain rfl := Option.some.inj hsolid
    obtain ⟨hlength, hradius⟩ := hpos
    have hhalf : 0 < length / (2 : ℕ) := div_pos hlength htwo
    refine ⟨rfl, fun i => ?_⟩
    by_cases hi : i = 2
    · exact ⟨length / (2 : ℕ), hhalf.ne',
        single_mem_cylinderSurface hlength (absurd hi) fun _ => abs_of_pos hhalf,
        single_mem_cylinderSurface hlength (absurd hi) fun _ => by rw [abs_neg, abs_of_pos hhalf]⟩
    · exact ⟨radius, hradius.ne', single_mem_cylinderSurface hlength (fun _ => rfl) fun h => absurd h hi,
        single_mem_cylinderSurface hlength (fun _ => neg_sq radius) fun h => absurd h hi⟩
  | sphere radius =>
    obtain rfl := Option.some.inj hsolid
    exact ⟨rfl, fun i => ⟨radius, (hpos : 0 < radius).ne', single_mem_sphereSurface rfl,
      single_mem_sphereSurface (neg_sq radius)⟩⟩
  | capsule length radius => exact absurd trivial hcapsule
  | other => exact hpos.elim

/-- The end of a capsule sticks out of the cylinder that is published for it. -/
theorem not_surface_subset_of_isCapsule {source : PrimitiveShape R} {solid : SolidPrimitive R}
    (hsolid : toSolidPrimitive source = some solid) (hpos : source.Positive) (hcapsule : source.isCapsule) :
    ¬source.surface ⊆ solid.surface := by
  cases source with
  | capsule length radius =>
    obtain rfl := Option.some.inj hsolid
    obtain ⟨hlength, hradius⟩ := hpos
    have hhalf : 0 < length / (2 : ℕ) := div_pos hlength (Nat.cast_pos.mpr two_pos)
    have htip : |length / (2 : ℕ) + radius| = length / (2 : ℕ) + radius := abs_of_pos (add_pos hhalf hradius)
    intro hsubset
    have hmem : Pi.single 2 (length / (2 : ℕ) + radius) ∈ capsuleSurface length radius := by
      refine .inr ⟨?_, ?_⟩
      · rw [Pi.single_eq_same, htip]
        simp
      · rw [Pi.single_eq_same, htip]
        exact le_add_of_nonneg_right hradius.le
    rcases hsubset hmem with ⟨-, hz⟩ | ⟨-, hz⟩
    · rw [Pi.single_eq_same, htip] at hz
      linarith
    · rw [Pi.single_eq_same, htip] at hz
      linarith
  | _ => exact hcapsule.elim

/-- For a positive primitive: it is not a capsule, and the scaling is the inverse of its
own transform. -/
theorem scaling_undone_iff {source : PrimitiveShape R} {solid : SolidPrimitive R} {own : Transform R}
    (hsolid : toSolidPrimitive source = some solid) (hpos : source.Positive) :
    (source.surface ⊆ solid.surface ∧ ∀ q ∈ source.surface, scaling *ᵥ own.act q = q) ↔
      ¬source.isCapsule ∧ scaling * own.linear = 1 ∧ own.translation = 0 := by
  constructor
  · rintro ⟨hsubset, hfixes⟩
    have hcapsule : ¬source.isCapsule := fun h => not_surface_subset_of_isCapsule hsolid hpos h hsubset
    have hone : (⟨scaling, 0⟩ : Transform R) * own = 1 := by
      refine Transform.eq_one_of_fixes (surface_of_positive hsolid hpos hcapsule).2 fun q hq => ?_
      rw [Transform.mul_act, Transform.act, add_zero]
      exact hfixes q hq
    have hlinear : scaling * own.linear = 1 := congrArg Transform.linear hone
    have htranslation : scaling *ᵥ own.translation = 0 := by
      simpa [Transform.act] using congrArg Transform.translation hone
    refine ⟨hcapsule, hlinear, ?_⟩
    rw [← one_mulVec own.translation, ← mul_eq_one_comm.mp hlinear, ← mulVec_mulVec, htranslation, mulVec_zero]
  · rintro ⟨hcapsule, hlinear, htranslation⟩
    refine ⟨(surface_of_positive hsolid hpos hcapsule).1.ge, fun q _ => ?_⟩
    rw [Transform.act, htranslation, add_zero, mulVec_mulVec, hlinear, one_mulVec]

/-- What is shown of a geometry in the ADD of its entity is where the World has it exactly
when the scaling of its matrix is undone: for a positive primitive, when it is no capsule
and its own transform is the inverse of the scaling. -/
theorem places_every_point_iff (cfg : Config R) (object : WorldObject R) (entity : Entity R) (innerName : Name)
    (source : SourceGeometry R) (getGltf : GeoRef → Except Failure Bytes) (ord : IterOrder Name) (now : ℤ)
    (hrows : m.rows = 4) (hcols : m.cols = 4)
    (hunit : normSq (lib.rotationQuaternion fun i j => m.coeff i j).quaternion = 1) :
    let g := collisionGeometry lib cfg object entity innerName ⟨some (some m), source.geometry⟩
    (∀ σ' : Data R, ∀ x ∈ g.items getGltf, PublishesCurrent lib ord now σ' x →
      x.pose = g.meshPose ∧ x.PlacedIn lib (addMessage lib now ord σ' x.frame)) ∧
      (PlacesEveryPoint lib getGltf g.meshPose m.transform source ↔
        ScalingUndone lib getGltf (scalingPart lib m) source) ∧
      ∀ (shape : PrimitiveShape R) (solid : SolidPrimitive R) (own : Transform R),
        toSolidPrimitive shape = some solid → shape.Positive →
        ((shape.surface ⊆ solid.surface ∧ ∀ q ∈ shape.surface, scalingPart lib m *ᵥ own.act q = q) ↔
          ¬shape.isCapsule ∧ scalingPart lib m * own.linear = 1 ∧ own.translation = 0) := by
  intro g
  refine ⟨fun σ' x hx hcurrent => ⟨(items_frame hx).2, hcurrent.2.2.placedIn hcurrent.2.1⟩, ?_,
    fun shape solid own hsolid hpos => scaling_undone_iff hsolid hpos⟩
  cases source with
  | mesh ref =>
    refine forall₄_congr fun gltf source _ _ => forall₂_congr fun i hi => ?_
    obtain ⟨v, hv, hcoords⟩ := source.toMesh_vertices_getElem? hi
    simp only [hv, Option.some.injEq, exists_eq_left', hcoords]
    exact meshPose_act_eq_iff hrows hcols hunit
  | primitives set =>
    refine forall₂_congr fun p _ => forall₄_congr fun source solid _ _ => ?_
    have hpoint : ∀ q, g.meshPose.transform.act q = (m.transform * p.setTPrimitive).act q ↔
        scalingPart lib m *ᵥ p.setTPrimitive.act q = q := fun q => by
      rw [Transform.mul_act]
      exact meshPose_act_eq_iff hrows hcols hunit
    constructor
    · exact fun h => ⟨fun q hq => (h q hq).1, fun q hq => (hpoint q).mp (h q hq).2⟩
    · exact fun h q hq => ⟨h.1 hq, (hpoint q).mpr (h.2 q hq)⟩

end Ordered

/-! ### A box in a set, and a scaled mesh -/

namespace Sample

def matrixXd (M : Matrix (Fin 4) (Fin 4) ℚ) : MatrixXd ℚ where
  rows := 4
  cols := 4
  coeff i j := if h : i < 4 ∧ j < 4 then M ⟨i, h.1⟩ ⟨j, h.2⟩ else 0

/-- A turn by the unit quaternion `4/5 k + 3/5`, and a step along the x axis. -/
def turn : MatrixXd ℚ := matrixXd !![-7 / 25, -24 / 25, 0, 1; 24 / 25, -7 / 25, 0, 0; 0, 0, 1, 0; 0, 0, 0, 1]

/-- A library that has the quaternion of the turn. -/
def turned : Library ℚ := { library with rotationQuaternion := fun _ => ⟨0, 0, 4 / 5, 3 / 5⟩ }

/-- A matrix that only scales. -/
def stretch (factor : ℚ) : MatrixXd ℚ :=
  matrixXd !![factor, 0, 0, 0; 0, factor, 0, 0; 0, 0, factor, 0; 0, 0, 0, 1]

/-- A unit box that is `shift` away from the origin of its set. -/
def shiftedBox (shift : Fin 3 → ℚ) : PlacedPrimitive ℚ where
  shape := some (.box ⟨1, 1, 1⟩)
  setTPrimitive := .translate shift

def noFile : GeoRef → Except Failure Bytes := fun _ => .error ⟨.notFound, []⟩

def someFile : GeoRef → Except Failure Bytes := fun _ => .ok [0]

end Sample

/-- A box of a set is published without its shift, and a mesh without its scale. -/
theorem points_misplaced :
    ¬PlacesEveryPoint Sample.library Sample.noFile (meshPose Sample.library (some (some (Sample.stretch 1))))
      (Sample.stretch 1).transform (.primitives [Sample.shiftedBox 0, Sample.shiftedBox 1]) ∧
    ¬PlacesEveryPoint Sample.library Sample.someFile (meshPose Sample.library (some (some (Sample.stretch 2))))
      (Sample.stretch 2).transform (.mesh ⟨[], []⟩) := by
  constructor
  · intro h
    have hpoint := (h (Sample.shiftedBox 1) (by simp) (.box ⟨1, 1, 1⟩) _ rfl rfl (Pi.single 0 (1 / (2 : ℕ)))
      (single_mem_boxSurface (by decide) (by decide +kernel))).2
    exact absurd (congrFun hpoint 0) (by decide +kernel)
  · intro h
    obtain ⟨v, hv, hpoint⟩ := h [0] _ rfl rfl 0 (by decide)
    obtain rfl := Option.some.inj hv
    exact absurd (congrFun hpoint 1) (by decide +kernel)

theorem places_every_point_iff_turn :
    let object := Sample.object "cell".toList (Sample.boxGeometry 1)
    let source := SourceGeometry.primitives [Sample.shiftedBox 0, Sample.shiftedBox 1]
    let entity : Entity ℚ := ⟨"box".toList, none⟩
    let g := collisionGeometry Sample.turned Config.default object entity "lid".toList
      ⟨some (some Sample.turn), source.geometry⟩
    scalingPart Sample.turned Sample.turn = 1 ∧
    (∀ σ' : Data ℚ, ∀ x ∈ g.items Sample.noFile,
      PublishesCurrent Sample.turned (.increasing Name) 0 σ' x →
        x.pose = g.meshPose ∧ x.PlacedIn Sample.turned (addMessage Sample.turned 0 (.increasing Name) σ' x.frame)) ∧
      (PlacesEveryPoint Sample.turned Sample.noFile g.meshPose Sample.turn.transform source ↔
        ScalingUndone Sample.turned Sample.noFile (scalingPart Sample.turned Sample.turn) source) ∧
      ∀ (shape : PrimitiveShape ℚ) (solid : SolidPrimitive ℚ) (own : Transform ℚ),
        toSolidPrimitive shape = some solid → shape.Positive →
        ((shape.surface ⊆ solid.surface ∧
            ∀ q ∈ shape.surface, scalingPart Sample.turned Sample.turn *ᵥ own.act q = q) ↔
          ¬shape.isCapsule ∧ scalingPart Sample.turned Sample.turn * own.linear = 1 ∧ own.translation = 0) :=
  ⟨by decide +kernel, places_every_point_iff _ _ _ _ _ _ _ _ rfl rfl (by decide +kernel)⟩

end MoveitPlanning.Scene
