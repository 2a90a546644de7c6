import MoveitPlanning.Foundation.NearestEven
import MoveitPlanning.Grasping.Isometries
import MoveitPlanning.Grasping.RoundedBox
import Mathlib.Data.List.MinMax
import Mathlib.Tactic.Linarith

/-! `computeObjectBoundingBox`, on exact numbers. The running bounds are the minimum and the
maximum of the list of all vertices, and the box between them touches a vertex on every
face. -/

namespace MoveitPlanning.Grasping

open Foundation Scene

variable {R : Type*}

/-- `ObjectBoundingBox`. -/
structure BoundingBox (R : Type*) where
  dimensions : Fin 3 → R
  centerTransform : Transform R

section Code
variable [Field R] [LinearOrder R] (eigen : Eigen R)

/-- The isometry of a part's pose, or without a pose the identity. -/
def placement : Option (Pose R) → Transform R
  | some pose => poseToIsometry eigen pose
  | none => 1

/-- The pose of a part. -/
def partTransform (poses : List (Pose R)) (i : ℕ) : Transform R := placement eigen poses[i]?

/-- The dimensions of a BOX primitive, if they are positive. -/
def positiveBox (primitive : SolidPrimitive R) : Option (Fin 3 → R) :=
  boxDimensions (fun x => decide (x ≤ 0)) primitive

def exactArithmetic : BoxArithmetic R (WithTop R) (WithBot R) (BoundingBox R) where
  nonpositive x := decide (x ≤ 0)
  infinity := ⊤
  negInfinity := ⊥
  min minimum x := min minimum x
  max maximum x := max maximum x
  -- the bounds are numbers once a vertex has been found
  difference maximum minimum := maximum.unbotD 0 - minimum.untopD 0
  middle minimum maximum := 1 / (2 : ℕ) * (minimum.untopD 0 + maximum.unbotD 0)
  place pose vertex := (placement eigen pose).act vertex.coords
  ofPrimitive dimensions pose := ⟨dimensions, placement eigen pose⟩
  axisAligned dimensions centre := ⟨dimensions, ⟨1, centre⟩⟩

/-- `computeObjectBoundingBox`. -/
def computeObjectBoundingBox (object : CollisionObject R) : Option (BoundingBox R) :=
  (exactArithmetic eigen).computeObjectBoundingBox object

/-! ### What an object is made of -/

/-- The vertices of all meshes, in the frame of the object. -/
def objectVertices (object : CollisionObject R) : List (Fin 3 → R) :=
  (exactArithmetic eigen).objectVertices object

/-- Primitive `i` is a BOX with these positive dimensions. -/
def IsBox (object : CollisionObject R) (i : ℕ) (dimensions : Fin 3 → R) : Prop :=
  ∃ primitive, object.primitives[i]? = some primitive ∧ positiveBox primitive = some dimensions

/-- The corner of a box with these dimensions at the signs. -/
def corner (dimensions : Fin 3 → R) (sign : Fin 3 → Bool) : Fin 3 → R :=
  fun k => if sign k then dimensions k / (2 : ℕ) else -(dimensions k / (2 : ℕ))

/-- The point is in the oriented box. -/
def BoundingBox.Contains (box : BoundingBox R) (p : Fin 3 → R) : Prop :=
  ∃ q, box.centerTransform.act q = p ∧ ∀ k, |q k| ≤ box.dimensions k / (2 : ℕ)

end Code

/-! ### The bounds of the vertices -/

/-- On each axis the vertices lie between the bounds, and some vertex is at each of them. -/
structure Extents [LinearOrder R] (vs : List (Fin 3 → R)) (minimum maximum : Fin 3 → R) : Prop where
  minimum_le : ∀ v ∈ vs, ∀ k, minimum k ≤ v k
  le_maximum : ∀ v ∈ vs, ∀ k, v k ≤ maximum k
  minimum_mem : ∀ k, ∃ v ∈ vs, v k = minimum k
  maximum_mem : ∀ k, ∃ v ∈ vs, v k = maximum k

section Bounds
variable [LinearOrder R]

theorem foldl_min (l : List R) (b : WithTop R) :
    l.foldl (fun (b : WithTop R) (x : R) => min b (x : WithTop R)) b = min b l.minimum := by
  induction l generalizing b with
  | nil => simp
  | cons x l ih => rw [List.foldl_cons, ih, List.minimum_cons, min_assoc]

theorem foldl_max (l : List R) (b : WithBot R) :
    l.foldl (fun (b : WithBot R) (x : R) => max b (x : WithBot R)) b = max b l.maximum := by
  induction l generalizing b with
  | nil => simp
  | cons x l ih => rw [List.foldl_cons, ih, List.maximum_cons, max_assoc]

theorem exists_extents {vs : List (Fin 3 → R)} (hne : vs ≠ []) :
    ∃ minimum maximum, Extents vs minimum maximum ∧
      (∀ k, (vs.map fun v => v k).minimum = minimum k) ∧ ∀ k, (vs.map fun v => v k).maximum = maximum k := by
  have hmap : ∀ k, (vs.map fun v => v k) ≠ [] := fun k => by simpa using hne
  choose minimum hmin using fun k => WithTop.ne_top_iff_exists.mp (List.minimum_ne_top_of_ne_nil (hmap k))
  choose maximum hmax using fun k => WithBot.ne_bot_iff_exists.mp (List.maximum_ne_bot_of_ne_nil (hmap k))
  have hlow := fun k => List.minimum_eq_coe_iff.mp (hmin k).symm
  have hhigh := fun k => List.maximum_eq_coe_iff.mp (hmax k).symm
  refine ⟨minimum, maximum, ⟨fun v hv k => ?_, fun v hv k => ?_, fun k => ?_, fun k => ?_⟩,
    fun k => (hmin k).symm, fun k => (hmax k).symm⟩
  · exact (hlow k).2 _ (List.mem_map_of_mem hv)
  · exact (hhigh k).2 _ (List.mem_map_of_mem hv)
  · exact List.mem_map.mp (hlow k).1
  · exact List.mem_map.mp (hhigh k).1

/-- The bounds depend on which vertices there are, not on their order or repetition. -/
theorem Extents.unique {vs vs' : List (Fin 3 → R)} {minimum maximum minimum' maximum' : Fin 3 → R}
    (h : Extents vs minimum maximum) (h' : Extents vs' minimum' maximum') (hsame : ∀ v, v ∈ vs ↔ v ∈ vs') :
    minimum = minimum' ∧ maximum = maximum' := by
  constructor
  · funext k
    obtain ⟨v, hv, hk⟩ := h.minimum_mem k
    obtain ⟨v', hv', hk'⟩ := h'.minimum_mem k
    exact le_antisymm (hk' ▸ h.minimum_le v' ((hsame v').mpr hv') k) (hk ▸ h'.minimum_le v ((hsame v).mp hv) k)
  · funext k
    obtain ⟨v, hv, hk⟩ := h.maximum_mem k
    obtain ⟨v', hv', hk'⟩ := h'.maximum_mem k
    exact le_antisymm (hk ▸ h'.le_maximum v ((hsame v).mp hv) k) (hk' ▸ h.le_maximum v' ((hsame v').mpr hv') k)

/-- The bounds of an axis meet when all vertices share the coordinate. -/
theorem Extents.maximum_le_minimum_iff {vs : List (Fin 3 → R)} {minimum maximum : Fin 3 → R}
    (h : Extents vs minimum maximum) (k : Fin 3) :
    maximum k ≤ minimum k ↔ ∀ v ∈ vs, ∀ w ∈ vs, v k = w k := by
  constructor
  · intro hle v hv w hw
    have hv' := And.intro (h.minimum_le v hv k) (h.le_maximum v hv k)
    have hw' := And.intro (h.minimum_le w hw k) (h.le_maximum w hw k)
    exact le_antisymm (hv'.2.trans (hle.trans hw'.1)) (hw'.2.trans (hle.trans hv'.1))
  · intro hshare
    obtain ⟨v, hv, hk⟩ := h.minimum_mem k
    obtain ⟨w, hw, hk'⟩ := h.maximum_mem k
    rw [← hk, ← hk', hshare v hv w hw]

end Bounds

section Result
variable [Field R] [LinearOrder R] (eigen : Eigen R)

variable [IsStrictOrderedRing R]

theorem box_of_extents {vs : List (Fin 3 → R)} {minimum maximum : Fin 3 → R} (h : Extents vs minimum maximum) :
    (exactArithmetic eigen).box ((exactArithmetic eigen).boundsOf vs) =
      if ∃ k, maximum k ≤ minimum k then none
      else some ⟨fun k => maximum k - minimum k, 1, fun k => 1 / (2 : ℕ) * (minimum k + maximum k)⟩ := by
  obtain ⟨v, hv, -⟩ := h.minimum_mem 0
  have hne : vs ≠ [] := List.ne_nil_of_mem hv
  obtain ⟨low, high, hext, hlow, hhigh⟩ := exists_extents hne
  obtain ⟨rfl, rfl⟩ := hext.unique h fun _ => Iff.rfl
  have hbounds : (exactArithmetic eigen).boundsOf vs = ⟨fun k => low k, fun k => high k, true⟩ := by
    rw [BoxArithmetic.boundsOf]
    congr 1
    · funext k
      exact (foldl_min _ ⊤).trans (by rw [hlow k, min_eq_right le_top])
    · funext k
      exact (foldl_max _ ⊥).trans (by rw [hhigh k, max_eq_right bot_le])
    · simpa using hne
  rw [hbounds]
  simp [BoxArithmetic.box, exactArithmetic]

variable {eigen} in
theorem eq_of_box_eq_some {vs : List (Fin 3 → R)} {box : BoundingBox R}
    (h : (exactArithmetic eigen).box ((exactArithmetic eigen).boundsOf vs) = some box) :
    ∃ minimum maximum, Extents vs minimum maximum ∧
      box = ⟨fun k => maximum k - minimum k, 1, fun k => 1 / (2 : ℕ) * (minimum k + maximum k)⟩ := by
  by_cases hvs : vs = []
  · subst hvs
    cases h
  · obtain ⟨minimum, maximum, hext, -⟩ := exists_extents hvs
    rw [box_of_extents eigen hext] at h
    split_ifs at h
    exact ⟨minimum, maximum, hext, (Option.some.inj h).symm⟩

/-- The box between the bounds has the vertices within half its dimensions of its centre,
and one on each face. -/
theorem Extents.tight {vs : List (Fin 3 → R)} {minimum maximum : Fin 3 → R} (h : Extents vs minimum maximum) :
    (∀ v ∈ vs, ∀ k, |v k - 1 / (2 : ℕ) * (minimum k + maximum k)| ≤ (maximum k - minimum k) / (2 : ℕ)) ∧
      ∀ k, (∃ v ∈ vs, v k = 1 / (2 : ℕ) * (minimum k + maximum k) - (maximum k - minimum k) / (2 : ℕ)) ∧
        ∃ v ∈ vs, v k = 1 / (2 : ℕ) * (minimum k + maximum k) + (maximum k - minimum k) / (2 : ℕ) := by
  refine ⟨fun v hv k => ?_, fun k => ⟨?_, ?_⟩⟩
  · have hlow := h.minimum_le v hv k
    have hhigh := h.le_maximum v hv k
    rw [abs_le, Nat.cast_ofNat]
    constructor <;> linarith
  · obtain ⟨v, hv, hk⟩ := h.minimum_mem k
    refine ⟨v, hv, ?_⟩
    rw [hk, Nat.cast_ofNat]
    ring
  · obtain ⟨v, hv, hk⟩ := h.maximum_mem k
    refine ⟨v, hv, ?_⟩
    rw [hk, Nat.cast_ofNat]
    ring

/-! ### Which branch is taken -/

omit [IsStrictOrderedRing R] in
/-- With a BOX primitive of positive dimensions the first one is the answer; without one
the vertices decide. -/
theorem computeObjectBoundingBox_cases (object : CollisionObject R) :
    (∃ i dimensions, IsBox object i dimensions ∧ (∀ j < i, ∀ d, ¬IsBox object j d) ∧
      computeObjectBoundingBox eigen object =
        some ⟨dimensions, partTransform eigen object.primitivePoses i⟩) ∨
    (∀ i d, ¬IsBox object i d) ∧
      computeObjectBoundingBox eigen object =
        (exactArithmetic eigen).box ((exactArithmetic eigen).boundsOf (objectVertices eigen object)) := by
  rw [computeObjectBoundingBox, BoxArithmetic.computeObjectBoundingBox]
  cases hfind : (exactArithmetic eigen).firstBox object with
  | none =>
    refine .inr ⟨fun i d hbox => ?_, ?_⟩
    · obtain ⟨primitive, hi, hd⟩ := hbox
      exact Option.some_ne_none d (hd.symm.trans (BoxArithmetic.firstBox_eq_none hfind hi))
    · exact congrArg (exactArithmetic eigen).box (BoxArithmetic.meshBounds_eq _ object)
  | some first =>
    obtain ⟨i, primitive, hi, hd, hpose, hfirst⟩ := BoxArithmetic.firstBox_eq_some hfind
    refine .inl ⟨i, first.1, ⟨primitive, hi, hd⟩, fun j hj d hbox => ?_, ?_⟩
    · obtain ⟨primitive', hj', hd'⟩ := hbox
      exact Option.some_ne_none d (hd'.symm.trans (hfirst j hj primitive' hj'))
    · rw [partTransform, hpose]
      rfl

omit [IsStrictOrderedRing R] in
theorem computeObjectBoundingBox_of_noBox {object : CollisionObject R} (hno : ∀ i d, ¬IsBox object i d) :
    computeObjectBoundingBox eigen object =
      (exactArithmetic eigen).box ((exactArithmetic eigen).boundsOf (objectVertices eigen object)) := by
  rcases computeObjectBoundingBox_cases eigen object with ⟨i, d, hbox, -⟩ | ⟨-, h⟩
  · exact absurd hbox (hno i d)
  · exact h

/-- Without a BOX primitive of positive dimensions: there is no box when there are no
vertices or all share a coordinate, and otherwise the box is the tightest around the
vertices, whatever their order. -/
theorem mesh_box_tight {object : CollisionObject R} (hno : ∀ i d, ¬IsBox object i d) :
    let vs := objectVertices eigen object
    (computeObjectBoundingBox eigen object = none ↔ vs = [] ∨ ∃ k, ∀ v ∈ vs, ∀ w ∈ vs, v k = w k) ∧
      (∀ box, computeObjectBoundingBox eigen object = some box →
        let centre := box.centerTransform.translation
        box.centerTransform.linear = 1 ∧
          (∀ v ∈ vs, ∀ k, |v k - centre k| ≤ box.dimensions k / (2 : ℕ)) ∧
          ∀ k, (∃ v ∈ vs, v k = centre k - box.dimensions k / (2 : ℕ)) ∧
            ∃ v ∈ vs, v k = centre k + box.dimensions k / (2 : ℕ)) ∧
      ∀ object', (∀ i d, ¬IsBox object' i d) → (∀ v, v ∈ objectVertices eigen object' ↔ v ∈ vs) →
        computeObjectBoundingBox eigen object' = computeObjectBoundingBox eigen object := by
  intro vs
  rw [computeObjectBoundingBox_of_noBox eigen hno]
  refine ⟨?_, fun box hbox => ?_, fun object' hno' hsame => ?_⟩
  · by_cases hvs : vs = []
    · rw [show objectVertices eigen object = [] from hvs]
      exact ⟨fun _ => .inl hvs, fun _ => rfl⟩
    · obtain ⟨minimum, maximum, hext, -⟩ := exists_extents hvs
      rw [box_of_extents eigen hext]
      simp only [hext.maximum_le_minimum_iff]
      split_ifs with hshare
      · exact ⟨fun _ => .inr hshare, fun _ => rfl⟩
      · exact ⟨fun h => (by cases h), fun h => (h.elim hvs hshare).elim⟩
  · obtain ⟨minimum, maximum, hext, rfl⟩ := eq_of_box_eq_some hbox
    exact ⟨rfl, hext.tight⟩
  · rw [computeObjectBoundingBox_of_noBox eigen hno']
    by_cases hvs : vs = []
    · have hvs' : objectVertices eigen object' = [] :=
        List.eq_nil_iff_forall_not_mem.mpr fun v hv => List.not_mem_nil (hvs ▸ (hsame v).mp hv)
      rw [hvs', show objectVertices eigen object = [] from hvs]
    · obtain ⟨v, hv⟩ := List.exists_mem_of_ne_nil vs hvs
      obtain ⟨minimum, maximum, hext, -⟩ := exists_extents hvs
      obtain ⟨minimum', maximum', hext', -⟩ := exists_extents (List.ne_nil_of_mem ((hsame v).mpr hv))
      obtain ⟨rfl, rfl⟩ := hext'.unique hext hsame
      rw [box_of_extents eigen hext, box_of_extents eigen hext']

omit [IsStrictOrderedRing R] in
theorem pos_of_positiveBox {primitive : SolidPrimitive R} {dimensions : Fin 3 → R}
    (h : positiveBox primitive = some dimensions) (k : Fin 3) : 0 < dimensions k :=
  not_le.mp (of_decide_eq_false (BoxArithmetic.nonpositive_of_boxDimensions h k))

theorem abs_corner {dimensions : Fin 3 → R} (hpos : ∀ k, 0 < dimensions k) (sign : Fin 3 → Bool) (k : Fin 3) :
    |corner dimensions sign k| = dimensions k / (2 : ℕ) := by
  have hhalf : 0 < dimensions k / (2 : ℕ) := div_pos (hpos k) (Nat.cast_pos.mpr two_pos)
  rw [corner]
  split_ifs
  · exact abs_of_pos hhalf
  · rw [abs_neg, abs_of_pos hhalf]

/-- A box that is returned is the first BOX primitive of positive dimensions, and holds
its own corners; without one it holds every vertex of every mesh. -/
theorem box_contains {object : CollisionObject R} {box : BoundingBox R}
    (h : computeObjectBoundingBox eigen object = some box) :
    (∃ i dimensions, IsBox object i dimensions ∧ (∀ j < i, ∀ d, ¬IsBox object j d) ∧
      box = ⟨dimensions, partTransform eigen object.primitivePoses i⟩ ∧
      ∀ sign, box.Contains ((partTransform eigen object.primitivePoses i).act (corner dimensions sign))) ∨
    (∀ i d, ¬IsBox object i d) ∧ ∀ v ∈ objectVertices eigen object, box.Contains v := by
  rcases computeObjectBoundingBox_cases eigen object with ⟨i, dimensions, hbox, hfirst, heq⟩ | ⟨hno, -⟩
  · obtain rfl := Option.some.inj (h.symm.trans heq)
    obtain ⟨primitive, -, hd⟩ := id hbox
    refine .inl ⟨i, dimensions, hbox, hfirst, rfl, fun sign => ⟨corner dimensions sign, rfl, fun k => ?_⟩⟩
    exact (abs_corner (pos_of_positiveBox hd) sign k).le
  · rw [computeObjectBoundingBox_of_noBox eigen hno] at h
    obtain ⟨minimum, maximum, hext, rfl⟩ := eq_of_box_eq_some h
    refine .inr ⟨hno, fun v hv => ⟨fun k => v k - 1 / (2 : ℕ) * (minimum k + maximum k), ?_, hext.tight.1 v hv⟩⟩
    funext k
    simp [Transform.act]

end Result

/-! ### Objects of several parts -/

namespace Sample

/-- A root that is right at 0 and 1, and quaternions of no rotation. -/
def eigen : Eigen ℚ where
  sqrt x := x
  cos _ := 1
  sin _ := 0
  pi := 0
  quaternionOf _ := ⟨0, 0, 0, 1⟩

/-- An object of boxes and of meshes without triangles, all at the origin. -/
def parts {R : Type*} [Zero R] [One R] (boxes : List R) (meshes : List (List (Vec3 R))) : CollisionObject R where
  stamp := 0
  frameId := []
  id := "box".toList
  operation := .add
  pose := Pose.identity
  meshes := meshes.map fun vertices => ⟨vertices, []⟩
  meshPoses := []
  primitives := boxes.map fun size => ⟨.box, [size, size, size]⟩
  primitivePoses := []

/-- The double next to `-1.8`. -/
def nearX : ℚ := -8106479329266893 / 2 ^ 52

/-- A mesh of two vertices, in doubles. -/
def doubles : CollisionObject Double := parts [] [[⟨.finite (-2), 0, 0⟩, ⟨.finite nearX, 1, 1⟩]]

end Sample

theorem mesh_box_tight_pair :
    let object := Sample.parts [-1] [[⟨-1, 0, 0⟩, ⟨1, 2, 0⟩], [⟨0, 0, 3⟩]]
    let vs := objectVertices Sample.eigen object
    (computeObjectBoundingBox Sample.eigen object).isSome ∧
    (computeObjectBoundingBox Sample.eigen object = none ↔ vs = [] ∨ ∃ k, ∀ v ∈ vs, ∀ w ∈ vs, v k = w k) ∧
      (∀ box, computeObjectBoundingBox Sample.eigen object = some box →
        let centre := box.centerTransform.translation
        box.centerTransform.linear = 1 ∧
          (∀ v ∈ vs, ∀ k, |v k - centre k| ≤ box.dimensions k / (2 : ℕ)) ∧
          ∀ k, (∃ v ∈ vs, v k = centre k - box.dimensions k / (2 : ℕ)) ∧
            ∃ v ∈ vs, v k = centre k + box.dimensions k / (2 : ℕ)) ∧
      ∀ object', (∀ i d, ¬IsBox object' i d) → (∀ v, v ∈ objectVertices Sample.eigen object' ↔ v ∈ vs) →
        computeObjectBoundingBox Sample.eigen object' = computeObjectBoundingBox Sample.eigen object := by
  refine ⟨by decide +kernel, mesh_box_tight Sample.eigen fun i d hbox => ?_⟩
  obtain ⟨primitive, hi, hd⟩ := hbox
  obtain rfl := List.mem_singleton.mp (List.mem_of_getElem? hi)
  cases hd

/-- The corners of a second box, or a vertex, outside the first box; and as the code is
rounded, a vertex outside the box around all vertices. -/
theorem parts_outside_box :
    (∃ box, computeObjectBoundingBox Sample.eigen (Sample.parts [1, 2] []) = some box ∧
      ¬∀ i d, IsBox (Sample.parts [1, 2] []) i d → ∀ sign, box.Contains
        ((partTransform Sample.eigen (Sample.parts [1, 2] []).primitivePoses i).act (corner d sign))) ∧
    (∃ box, computeObjectBoundingBox Sample.eigen (Sample.parts [1] [[⟨5, 0, 0⟩]]) = some box ∧
      ¬∀ v ∈ objectVertices Sample.eigen (Sample.parts [1] [[⟨5, 0, 0⟩]]), box.Contains v) ∧
    ∃ (box : ObjectBoundingBox) (centre width : ℚ),
      Rounded.computeObjectBoundingBox .nearestEven (fun _ v => v) Sample.doubles = some box ∧
        IsBinary64 Sample.nearX ∧ box.centerTransform.orientation = ⟨0, 0, 0, 1⟩ ∧
        box.centerTransform.position.x = .finite centre ∧ box.dimensions.x = .finite width ∧
        ¬|-2 - centre| ≤ width / 2 := by
  refine ⟨⟨⟨![1, 1, 1], 1⟩, rfl, fun h => ?_⟩, ⟨⟨![1, 1, 1], 1⟩, rfl, fun h => ?_⟩, ?_⟩
  · obtain ⟨q, hq, hinside⟩ := h 1 ![2, 2, 2] ⟨_, rfl, rfl⟩ fun _ => true
    have h0 := hinside 0
    rw [show q = _ from (Transform.one_act q).symm.trans hq] at h0
    exact absurd h0 (by decide +kernel)
  · obtain ⟨q, hq, hinside⟩ := h _ (List.mem_singleton_self _)
    have h0 := hinside 0
    rw [show q = _ from (Transform.one_act q).symm.trans hq] at h0
    exact absurd h0 (by decide +kernel)
  · let box : ObjectBoundingBox :=
      ⟨⟨.finite (2 + Sample.nearX), 1, 1⟩,
        ⟨⟨.finite (-8556839292003942 / 2 ^ 52), .finite (1 / 2), .finite (1 / 2)⟩, ⟨0, 0, 0, 1⟩⟩⟩
    have hformat : IsBinary64 Sample.nearX :=
      ⟨-8106479329266893, -52, by norm_num, by norm_num, by norm_num, by norm_num [Sample.nearX]⟩
    exact ⟨box, -8556839292003942 / 2 ^ 52, 2 + Sample.nearX, by decide +kernel, hformat, rfl, rfl, rfl,
      by decide +kernel⟩

theorem box_contains_first :
    let object := Sample.parts [-1, 1, 2] [[⟨5, 0, 0⟩]]
    let box : BoundingBox ℚ := ⟨![1, 1, 1], 1⟩
    computeObjectBoundingBox Sample.eigen object = some box ∧
    ((∃ i dimensions, IsBox object i dimensions ∧ (∀ j < i, ∀ d, ¬IsBox object j d) ∧
      box = ⟨dimensions, partTransform Sample.eigen object.primitivePoses i⟩ ∧
      ∀ sign, box.Contains ((partTransform Sample.eigen object.primitivePoses i).act (corner dimensions sign))) ∨
    (∀ i d, ¬IsBox object i d) ∧ ∀ v ∈ objectVertices Sample.eigen object, box.Contains v) :=
  ⟨rfl, box_contains Sample.eigen rfl⟩

end MoveitPlanning.Grasping
