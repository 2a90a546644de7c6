import MoveitPlanning.Scene.World
import Mathlib.Data.Fin.VecNotation
import Mathlib.Tactic.FinCases

/-! `computeObjectBoundingBox`, but for its arithmetic, which is a parameter: what it does
with exact numbers and with doubles differs in the operations only. The first BOX
primitive that is not skipped is the answer, whatever else the object has. Without one the
vertices of all meshes are passed over once with running bounds on each axis, and these
are the bounds of the list of all vertices. -/

namespace MoveitPlanning.Grasping

open Scene

variable {R L U B : Type*}

/-- The running bounds of the vertices seen so far. -/
structure Bounds (L U : Type*) where
  minimum : Fin 3 → L
  maximum : Fin 3 → U
  foundVertex : Bool

/-- The operations on coordinates `R`, on bounds, which may be infinite, and on boxes. -/
structure BoxArithmetic (R L U B : Type*) where
  /-- `dimension <= 0.0` -/
  nonpositive : R → Bool
  infinity : L
  negInfinity : U
  min : L → R → L
  max : U → R → U
  /-- `maximum - minimum` -/
  difference : U → L → R
  /-- `0.5 * (minimum + maximum)` -/
  middle : L → U → R
  /-- a vertex of a mesh, by the pose of the mesh if it has one -/
  place : Option (Pose R) → Vec3 R → Fin 3 → R
  /-- the box of a primitive, at its pose if it has one -/
  ofPrimitive : (Fin 3 → R) → Option (Pose R) → B
  /-- the box of these dimensions around a point, not rotated -/
  axisAligned : (Fin 3 → R) → (Fin 3 → R) → B

/-- The dimensions of a BOX primitive that is not skipped. -/
def boxDimensions (nonpositive : R → Bool) (primitive : SolidPrimitive R) : Option (Fin 3 → R) :=
  if primitive.type ≠ .box then none
  else
    match primitive.dimensions with
    | x :: y :: z :: _ => if nonpositive x || nonpositive y || nonpositive z then none else some ![x, y, z]
    | _ => none

namespace BoxArithmetic

variable (a : BoxArithmetic R L U B)

/-- The first BOX primitive that is not skipped: its dimensions, and its pose if it has one. -/
def firstBox (object : CollisionObject R) : Option ((Fin 3 → R) × Option (Pose R)) :=
  object.primitives.zipIdx.findSome? fun (primitive, i) =>
    (boxDimensions a.nonpositive primitive).map fun dimensions => (dimensions, object.primitivePoses[i]?)

def empty : Bounds L U := ⟨fun _ => a.infinity, fun _ => a.negInfinity, false⟩

def extend (b : Bounds L U) (vertex : Fin 3 → R) : Bounds L U where
  minimum k := a.min (b.minimum k) (vertex k)
  maximum k := a.max (b.maximum k) (vertex k)
  foundVertex := true

/-- The pass over the vertices of all meshes. -/
def meshBounds (object : CollisionObject R) : Bounds L U :=
  object.meshes.zipIdx.foldl (fun b (mesh, i) =>
    mesh.vertices.foldl (fun b vertex => a.extend b (a.place object.meshPoses[i]? vertex)) b) a.empty

/-- The box between the bounds, unless one of its dimensions is `<= 0`. -/
def box (b : Bounds L U) : Option B :=
  if !b.foundVertex then none
  else
    let dimensions : Fin 3 → R := fun k => a.difference (b.maximum k) (b.minimum k)
    if ∃ k, a.nonpositive (dimensions k) then none
    else some (a.axisAligned dimensions fun k => a.middle (b.minimum k) (b.maximum k))

/-- `computeObjectBoundingBox`. -/
def computeObjectBoundingBox (object : CollisionObject R) : Option B :=
  match a.firstBox object with
  | some (dimensions, pose) => some (a.ofPrimitive dimensions pose)
  | none => a.box (a.meshBounds object)

/-! ### The first box -/

theorem findSome?_zipIdx_eq_some {α β : Type*} {l : List α} {f : α × ℕ → Option β} {b : β}
    (h : l.zipIdx.findSome? f = some b) :
    ∃ i a, l[i]? = some a ∧ f (a, i) = some b ∧ ∀ j < i, ∀ a', l[j]? = some a' → f (a', j) = none := by
  obtain ⟨before, ⟨a, i⟩, after, hsplit, hb, hnone⟩ := List.findSome?_eq_some_iff.mp h
  have hat : ∀ j, l.zipIdx[j]? = (l[j]?).map fun a => (a, j) := fun j => by
    rw [List.getElem?_zipIdx, Nat.zero_add]
  have hi := hat before.length
  rw [hsplit, List.getElem?_append_right le_rfl, Nat.sub_self, List.getElem?_cons_zero] at hi
  obtain ⟨a', ha', heq⟩ := Option.map_eq_some_iff.mp hi.symm
  obtain ⟨rfl, rfl⟩ := Prod.mk.inj heq
  refine ⟨before.length, a', ha', hb, fun j hj c hc => hnone (c, j) ?_⟩
  have hmem := hat j
  rw [hsplit, List.getElem?_append_left hj, hc] at hmem
  exact List.mem_of_getElem? hmem

theorem nonpositive_of_boxDimensions {nonpositive : R → Bool} {primitive : SolidPrimitive R}
    {dimensions : Fin 3 → R} (h : boxDimensions nonpositive primitive = some dimensions) (k : Fin 3) :
    nonpositive (dimensions k) = false := by
  unfold boxDimensions at h
  split_ifs at h
  split at h
  · split_ifs at h with hskipped
    obtain rfl := Option.some.inj h
    simp only [Bool.or_eq_true, not_or, Bool.not_eq_true] at hskipped
    fin_cases k
    · exact hskipped.1.1
    · exact hskipped.1.2
    · exact hskipped.2
  · cases h

variable {a} {object : CollisionObject R} {dimensions : Fin 3 → R} {pose : Option (Pose R)}

theorem firstBox_eq_some (h : a.firstBox object = some (dimensions, pose)) :
    ∃ (i : ℕ) (primitive : SolidPrimitive R), object.primitives[i]? = some primitive ∧
      boxDimensions a.nonpositive primitive = some dimensions ∧ object.primitivePoses[i]? = pose ∧
      ∀ j < i, ∀ primitive', object.primitives[j]? = some primitive' →
        boxDimensions a.nonpositive primitive' = none := by
  obtain ⟨i, primitive, hi, hbox, hfirst⟩ := findSome?_zipIdx_eq_some h
  obtain ⟨_, hdimensions, heq⟩ := Option.map_eq_some_iff.mp hbox
  obtain ⟨rfl, rfl⟩ := Prod.mk.inj heq
  exact ⟨i, primitive, hi, hdimensions, rfl, fun j hj primitive' hj' =>
    Option.map_eq_none_iff.mp (hfirst j hj primitive' hj')⟩

theorem firstBox_eq_none (h : a.firstBox object = none) {i : ℕ} {primitive : SolidPrimitive R}
    (hi : object.primitives[i]? = some primitive) : boxDimensions a.nonpositive primitive = none :=
  Option.map_eq_none_iff.mp
    (List.findSome?_eq_none_iff.mp h (primitive, i) (List.mem_zipIdx_iff_getElem?.mpr hi))

/-! ### The bounds of the vertices -/

variable (a) in
/-- The vertices of all meshes, in the frame of the object. -/
def objectVertices (object : CollisionObject R) : List (Fin 3 → R) :=
  object.meshes.zipIdx.flatMap fun (mesh, i) => mesh.vertices.map (a.place object.meshPoses[i]?)

variable (a) in
/-- On each axis the bounds of a list of vertices are those of its coordinates. -/
def boundsOf (vs : List (Fin 3 → R)) : Bounds L U where
  minimum k := (vs.map fun v => v k).foldl a.min a.infinity
  maximum k := (vs.map fun v => v k).foldl a.max a.negInfinity
  foundVertex := !vs.isEmpty

theorem foldl_extend (vs : List (Fin 3 → R)) (b : Bounds L U) :
    vs.foldl a.extend b = ⟨fun k => (vs.map fun v => v k).foldl a.min (b.minimum k),
      fun k => (vs.map fun v => v k).foldl a.max (b.maximum k), b.foundVertex || !vs.isEmpty⟩ := by
  induction vs generalizing b with
  | nil => simp
  | cons v vs ih =>
    rw [List.foldl_cons, ih]
    simp [extend]

variable (a) in
theorem meshBounds_eq (object : CollisionObject R) : a.meshBounds object = a.boundsOf (a.objectVertices object) := by
  have hpass : a.meshBounds object = (a.objectVertices object).foldl a.extend a.empty := by
    rw [meshBounds, objectVertices, List.foldl_flatMap]
    congr 1
    funext b part
    rw [List.foldl_map]
  rw [hpass, foldl_extend]
  simp [boundsOf, empty]

end BoxArithmetic

end MoveitPlanning.Grasping
