import MoveitPlanning.Foundation.DoubleRange
import MoveitPlanning.Grasping.Messages
import MoveitPlanning.Grasping.ObjectGeometry
import MoveitPlanning.Scene.Poses

/-! `computeObjectBoundingBox` as it is rounded. A BOX primitive is skipped for a dimension
that is `<= 0`, which one that is infinite or not a number is not, and so is the box
between the bounds of the vertices. So the dimensions of a box are finite and positive
exactly when what they come from is in a range that no test ensures. -/

namespace MoveitPlanning.Grasping.Rounded

open Foundation Scene

section Code
-- what the isometry of the mesh's pose, if it has one, makes of a vertex when it is rounded
variable (fp : Rounding) (toObjectFrame : Option (Pose Double) → Vec3 Double → Vec3 Double)

def boxArithmetic : BoxArithmetic Double Double Double ObjectBoundingBox where
  nonpositive x := x.le 0
  infinity := .posInf
  negInfinity := .negInf
  min := Double.min
  max := Double.max
  difference := fp.sub
  middle minimum maximum := fp.mul (.finite (1 / 2)) (fp.add minimum maximum)
  place pose vertex := (toObjectFrame pose vertex).coords
  ofPrimitive dimensions pose := ⟨.ofCoords dimensions, pose.getD Pose.identity⟩
  axisAligned dimensions centre := ⟨.ofCoords dimensions, ⟨.ofCoords centre, ⟨0, 0, 0, 1⟩⟩⟩

/-- `computeObjectBoundingBox`, as it is rounded. -/
def computeObjectBoundingBox (object : CollisionObject Double) : Option ObjectBoundingBox :=
  (boxArithmetic fp toObjectFrame).computeObjectBoundingBox object

/-- The first box that is not skipped has finite dimensions; without one, no vertex has an
infinite coordinate, and none are too far apart on an axis. -/
def ShapeInRange (object : CollisionObject Double) : Prop :=
  match (boxArithmetic fp toObjectFrame).firstBox object with
  | some (dimensions, _) => ∀ k, (dimensions k).isFinite = true
  | none => ∀ k, fp.KeepsSpan (((boxArithmetic fp toObjectFrame).objectVertices object).map fun v => v k)

end Code

section Dimensions
variable {fp : Rounding} {toObjectFrame : Option (Pose Double) → Vec3 Double → Vec3 Double}
  {object : CollisionObject Double} {box : ObjectBoundingBox}

/-- A box is finite and positive in every dimension exactly when the shape is in range. -/
theorem dimensions_isPositive_iff (h : computeObjectBoundingBox fp toObjectFrame object = some box) :
    (∀ k, (box.dimensions.coords k).IsPositive) ↔ ShapeInRange fp toObjectFrame object := by
  unfold computeObjectBoundingBox BoxArithmetic.computeObjectBoundingBox at h
  unfold ShapeInRange
  cases hfirst : (boxArithmetic fp toObjectFrame).firstBox object with
  | some first =>
    rw [hfirst] at h
    obtain rfl := Option.some.inj h
    obtain ⟨i, primitive, -, hdimensions, -⟩ := BoxArithmetic.firstBox_eq_some hfirst
    refine forall_congr' fun k => ?_
    have hle : (first.1 k).le 0 = false := BoxArithmetic.nonpositive_of_boxDimensions hdimensions k
    exact (congrArg Double.IsPositive (congrFun (Vec3.ofCoords_coords first.1) k)).to_iff.trans
      (Double.isPositive_iff_of_le hle)
  | none =>
    rw [hfirst, BoxArithmetic.meshBounds_eq] at h
    simp only [BoxArithmetic.box] at h
    split_ifs at h with _ hle
    obtain rfl := Option.some.inj h
    refine forall_congr' fun k => ?_
    let coordinates := ((boxArithmetic fp toObjectFrame).objectVertices object).map fun v => v k
    have hspan : (fp.sub (Double.runningMax coordinates) (Double.runningMin coordinates)).le 0 = false :=
      Bool.eq_false_iff.mpr fun hk => hle ⟨k, hk⟩
    exact (congrArg Double.IsPositive (congrFun (Vec3.ofCoords_coords _) k)).to_iff.trans
      ((Double.isPositive_iff_of_le hspan).trans (Rounding.span_isFinite_iff hspan))

end Dimensions

end MoveitPlanning.Grasping.Rounded
