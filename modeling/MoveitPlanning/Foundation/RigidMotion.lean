import Mathlib.Algebra.Group.Basic

/-! Poses of nodes that hang on each other. A pose is an element of a group, the pose of
a node relative to another is `(pose a)⁻¹ * pose b`, and moving a node to a pose takes
along what hangs on it. -/

namespace MoveitPlanning.Foundation

/-- Which nodes move with a node: the node itself, and what hangs on it. -/
structure Attachment (Node : Type*) where
  carries : Node → Node → Bool
  carries_self : ∀ node, carries node node = true

namespace Attachment

variable {Node G : Type*} [Group G] (att : Attachment Node)

/-- The poses after node `b` has been moved to `p`. -/
def moved (pose : Node → G) (b : Node) (p : G) (x : Node) : G :=
  if att.carries b x then p * (pose b)⁻¹ * pose x else pose x

@[simp] theorem moved_self (pose : Node → G) (b : Node) (p : G) : att.moved pose b p b = p := by
  rw [moved, if_pos (att.carries_self b), inv_mul_cancel_right]

theorem moved_of_not_carries {pose : Node → G} {b x : Node} (p : G) (h : att.carries b x = false) :
    att.moved pose b p x = pose x := by
  rw [moved, if_neg (by simp [h])]

/-- Poses that have `b` at `p`, what it carries where it was relative to `b`, and the
rest where it was, are those after the move. -/
theorem eq_moved {pose pose' : Node → G} {b : Node} {p : G} (hb : pose' b = p)
    (hcarried : ∀ x, att.carries b x = true → (pose' b)⁻¹ * pose' x = (pose b)⁻¹ * pose x)
    (hkept : ∀ x, att.carries b x = false → pose' x = pose x) : pose' = att.moved pose b p := by
  funext x
  cases hx : att.carries b x with
  | true =>
    have hrel := hcarried x hx
    rw [hb] at hrel
    rw [moved, if_pos hx, mul_assoc, ← hrel, mul_inv_cancel_left]
  | false => rw [att.moved_of_not_carries p hx, hkept x hx]

end Attachment

end MoveitPlanning.Foundation
