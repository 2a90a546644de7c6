import Mathlib.Data.List.Basic

/-! The search for a sub-solution, over stages of any kind. A solution is made of parts: the
solutions of a sequence, or what a wrapper wraps if that is not null. The search looks at a
solution and then into its parts in order, so what it returns is the first solution of its
stage in the list in which each comes before its parts. -/

namespace MoveitPlanning.Grasping

/-- `SolutionBase`, with the stage that `creator()` points to, if it is not null, and what
is kept of the scene it starts from, if it has one. -/
inductive SolutionBase (K S : Type*)
  | subTrajectory (creator : Option K) (start : Option S)
  | solutionSequence (creator : Option K) (start : Option S) (solutions : List (SolutionBase K S))
  | wrappedSolution (creator : Option K) (start : Option S) (wrapped : Option (SolutionBase K S))

namespace SolutionBase

variable {K S : Type*}

def creator : SolutionBase K S → Option K
  | .subTrajectory creator _ => creator
  | .solutionSequence creator _ _ => creator
  | .wrappedSolution creator _ _ => creator

def start : SolutionBase K S → Option S
  | .subTrajectory _ start => start
  | .solutionSequence _ start _ => start
  | .wrappedSolution _ start _ => start

/-- The solutions that a solution is made of. -/
def parts : SolutionBase K S → List (SolutionBase K S)
  | .subTrajectory _ _ => []
  | .solutionSequence _ _ solutions => solutions
  | .wrappedSolution _ _ wrapped => wrapped.toList

mutual

/-- What holds of a solution when it holds of its parts holds of every solution. -/
theorem induction_on_parts {P : SolutionBase K S → Prop} (h : ∀ s, (∀ sub ∈ s.parts, P sub) → P s)
    (s : SolutionBase K S) : P s := by
  cases s with
  | subTrajectory creator start => exact h _ fun sub hsub => absurd hsub List.not_mem_nil
  | solutionSequence creator start solutions => exact h _ (induction_on_all h solutions)
  | wrappedSolution creator start wrapped =>
    cases wrapped with
    | none => exact h _ fun sub hsub => absurd hsub List.not_mem_nil
    | some s => exact h _ fun sub hsub => List.mem_singleton.mp hsub ▸ induction_on_parts h s

theorem induction_on_all {P : SolutionBase K S → Prop} (h : ∀ s, (∀ sub ∈ s.parts, P sub) → P s)
    (solutions : List (SolutionBase K S)) : ∀ sub ∈ solutions, P sub := by
  cases solutions with
  | nil => exact fun sub hsub => absurd hsub List.not_mem_nil
  | cons s rest =>
    intro sub hsub
    rcases List.mem_cons.mp hsub with heq | hrest
    · exact heq ▸ induction_on_parts h s
    · exact induction_on_all h rest sub hrest

end

/-- The solution is the other one, or is within one of its parts. -/
inductive Contains : SolutionBase K S → SolutionBase K S → Prop
  | self (s) : Contains s s
  | part {s sub node} (hsub : sub ∈ s.parts) (hnode : Contains sub node) : Contains s node

mutual

/-- The solution and all solutions it contains, each before its parts. -/
def preorder (s : SolutionBase K S) : List (SolutionBase K S) :=
  match s with
  | .subTrajectory _ _ => [s]
  | .solutionSequence _ _ solutions => s :: preorderAll solutions
  | .wrappedSolution _ _ none => [s]
  | .wrappedSolution _ _ (some wrapped) => s :: preorder wrapped

def preorderAll : List (SolutionBase K S) → List (SolutionBase K S)
  | [] => []
  | sub :: rest => preorder sub ++ preorderAll rest

end

theorem preorderAll_eq (solutions : List (SolutionBase K S)) : preorderAll solutions = solutions.flatMap preorder := by
  induction solutions with
  | nil => rfl
  | cons sub rest ih => rw [preorderAll, ih, List.flatMap_cons]

theorem preorder_eq (s : SolutionBase K S) : s.preorder = s :: s.parts.flatMap preorder := by
  cases s with
  | subTrajectory creator start => rfl
  | solutionSequence creator start solutions => rw [preorder, preorderAll_eq, parts]
  | wrappedSolution creator start wrapped =>
    cases wrapped with
    | none => rfl
    | some wrapped => simp [preorder, parts]

theorem mem_preorder {s node : SolutionBase K S} : node ∈ s.preorder ↔ s.Contains node := by
  induction s using induction_on_parts with
  | h s ih =>
    rw [preorder_eq, List.mem_cons, List.mem_flatMap]
    constructor
    · rintro (rfl | ⟨sub, hsub, hnode⟩)
      · exact .self _
      · exact .part hsub ((ih sub hsub).mp hnode)
    · intro h
      cases h with
      | self => exact .inl rfl
      | part hsub hnode => exact .inr ⟨_, hsub, (ih _ hsub).mpr hnode⟩

/-! ### The search -/

section Search
variable [DecidableEq K]

mutual

/-- `findSubSolution`, of pointers that are not null. -/
def find (targetStage : K) (s : SolutionBase K S) : Option (SolutionBase K S) :=
  if s.creator = some targetStage then some s
  else
    match s with
    | .subTrajectory _ _ => none
    | .solutionSequence _ _ solutions => findAny targetStage solutions
    | .wrappedSolution _ _ none => none
    | .wrappedSolution _ _ (some wrapped) => find targetStage wrapped

/-- The loop over the solutions of a sequence. -/
def findAny (targetStage : K) : List (SolutionBase K S) → Option (SolutionBase K S)
  | [] => none
  | sub :: rest =>
    match find targetStage sub with
    | some found => some found
    | none => findAny targetStage rest

end

/-- `findSubSolution`. -/
def findSubSolution (s : Option (SolutionBase K S)) (targetStage : Option K) : Option (SolutionBase K S) :=
  match s, targetStage with
  | some s, some targetStage => s.find targetStage
  | _, _ => none

theorem findAny_eq (targetStage : K) (solutions : List (SolutionBase K S)) :
    findAny targetStage solutions = solutions.findSome? (find targetStage) := by
  induction solutions with
  | nil => rfl
  | cons sub rest ih =>
    rw [findAny, ih, List.findSome?_cons]
    cases sub.find targetStage <;> rfl

theorem find_eq (targetStage : K) (s : SolutionBase K S) :
    s.find targetStage = if s.creator = some targetStage then some s else s.parts.findSome? (find targetStage) := by
  unfold find
  congr 1
  cases s with
  | subTrajectory creator start => rfl
  | solutionSequence creator start solutions => exact findAny_eq targetStage solutions
  | wrappedSolution creator start wrapped =>
    cases wrapped with
    | none => rfl
    | some wrapped => exact List.findSome?_singleton.symm

/-- The search goes through the solutions in order. -/
theorem find_eq_find? (targetStage : K) (s : SolutionBase K S) :
    s.find targetStage = s.preorder.find? fun node => node.creator = some targetStage := by
  induction s using induction_on_parts with
  | h s ih =>
    rw [find_eq, preorder_eq]
    split_ifs with hcreator
    · exact (List.find?_cons_of_pos (by simpa using hcreator)).symm
    · rw [List.find?_cons_of_neg (by simpa using hcreator), List.find?_flatMap, ← List.head?_filterMap,
        ← List.head?_filterMap, List.filterMap_congr ih]

theorem find_eq_some_iff {targetStage : K} {s found : SolutionBase K S} :
    s.find targetStage = some found ↔ ∃ before after, s.preorder = before ++ found :: after ∧
      found.creator = some targetStage ∧ ∀ node ∈ before, node.creator ≠ some targetStage := by
  rw [find_eq_find?, List.find?_eq_some_iff_append]
  simp only [decide_eq_true_eq, Bool.not_eq_true', decide_eq_false_iff_not]
  constructor
  · rintro ⟨hcreator, before, after, hlist, hbefore⟩
    exact ⟨before, after, hlist, hcreator, hbefore⟩
  · rintro ⟨before, after, hlist, hcreator, hbefore⟩
    exact ⟨hcreator, before, after, hlist, hbefore⟩

theorem find_eq_none_iff {targetStage : K} {s : SolutionBase K S} :
    s.find targetStage = none ↔ ∀ node, s.Contains node → node.creator ≠ some targetStage := by
  rw [find_eq_find?, List.find?_eq_none]
  simp only [mem_preorder, decide_eq_true_eq, ne_eq]

end Search

end SolutionBase

end MoveitPlanning.Grasping
