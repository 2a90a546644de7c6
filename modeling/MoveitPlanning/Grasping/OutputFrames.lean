import Mathlib.Algebra.Group.TypeTags.Basic
import MoveitPlanning.Foundation.RigidMotion
import MoveitPlanning.Grasping.Skill

/-! The World after the skill has written its output frames. The grasp frame is updated
before the pregrasp frame is looked up, and nothing is undone, so a call that fails has
moved no frame or the grasp frame alone. The poses of the messages are given in the
frame of the collision object that was planned for, and the frames are put at these
poses relative to the candidate object. -/

namespace MoveitPlanning.Grasping

open Foundation Scene

section World
variable {W Object Node : Type*} (world : ObjectWorld W Object Node) (params : GraspPlanningParams)
  (selected : ObjectPlanningResult)

/-! ### How writing the frames ends -/

/-- The ways in which `writeOutputFrames` ends, with its status and the World it leaves. -/
inductive Writing (w : W) : Status → W → Prop
  | notRequested (grasp : params.outputGraspFrame = none) (pregrasp : params.outputPregraspFrame = none) :
      Writing w (.ok ()) w
  | objectFailed (failure : Failure) : Writing w (.error failure) w
  | graspFailed (failure : Failure) : Writing w (.error failure) w
  | pregraspFailed {target : Object} {w₁ : W} {failure : Failure}
      (object : world.getObject w selected.candidateObject = .ok target)
      (grasp : updateIfRequested world .grasp (world.asTransformNode target) params.outputGraspFrame
        selected.grasp.graspPose.pose w = .ok w₁)
      (pregrasp : updateIfRequested world .pregrasp (world.asTransformNode target) params.outputPregraspFrame
        selected.preGraspPose.pose w₁ = .error failure) : Writing w (.error failure) w₁
  | written {target : Object} {w₁ w₂ : W}
      (object : world.getObject w selected.candidateObject = .ok target)
      (grasp : updateIfRequested world .grasp (world.asTransformNode target) params.outputGraspFrame
        selected.grasp.graspPose.pose w = .ok w₁)
      (pregrasp : updateIfRequested world .pregrasp (world.asTransformNode target) params.outputPregraspFrame
        selected.preGraspPose.pose w₁ = .ok w₂) : Writing w (.ok ()) w₂

theorem writing (w : W) : Writing world params selected w (writeOutputFrames world params selected w).1
    (writeOutputFrames world params selected w).2 := by
  unfold writeOutputFrames
  split_ifs with hnone
  · rw [Bool.and_eq_true, Option.isNone_iff_eq_none, Option.isNone_iff_eq_none] at hnone
    exact .notRequested hnone.1 hnone.2
  · cases hobject : world.getObject w selected.candidateObject with
    | error failure => exact .objectFailed _
    | ok target =>
      dsimp only
      cases hgrasp : updateIfRequested world .grasp (world.asTransformNode target) params.outputGraspFrame
          selected.grasp.graspPose.pose w with
      | error failure => exact .graspFailed failure
      | ok w₁ =>
        dsimp only
        cases hpregrasp : updateIfRequested world .pregrasp (world.asTransformNode target)
            params.outputPregraspFrame selected.preGraspPose.pose w₁ with
        | error failure => exact .pregraspFailed hobject hgrasp hpregrasp
        | ok w₂ => exact .written hobject hgrasp hpregrasp

variable {world}

theorem updateOutputFrame_eq_ok_iff {which : OutputFrame} {targetNode : Node} {frame : TransformNodeReference}
    {pose : Pose Double} {w w' : W} :
    updateOutputFrame world which targetNode frame pose w = .ok w' ↔
      ∃ node, world.getTransformNode which w frame = .ok node ∧
        world.updateTransform which w targetNode node node pose = .ok w' := by
  unfold updateOutputFrame
  cases hnode : world.getTransformNode which w frame with
  | error failure => simp
  | ok node =>
    cases hupdate : world.updateTransform which w targetNode node node pose with
    | error failure => simp [hupdate]
    | ok w₁ => simp [hupdate]

theorem updateOutputFrame_fails_iff {which : OutputFrame} {targetNode : Node} {frame : TransformNodeReference}
    {pose : Pose Double} {w : W} :
    (∃ failure, updateOutputFrame world which targetNode frame pose w = .error failure) ↔
      (∃ failure, world.getTransformNode which w frame = .error failure) ∨
        ∃ node failure, world.getTransformNode which w frame = .ok node ∧
          world.updateTransform which w targetNode node node pose = .error failure := by
  unfold updateOutputFrame
  cases hnode : world.getTransformNode which w frame with
  | error failure => simp
  | ok node =>
    cases hupdate : world.updateTransform which w targetNode node node pose with
    | error failure => simp [hupdate]
    | ok w₁ => simp [hupdate]

/-! ### A call that fails -/

variable (world)

/-- The grasp frame has been updated, and then the lookup or the update of the pregrasp
frame has failed. -/
inductive GraspFrameOnly (w w₁ : W) : Prop
  | intro {target : Object} {graspFrame pregraspFrame : TransformNodeReference} {node : Node}
      (object : world.getObject w selected.candidateObject = .ok target)
      (graspRequested : params.outputGraspFrame = some graspFrame)
      (pregraspRequested : params.outputPregraspFrame = some pregraspFrame)
      (graspLookup : world.getTransformNode .grasp w graspFrame = .ok node)
      (graspUpdate : world.updateTransform .grasp w (world.asTransformNode target) node node
        selected.grasp.graspPose.pose = .ok w₁)
      (pregraspFails : (∃ failure, world.getTransformNode .pregrasp w₁ pregraspFrame = .error failure) ∨
        ∃ node' failure, world.getTransformNode .pregrasp w₁ pregraspFrame = .ok node' ∧
          world.updateTransform .pregrasp w₁ (world.asTransformNode target) node' node'
            selected.preGraspPose.pose = .error failure)

variable {world params selected}

/-- Writing that fails leaves the World as it was or with the grasp frame updated. -/
theorem Writing.of_failure {w w' : W} {failure : Failure}
    (h : Writing world params selected w (.error failure) w') :
    w' = w ∨ GraspFrameOnly world params selected w w' := by
  cases h with
  | objectFailed => exact .inl rfl
  | graspFailed => exact .inl rfl
  | @pregraspFailed target _ _ object grasp pregrasp =>
    cases hgrasp : params.outputGraspFrame with
    | none =>
      -- the World in which the pregrasp frame was looked up is the one of the call
      rw [hgrasp] at grasp
      exact .inl (Except.ok.inj grasp).symm
    | some graspFrame =>
      cases hpregrasp : params.outputPregraspFrame with
      | none =>
        rw [hpregrasp] at pregrasp
        exact nomatch pregrasp
      | some pregraspFrame =>
        rw [hgrasp] at grasp
        rw [hpregrasp] at pregrasp
        obtain ⟨node, hnode, hupdate⟩ := updateOutputFrame_eq_ok_iff.mp grasp
        exact .inr (.intro object hgrasp hpregrasp hnode hupdate (updateOutputFrame_fails_iff.mp ⟨_, pregrasp⟩))

theorem GraspFrameOnly.writeOutputFrames {w w₁ : W} (h : GraspFrameOnly world params selected w w₁) :
    (writeOutputFrames world params selected w).2 = w₁ := by
  obtain ⟨object, hgrasp, hpregrasp, hnode, hupdate, hfails⟩ := h
  have hwritten := updateOutputFrame_eq_ok_iff.mpr ⟨_, hnode, hupdate⟩
  obtain ⟨failure, hfailed⟩ := updateOutputFrame_fails_iff.mpr hfails
  simp only [Grasping.writeOutputFrames, hgrasp, hpregrasp, Option.isNone_some, Bool.and_self,
    Bool.false_eq_true, if_false, object, updateIfRequested, hwritten, hfailed]

end World

section Skill
variable {W Object Node : Type*} (fp : Rounding) (nowMs : ℤ) (action : Goal → Double → ActionExchange)
  (world : ObjectWorld W Object Node) (request : Except Failure GraspPlanningParams) (w : W)

theorem execute_of_results {params : GraspPlanningParams} {results : PlanningResults}
    (hresults : planningResults fp action params = .ok results) :
    execute fp nowMs action world (.ok params) w =
      ((writeOutputFrames world params results.selected w).1.map fun _ => graspPlanningResult params nowMs results,
        (writeOutputFrames world params results.selected w).2) := by
  simp only [execute, hresults]
  rcases writeOutputFrames world params results.selected w with ⟨failure | ⟨⟩, w'⟩
  · rfl
  · rfl

theorem execute_cases :
    (∃ failure, execute fp nowMs action world request w = (.error failure, w)) ∨
      ∃ params results, request = .ok params ∧ planningResults fp action params = .ok results := by
  cases request with
  | error failure => exact .inl ⟨failure, rfl⟩
  | ok params =>
    cases hresults : planningResults fp action params with
    | error failure => exact .inl ⟨failure, by simp only [execute, hresults]⟩
    | ok results => exact .inr ⟨params, results, rfl, hresults⟩

/-- A call that is OK has written the frames and answers with the result made of its grasps. -/
theorem execute_eq_ok {params : GraspPlanningParams} {response : GraspPlanningResult} {w' : W}
    (h : execute fp nowMs action world (.ok params) w = (.ok response, w')) :
    ∃ results, planningResults fp action params = .ok results ∧
      response = graspPlanningResult params nowMs results ∧
      writeOutputFrames world params results.selected w = (.ok (), w') := by
  rcases execute_cases fp nowMs action world (.ok params) w with ⟨failure, hexecute⟩ | ⟨_, results, hparams, hresults⟩
  · rw [hexecute] at h
    exact nomatch h
  · obtain rfl := Except.ok.inj hparams
    rw [execute_of_results fp nowMs action world w hresults] at h
    rcases hwrite : writeOutputFrames world params results.selected w with ⟨failure | ⟨⟩, w₁⟩
    · rw [hwrite] at h
      exact nomatch h
    · rw [hwrite, Prod.mk.injEq] at h
      exact ⟨results, hresults, (Except.ok.inj h.1).symm, hwrite.trans (Prod.ext rfl h.2)⟩

/-- The call gets to the output frames and stops between the two. -/
def PartialWrite (w₁ : W) : Prop :=
  ∃ params results, request = .ok params ∧ planningResults fp action params = .ok results ∧
    GraspFrameOnly world params results.selected w w₁

variable {fp nowMs action world request w}

theorem PartialWrite.execute {w₁ : W} (h : PartialWrite fp action world request w w₁) :
    (execute fp nowMs action world request w).2 = w₁ := by
  obtain ⟨params, results, rfl, hresults, hpartial⟩ := h
  rw [execute_of_results fp nowMs action world w hresults]
  exact hpartial.writeOutputFrames

/-- The World after a call that is not OK is the one before it, except where the call has
stopped between the two frames. -/
theorem world_of_failure {failure : Failure}
    (h : (execute fp nowMs action world request w).1 = .error failure) :
    let w' := (execute fp nowMs action world request w).2
    (∀ w₁, PartialWrite fp action world request w w₁ → w' = w₁) ∧
      ((¬∃ w₁, PartialWrite fp action world request w w₁) → w' = w) := by
  intro w'
  refine ⟨fun w₁ hpartial => hpartial.execute, fun hnone => ?_⟩
  rcases execute_cases fp nowMs action world request w with ⟨failure', hexecute⟩ | ⟨params, results, rfl, hresults⟩
  · simp only [w', hexecute]
  · have hexecute := execute_of_results fp nowMs action world w hresults
    have hwriting := writing world params results.selected w
    cases hstatus : (writeOutputFrames world params results.selected w).1 with
    | ok _ =>
      rw [hexecute, hstatus] at h
      exact nomatch h
    | error failure' =>
      rw [hstatus] at hwriting
      simp only [w', hexecute]
      refine hwriting.of_failure.resolve_right fun hpartial => hnone ⟨_, params, results, rfl, hresults, hpartial⟩

end Skill

/-! ### Where the frames are -/

/-- What the World service says of the poses of its nodes: references and the ids of
collision objects stand for nodes, and an update puts the node it is called for at the
given pose relative to the other one, together with what hangs on it. -/
structure WorldPoses {W Object Node : Type*} (world : ObjectWorld W Object Node) (G : Type*) [Group G] where
  objectNode : ObjectReference → Node
  frameNode : TransformNodeReference → Node
  /-- the entity that is published as the collision object of this id -/
  entityNode : Name → Node
  attachment : Attachment Node
  /-- the pose of a node in the world -/
  pose : W → Node → G
  /-- `Pose3d` -/
  ofPose : Pose Double → G
  getObject_eq {w ref object} : world.getObject w ref = .ok object → world.asTransformNode object = objectNode ref
  getTransformNode_eq {which w ref node} : world.getTransformNode which w ref = .ok node → node = frameNode ref
  pose_updated {which w w' a b aTb} : world.updateTransform which w a b b aTb = .ok w' →
    pose w' b = pose w' a * ofPose aTb
  pose_carried {which w w' a b aTb} : world.updateTransform which w a b b aTb = .ok w' →
    ∀ x, attachment.carries b x = true → (pose w' b)⁻¹ * pose w' x = (pose w b)⁻¹ * pose w x
  pose_kept {which w w' a b aTb} : world.updateTransform which w a b b aTb = .ok w' →
    ∀ x, attachment.carries b x = false → pose w' x = pose w x

namespace WorldPoses

variable {W Object Node : Type*} {world : ObjectWorld W Object Node} {G : Type*} [Group G]
  (poses : WorldPoses world G)

/-- No object and no entity is or hangs on the node. -/
structure IsFrame (node : Node) : Prop where
  object : ∀ ref, poses.attachment.carries node (poses.objectNode ref) = false
  entity : ∀ id, poses.attachment.carries node (poses.entityNode id) = false

/-- The request asks for frames only. -/
def FramesRequested (params : GraspPlanningParams) : Prop :=
  ∀ frame, params.outputGraspFrame = some frame ∨ params.outputPregraspFrame = some frame →
    poses.IsFrame (poses.frameNode frame)

section Frames
variable (params : GraspPlanningParams) (selected : ObjectPlanningResult)

/-- The output frames are at the poses of the messages relative to the frames that the
messages name. -/
structure OutputFramesPlaced (w' : W) : Prop where
  grasp : ∀ frame, params.outputGraspFrame = some frame → poses.pose w' (poses.frameNode frame) =
    poses.pose w' (poses.entityNode selected.grasp.graspPose.frameId) * poses.ofPose selected.grasp.graspPose.pose
  pregrasp : ∀ frame, params.outputPregraspFrame = some frame → poses.pose w' (poses.frameNode frame) =
    poses.pose w' (poses.entityNode selected.preGraspPose.frameId) * poses.ofPose selected.preGraspPose.pose

/-- The root of the candidate object. -/
def rootPose (w : W) : G := poses.pose w (poses.objectNode selected.candidateObject)

/-- The motion of the grasp frame when the pregrasp frame is put in its place. It is not
trivial only for a grasp frame that is or hangs on the pregrasp frame. -/
def graspFrameMotion (w : W) (graspNode : Node) : G :=
  match params.outputPregraspFrame with
  | none => 1
  | some pregraspFrame =>
    if poses.attachment.carries (poses.frameNode pregraspFrame) graspNode then
      poses.rootPose selected w * poses.ofPose selected.preGraspPose.pose *
        (poses.attachment.moved (poses.pose w) graspNode
          (poses.rootPose selected w * poses.ofPose selected.grasp.graspPose.pose)
          (poses.frameNode pregraspFrame))⁻¹
    else 1

/-- The entities that the messages name are at the root of the candidate object, as far
as the grasp frame is concerned after its later motion. -/
structure EntitiesAtRoot (w : W) : Prop where
  grasp : ∀ frame, params.outputGraspFrame = some frame →
    poses.graspFrameMotion params selected w (poses.frameNode frame) * poses.rootPose selected w =
      poses.pose w (poses.entityNode selected.grasp.graspPose.frameId)
  pregrasp : ∀ frame, params.outputPregraspFrame = some frame →
    poses.rootPose selected w = poses.pose w (poses.entityNode selected.preGraspPose.frameId)

end Frames

variable {params : GraspPlanningParams} {selected : ObjectPlanningResult} {which : OutputFrame} {w w' : W}

theorem pose_updateOutputFrame {target : Object} {ref : ObjectReference} {frame : TransformNodeReference}
    {pose : Pose Double} (hobject : world.asTransformNode target = poses.objectNode ref)
    (hframe : poses.IsFrame (poses.frameNode frame))
    (h : updateOutputFrame world which (world.asTransformNode target) frame pose w = .ok w') :
    poses.pose w' = poses.attachment.moved (poses.pose w) (poses.frameNode frame)
      (poses.pose w (poses.objectNode ref) * poses.ofPose pose) := by
  obtain ⟨node, hnode, hupdate⟩ := updateOutputFrame_eq_ok_iff.mp h
  rw [poses.getTransformNode_eq hnode, hobject] at hupdate
  apply poses.attachment.eq_moved
  · rw [poses.pose_updated hupdate, poses.pose_kept hupdate _ (hframe.object ref)]
  · exact poses.pose_carried hupdate
  · exact poses.pose_kept hupdate

/-- Objects and entities stay where they are when a frame is updated. -/
theorem kept_of_updateIfRequested {target : Object} {ref : ObjectReference}
    {frame : Option TransformNodeReference} {pose : Pose Double}
    (hobject : world.asTransformNode target = poses.objectNode ref)
    (hframe : ∀ f, frame = some f → poses.IsFrame (poses.frameNode f))
    (h : updateIfRequested world which (world.asTransformNode target) frame pose w = .ok w') :
    (∀ ref, poses.pose w' (poses.objectNode ref) = poses.pose w (poses.objectNode ref)) ∧
      ∀ id, poses.pose w' (poses.entityNode id) = poses.pose w (poses.entityNode id) := by
  cases frame with
  | none =>
    rw [← Except.ok.inj h]
    exact ⟨fun _ => rfl, fun _ => rfl⟩
  | some f =>
    have hf := hframe f rfl
    rw [poses.pose_updateOutputFrame hobject hf h]
    exact ⟨fun ref => Attachment.moved_of_not_carries _ _ (hf.object ref),
      fun id => Attachment.moved_of_not_carries _ _ (hf.entity id)⟩

section Written
variable {target : Object} {w₁ : W}
  (hobject : world.asTransformNode target = poses.objectNode selected.candidateObject)
  (hframes : poses.FramesRequested params)
  (hgrasp : updateIfRequested world .grasp (world.asTransformNode target) params.outputGraspFrame
    selected.grasp.graspPose.pose w = .ok w₁)
  (hpregrasp : updateIfRequested world .pregrasp (world.asTransformNode target) params.outputPregraspFrame
    selected.preGraspPose.pose w₁ = .ok w')
include hobject hframes hgrasp hpregrasp

/-- After both steps the grasp frame has been put relative to the object and then moved
by the second. -/
theorem pose_graspFrame (frame : TransformNodeReference) (hframe : params.outputGraspFrame = some frame) :
    poses.pose w' (poses.frameNode frame) =
      poses.graspFrameMotion params selected w (poses.frameNode frame) * poses.rootPose selected w *
        poses.ofPose selected.grasp.graspPose.pose := by
  have hkept := (poses.kept_of_updateIfRequested hobject (fun f hf => hframes f (.inl hf)) hgrasp).1
  rw [hframe] at hgrasp
  have hfirst := poses.pose_updateOutputFrame hobject (hframes frame (.inl hframe)) hgrasp
  have hput : poses.pose w₁ (poses.frameNode frame) =
      poses.rootPose selected w * poses.ofPose selected.grasp.graspPose.pose := by
    rw [hfirst, Attachment.moved_self, rootPose]
  cases hsecond : params.outputPregraspFrame with
  | none =>
    rw [hsecond] at hpregrasp
    rw [← Except.ok.inj hpregrasp, hput]
    simp only [graspFrameMotion, hsecond, one_mul]
  | some pregraspFrame =>
    rw [hsecond] at hpregrasp
    have hmoved := poses.pose_updateOutputFrame hobject (hframes pregraspFrame (.inr hsecond)) hpregrasp
    rw [hmoved, Attachment.moved, hkept, hput]
    simp only [graspFrameMotion, hsecond]
    split_ifs with hcarries
    · rw [hfirst]
      simp only [rootPose, mul_assoc]
    · rw [one_mul]

theorem pose_pregraspFrame (frame : TransformNodeReference) (hframe : params.outputPregraspFrame = some frame) :
    poses.pose w' (poses.frameNode frame) =
      poses.rootPose selected w * poses.ofPose selected.preGraspPose.pose := by
  have hkept := (poses.kept_of_updateIfRequested hobject (fun f hf => hframes f (.inl hf)) hgrasp).1
  rw [hframe] at hpregrasp
  rw [poses.pose_updateOutputFrame hobject (hframes frame (.inr hframe)) hpregrasp, Attachment.moved_self, hkept,
    rootPose]

end Written

/-- After writing that succeeds the frames are where the messages say exactly when the
entities of the messages are at the object's root. -/
theorem placed_iff_of_writing
    (hframes : poses.FramesRequested params)
    (h : Writing world params selected w (.ok ()) w') :
    poses.OutputFramesPlaced params selected w' ↔ poses.EntitiesAtRoot params selected w := by
  cases h with
  | notRequested grasp pregrasp =>
    have hnotGrasp : ∀ frame, params.outputGraspFrame ≠ some frame := by simp [grasp]
    have hnotPregrasp : ∀ frame, params.outputPregraspFrame ≠ some frame := by simp [pregrasp]
    apply iff_of_true
    · exact ⟨fun f hf => absurd hf (hnotGrasp f), fun f hf => absurd hf (hnotPregrasp f)⟩
    · exact ⟨fun f hf => absurd hf (hnotGrasp f), fun f hf => absurd hf (hnotPregrasp f)⟩
  | @written target w₁ _ object grasp pregrasp =>
    have hobject := poses.getObject_eq object
    have hgrasp := poses.pose_graspFrame hobject hframes grasp pregrasp
    have hpregrasp := poses.pose_pregraspFrame hobject hframes grasp pregrasp
    have hentity : ∀ id, poses.pose w' (poses.entityNode id) = poses.pose w (poses.entityNode id) := by
      intro id
      rw [(poses.kept_of_updateIfRequested hobject (fun f hf => hframes f (.inr hf)) pregrasp).2,
        (poses.kept_of_updateIfRequested hobject (fun f hf => hframes f (.inl hf)) grasp).2]
    constructor
    · intro hplaced
      refine ⟨fun frame hf => ?_, fun frame hf => ?_⟩
      · have hpose := hplaced.grasp frame hf
        rw [hgrasp frame hf, hentity] at hpose
        exact mul_right_cancel hpose
      · have hpose := hplaced.pregrasp frame hf
        rw [hpregrasp frame hf, hentity] at hpose
        exact mul_right_cancel hpose
    · intro hroot
      refine ⟨fun frame hf => ?_, fun frame hf => ?_⟩
      · rw [hgrasp frame hf, hentity, hroot.grasp frame hf]
      · rw [hpregrasp frame hf, hentity, hroot.pregrasp frame hf]

/-- After a call that is OK the output frames are where the messages of its first grasp
say exactly when the entities of these messages are at the object's root. -/
theorem output_frames_placed_iff {fp : Rounding} {nowMs : ℤ} {action : Goal → Double → ActionExchange}
    {response : GraspPlanningResult}
    (hframes : poses.FramesRequested params)
    (h : execute fp nowMs action world (.ok params) w = (.ok response, w')) :
    ∃ results, planningResults fp action params = .ok results ∧
      (poses.OutputFramesPlaced params results.selected w' ↔ poses.EntitiesAtRoot params results.selected w) := by
  obtain ⟨results, hresults, -, hwrite⟩ := execute_eq_ok fp nowMs action world w h
  have hwriting := writing world params results.selected w
  rw [hwrite] at hwriting
  exact ⟨results, hresults, poses.placed_iff_of_writing hframes hwriting⟩

end WorldPoses

/-! ### Concrete Worlds -/

namespace Sample

inductive Node
  | object (name : Name)
  | entity (id : Name)
  | frame (name : Name)
  deriving DecidableEq, Repr

def offset (pose : Pose Double) : ℚ :=
  match pose.position.x with
  | .finite q => q
  | _ => 0

/-- A World with all its nodes on a line, in which frames can be put anywhere. -/
def lineWorld : ObjectWorld (Node → ℚ) Name Node where
  getObject _ ref := .ok ref.targetId
  asTransformNode name := .object name
  getTransformNode _ _ ref := .ok (.frame ref.toolFrame)
  updateTransform _ w a b nodeToUpdate aTb :=
    if a = b ∨ nodeToUpdate ≠ b then .error ⟨.invalidArgument, []⟩
    else .ok (Function.update w b (w a + offset aTb))

theorem lineWorld_update {which : OutputFrame} {w w' : Node → ℚ} {a b : Node} {aTb : Pose Double}
    (h : lineWorld.updateTransform which w a b b aTb = .ok w') :
    a ≠ b ∧ w' = Function.update w b (w a + offset aTb) := by
  simp only [lineWorld] at h
  split_ifs at h with hab
  · exact ⟨fun heq => hab (.inl heq), (Except.ok.inj h).symm⟩

/-- Nothing hangs on a node of the line. -/
def linePoses : WorldPoses lineWorld (Multiplicative ℚ) where
  objectNode ref := .object ref.targetId
  frameNode ref := .frame ref.toolFrame
  entityNode id := .entity id
  attachment := ⟨fun a b => decide (a = b), by simp⟩
  pose w node := Multiplicative.ofAdd (w node)
  ofPose pose := Multiplicative.ofAdd (offset pose)
  getObject_eq h := congrArg Node.object (Except.ok.inj h).symm
  getTransformNode_eq h := (Except.ok.inj h).symm
  pose_updated h := by
    obtain ⟨hne, rfl⟩ := lineWorld_update h
    rw [Function.update_self, Function.update_of_ne hne, ofAdd_add]
  pose_carried _ x hx := by
    obtain rfl := of_decide_eq_true hx
    rw [inv_mul_cancel, inv_mul_cancel]
  pose_kept h x hx := by
    obtain ⟨-, rfl⟩ := lineWorld_update h
    rw [Function.update_of_ne (Ne.symm (of_decide_eq_false hx))]

/-- The line without the frame for the pregrasp pose. -/
def noPregraspFrame : ObjectWorld (Node → ℚ) Name Node :=
  { lineWorld with
    getTransformNode := fun which w ref =>
      if which = .pregrasp then .error ⟨.notFound, "no such frame".toList⟩ else lineWorld.getTransformNode which w ref }

/-- A request for the box, which the planning scene has as `box/whole`. -/
def boxParams : GraspPlanningParams := sizedParams (.id "box".toList)

def boxAction (_ : Goal) (_ : Double) : ActionExchange := (run ["box/whole".toList] boxParams).exchange

/-- All nodes in one place, but for one. -/
def onlyAway (away : Node) : Node → ℚ := fun node => if node = away then 1 else 0

theorem linePoses_framesRequested : linePoses.FramesRequested boxParams :=
  fun _ _ => ⟨fun _ => rfl, fun _ => rfl⟩

end Sample

/-- The grasp frame has gone to the box when the pregrasp frame is found to be missing. -/
theorem moved_by_failure :
    let w := Sample.onlyAway (.object "box".toList)
    let answer := execute .exact 0 Sample.boxAction Sample.noPregraspFrame (.ok Sample.boxParams) w
    answer.1 = .error ⟨.notFound,
        "Output pregrasp frame could not be resolved in World Service: no such frame".toList⟩ ∧
      answer.2 (.frame "grasp".toList) ≠ w (.frame "grasp".toList) := by
  decide +kernel

theorem world_of_failure_box :
    let w := Sample.onlyAway (.object "box".toList)
    let w' := (execute .exact 0 Sample.boxAction Sample.noPregraspFrame (.ok Sample.boxParams) w).2
    (∀ w₁, PartialWrite .exact Sample.boxAction Sample.noPregraspFrame (.ok Sample.boxParams) w w₁ → w' = w₁) ∧
      ((¬∃ w₁, PartialWrite .exact Sample.boxAction Sample.noPregraspFrame (.ok Sample.boxParams) w w₁) → w' = w) :=
  world_of_failure (show (execute .exact 0 Sample.boxAction Sample.noPregraspFrame (.ok Sample.boxParams)
    (Sample.onlyAway (.object "box".toList))).1 = .error ⟨.notFound,
      "Output pregrasp frame could not be resolved in World Service: no such frame".toList⟩ by decide +kernel)

/-- The entity that was planned for is away from the root of its object. -/
theorem grasp_frame_misplaced :
    let w := Sample.onlyAway (.entity "box/whole".toList)
    (Sample.run ["box/whole".toList] Sample.boxParams).terminal = .succeed ∧
      Sample.linePoses.FramesRequested Sample.boxParams ∧
      ∃ response w' results,
        execute .exact 0 Sample.boxAction Sample.lineWorld (.ok Sample.boxParams) w = (.ok response, w') ∧
        planningResults .exact Sample.boxAction Sample.boxParams = .ok results ∧
        ¬Sample.linePoses.OutputFramesPlaced Sample.boxParams results.selected w' := by
  intro w
  obtain ⟨response, hexecute, -⟩ : ∃ response,
      (execute .exact 0 Sample.boxAction Sample.lineWorld (.ok Sample.boxParams) w).1 = .ok response ∧ true = true :=
    Sample.exists_ok (by decide +kernel)
  obtain ⟨results, hresults, hgrasp⟩ : ∃ results,
      planningResults .exact Sample.boxAction Sample.boxParams = .ok results ∧
        decide (results.selected.grasp.graspPose = ⟨"box/whole".toList, Pose.identity⟩) = true :=
    Sample.exists_ok (by decide +kernel)
  refine ⟨by decide +kernel, Sample.linePoses_framesRequested, response, _, results, Prod.ext hexecute rfl, hresults, ?_⟩
  intro hplaced
  have hpose := hplaced.grasp (.id "grasp".toList) rfl
  rw [of_decide_eq_true hgrasp] at hpose
  exact absurd hpose (by decide +kernel)

theorem output_frames_placed_iff_box :
    let w := Sample.onlyAway (.entity "box/whole".toList)
    ∃ response w', execute .exact 0 Sample.boxAction Sample.lineWorld (.ok Sample.boxParams) w = (.ok response, w') ∧
      ∃ results, planningResults .exact Sample.boxAction Sample.boxParams = .ok results ∧
        (Sample.linePoses.OutputFramesPlaced Sample.boxParams results.selected w' ↔
          Sample.linePoses.EntitiesAtRoot Sample.boxParams results.selected w) := by
  intro w
  obtain ⟨response, hexecute, -⟩ : ∃ response,
      (execute .exact 0 Sample.boxAction Sample.lineWorld (.ok Sample.boxParams) w).1 = .ok response ∧ true = true :=
    Sample.exists_ok (by decide +kernel)
  exact ⟨response, _, Prod.ext hexecute rfl,
    Sample.linePoses.output_frames_placed_iff Sample.linePoses_framesRequested (Prod.ext hexecute rfl)⟩

end MoveitPlanning.Grasping
