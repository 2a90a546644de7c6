import MoveitPlanning.Scene.Threads
import Mathlib.Data.List.TakeWhile

/-! The two ways to the name of a frame. The TF callback strips the whole child frame,
`object/entity`, and reads the object up to the first slash; a fetch strips the name of
the object, keeps its last component and appends the entity. They lead to one frame and
one object for names without a slash in which no prefix is stripped, and for no others. -/

namespace MoveitPlanning.Scene

open Foundation

variable {R : Type*}

/-- The child frame under which the World publishes an entity. -/
def childFrame (objectName entityName : Name) : Name := objectName ++ '/' :: entityName

/-- The callback arrives at the frame that a fetch tracks for the entity, and asks for
the object that has it. -/
structure NamesAgree (cfg : Config R) (objectName entityName : Name) : Prop where
  frame : cfg.rosFrame (childFrame objectName entityName) =
    cfg.tfFrameName (cfg.shortName objectName) entityName
  object : cfg.tfObjectName (childFrame objectName entityName) = objectName

/-! ### Stripping -/

/-- Some prefix of the list is stripped from the frame. -/
def Stripped (frame : Name) (prefixes : List Name) : Prop := ∃ p ∈ prefixes, p ≠ [] ∧ p <+: frame

theorem stripTfPrefixes_of_not_stripped {frame : Name} {prefixes : List Name}
    (h : ¬Stripped frame prefixes) : stripTfPrefixes frame prefixes = frame := by
  induction prefixes with
  | nil => rfl
  | cons p ps ih =>
    have hp : ¬(p ≠ [] ∧ p <+: frame) := fun hp => h ⟨p, by simp, hp⟩
    rw [stripTfPrefixes, if_neg hp]
    exact ih fun ⟨q, hq, hstrip⟩ => h ⟨q, by simp [hq], hstrip⟩

/-- A frame with a prefix of the list loses some characters at its front. -/
theorem stripTfPrefixes_of_stripped {frame : Name} {prefixes : List Name} (h : Stripped frame prefixes) :
    ∃ k, 0 < k ∧ k ≤ frame.length ∧ stripTfPrefixes frame prefixes = frame.drop k := by
  induction prefixes with
  | nil =>
    obtain ⟨p, hp, -⟩ := h
    cases hp
  | cons p ps ih =>
    by_cases hp : p ≠ [] ∧ p <+: frame
    · exact ⟨p.length, List.length_pos_iff.mpr hp.1, hp.2.length_le, by rw [stripTfPrefixes, if_pos hp]⟩
    · obtain ⟨q, hq, hstrip⟩ := h
      have hps : Stripped frame ps := by
        rcases List.mem_cons.mp hq with rfl | hq
        · exact absurd hstrip hp
        · exact ⟨q, hq, hstrip⟩
      obtain ⟨k, hpos, hle, hk⟩ := ih hps
      exact ⟨k, hpos, hle, by rw [stripTfPrefixes, if_neg hp, hk]⟩

/-- What is stripped from the object's name is stripped from its frames. -/
theorem Stripped.childFrame {objectName : Name} {prefixes : List Name} (h : Stripped objectName prefixes)
    (entityName : Name) : Stripped (childFrame objectName entityName) prefixes := by
  obtain ⟨p, hp, hne, hprefix⟩ := h
  exact ⟨p, hp, hne, hprefix.trans (List.prefix_append _ _)⟩

/-! ### The object's name -/

theorem takeWhile_childFrame {objectName : Name} (h : '/' ∉ objectName) (entityName : Name) :
    (childFrame objectName entityName).takeWhile (· ≠ '/') = objectName := by
  have hall : ∀ c ∈ objectName, decide (c ≠ '/') = true := fun c hc =>
    decide_eq_true fun he => h (he ▸ hc)
  rw [childFrame, List.takeWhile_append_of_pos hall]
  simp

theorem not_mem_takeWhile_slash (frame : Name) : '/' ∉ frame.takeWhile (· ≠ '/') := by
  intro h
  simpa using List.mem_takeWhile_imp h

theorem Config.shortName_of_not_stripped {cfg : Config R} {objectName : Name} (hslash : '/' ∉ objectName)
    (hstrip : ¬Stripped objectName cfg.stripTfPrefixes) : cfg.shortName objectName = objectName := by
  rw [Config.shortName, stripTfPrefixes_of_not_stripped hstrip, List.splitOn_eq_singleton hslash]
  rfl

/-- After the first characters of `object/entity` are gone, the frame does not begin
with the object and end with the entity. -/
theorem childFrame_drop_ne {objectName entityName shortName : Name} {k : ℕ} (hpos : 0 < k)
    (hslash : '/' ∉ objectName)
    (hobject : ((childFrame objectName entityName).drop k).takeWhile (· ≠ '/') = objectName) :
    (childFrame objectName entityName).drop k ≠ shortName ++ '/' :: entityName := by
  intro hframe
  by_cases hk : k ≤ objectName.length
  · -- the callback reads what is left of the object's name
    have hdrop : '/' ∉ objectName.drop k := fun h => hslash (List.mem_of_mem_drop h)
    rw [childFrame, List.drop_append_of_le_length hk] at hobject
    have hlength := congrArg List.length ((takeWhile_childFrame hdrop entityName).symm.trans hobject)
    rw [List.length_drop] at hlength
    omega
  · -- too little is left for a slash and the entity
    have hlength := congrArg List.length hframe
    simp only [childFrame, List.length_drop, List.length_append, List.length_cons] at hlength
    omega

/-- The two ways agree on an entity exactly when the object's name has no slash and no
prefix is stripped from the child frame. -/
theorem namesAgree_iff (cfg : Config R) (objectName entityName : Name) :
    NamesAgree cfg objectName entityName ↔
      '/' ∉ objectName ∧ ¬Stripped (childFrame objectName entityName) cfg.stripTfPrefixes := by
  constructor
  · rintro ⟨hframe, hobject⟩
    have hslash : '/' ∉ objectName := by
      rw [← hobject]
      exact not_mem_takeWhile_slash _
    refine ⟨hslash, fun hstripped => ?_⟩
    obtain ⟨k, hpos, -, hk⟩ := stripTfPrefixes_of_stripped hstripped
    rw [Config.tfObjectName, hk] at hobject
    rw [Config.rosFrame, hk, Config.tfFrameName, List.append_assoc] at hframe
    exact childFrame_drop_ne hpos hslash hobject (List.append_cancel_left hframe)
  · rintro ⟨hslash, hstripped⟩
    have hobject : ¬Stripped objectName cfg.stripTfPrefixes := fun h => hstripped (h.childFrame entityName)
    constructor
    · rw [Config.rosFrame, stripTfPrefixes_of_not_stripped hstripped, Config.tfFrameName,
        Config.shortName_of_not_stripped hslash hobject, List.append_assoc, childFrame]
    · rw [Config.tfObjectName, stripTfPrefixes_of_not_stripped hstripped, takeWhile_childFrame hslash]

/-- A nested name, and a name with a prefix that is stripped. -/
theorem names_differ :
    let strip : Config ℚ := { Config.default with stripTfPrefixes := ["cell/".toList] }
    ¬NamesAgree (Config.default : Config ℚ) "cell/box".toList "whole".toList ∧
      ¬NamesAgree strip "cell/box".toList "whole".toList :=
  ⟨fun h => absurd h.object (by decide), fun h => absurd h.object (by decide)⟩

/-! ### What follows for the callback -/

/-- Where the names agree, a transform of the entity moves the frame that is tracked,
keeps it from being removed, and asks for its object when it is new. -/
theorem NamesAgree.tfUpdate {cfg : Config R} {objectName entityName : Name}
    (h : NamesAgree cfg objectName entityName) (ord : IterOrder Name) (tfFrameNames : Finset Name)
    {msg : List (TransformStamped R)} {ts : TransformStamped R} (hts : ts ∈ msg)
    (hchild : ts.childFrameId = childFrame objectName entityName) :
    let frame := cfg.tfFrameName (cfg.shortName objectName) entityName
    let m := cfg.tfUpdate ord tfFrameNames msg
    (∃ moved ∈ m.transforms, moved.childFrameId = frame) ∧ frame ∈ m.newTfFrameNames ∧
      (frame ∉ tfFrameNames → objectName ∈ m.newObjectNames) := by
  have hframe : cfg.rosFrame ts.childFrameId = cfg.tfFrameName (cfg.shortName objectName) entityName := by
    rw [hchild, h.frame]
  have hobject : cfg.tfObjectName ts.childFrameId = objectName := by rw [hchild, h.object]
  refine ⟨⟨_, List.mem_map_of_mem hts, hframe⟩, ?_, fun hnew => ?_⟩
  · rw [Config.tfUpdate, List.mem_toFinset]
    exact List.mem_map.mpr ⟨ts, hts, hframe⟩
  · rw [Config.tfUpdate, IterOrder.mem_visit, List.mem_toFinset]
    have hmem : ts ∈ msg.filter fun ts => cfg.rosFrame ts.childFrameId ∉ tfFrameNames :=
      List.mem_filter.mpr ⟨hts, by rw [hframe]; exact decide_eq_true hnew⟩
    exact List.mem_map.mpr ⟨ts, hmem, hobject⟩

end MoveitPlanning.Scene
