import MoveitPlanning.Foundation.AgreedWrite
import MoveitPlanning.Scene.MovePoses
import MoveitPlanning.Scene.Threads

/-! Calls that go through the same items, each in its own order and with some of its
sections left. With one item for an id every call has the same bytes for it, so whether
a mesh gets as far as its pose does not depend on who looks it up; what a call still
writes to a part of the state is then known from the beginning. -/

namespace MoveitPlanning.Scene

open Foundation

variable {R : Type*}

/-! ### One section -/

/-- The item that the section belongs to. -/
def FetchSection.source : FetchSection R → FetchItem R
  | .item x => x
  | .emplace x _ => x
  | .record x => x

/-- The branches of a section: the state it leaves, and the sections of its item. -/
inductive SectionRun (σ : Data R) : FetchSection R → Data R → List (FetchSection R) → Prop
  | found {x ref gltf} (hx : x.shape = .mesh ref gltf) (hid : x.id ∈ σ.renderablesCollision) :
    SectionRun σ (.item x) σ [.record x]
  | failed {x ref e} (hx : x.shape = .mesh ref (.error e)) (hid : x.id ∉ σ.renderablesCollision) :
    SectionRun σ (.item x) σ []
  | retrieved {x ref data} (hx : x.shape = .mesh ref (.ok data)) (hid : x.id ∉ σ.renderablesCollision) :
    SectionRun σ (.item x) σ [.emplace x data]
  | primitive {x solid} (hx : x.shape = .primitive solid) :
    SectionRun σ (.item x) (σ.recordPrimitive x.frame x.id x.pose solid) []
  | emplace {x gltf} : SectionRun σ (.emplace x gltf) (σ.emplace x.id gltf) [.record x]
  | record {x} : SectionRun σ (.record x) (σ.record x.frame x.id x.pose) []

theorem sectionRun (σ : Data R) (sec : FetchSection R) : SectionRun σ sec (sec.run σ).1 (sec.run σ).2 := by
  cases sec with
  | item x =>
    rcases hx : x.shape with ⟨ref, gltf⟩ | solid
    · by_cases hid : x.id ∈ σ.renderablesCollision
      · simp only [FetchSection.run, hx, hid, if_true]
        exact .found hx hid
      · cases gltf with
        | error e =>
          simp only [FetchSection.run, hx, hid, if_false]
          exact .failed hx hid
        | ok data =>
          simp only [FetchSection.run, hx, hid, if_false]
          exact .retrieved hx hid
    · simp only [FetchSection.run, hx]
      exact .primitive hx
  | emplace x gltf => exact .emplace
  | record x => exact .record

/-- What a section knows of its item: the bytes to emplace are the answer it had, and a
mesh that is recorded was there or has been fetched. -/
def FetchSection.Follows (σ₀ : Data R) : FetchSection R → Prop
  | .item _ => True
  | .emplace x gltf => ∃ ref, x.shape = .mesh ref (.ok gltf)
  | .record x => x.shape.isMesh ∧ x.Records σ₀

theorem FetchItem.records_iff (σ : Data R) (x : FetchItem R) :
    x.Records σ ↔ (x.shape.isMesh → x.id ∈ σ.renderablesCollision ∨ (x.suppliedGltf x.id).isSome) := by
  rcases x with ⟨frame, id, pose, ⟨ref, gltf⟩ | solid⟩
  · exact ⟨fun h _ => h, fun h => h trivial⟩
  · exact ⟨fun _ h => h.elim, fun _ => trivial⟩

instance : DecidablePred (ItemShape.isMesh (R := R))
  | .mesh _ _ => .isTrue trivial
  | .primitive _ => .isFalse not_false

instance (σ : Data R) (x : FetchItem R) : Decidable (x.Records σ) := decidable_of_iff' _ (x.records_iff σ)

theorem FetchItem.records_of_primitive (σ : Data R) {x : FetchItem R} {solid : SolidPrimitive R}
    (hx : x.shape = .primitive solid) : x.Records σ := by
  rw [FetchItem.Records, hx]
  trivial

theorem FetchItem.records_of_retrieved (σ : Data R) {x : FetchItem R} {ref : GeoRef} {data : Bytes}
    (hx : x.shape = .mesh ref (.ok data)) : x.Records σ := by
  rw [FetchItem.Records, hx]
  exact .inr (by simp [FetchItem.suppliedGltf, hx])

theorem FetchItem.records_of_mem {σ : Data R} {x : FetchItem R} (h : x.id ∈ σ.renderablesCollision) :
    x.Records σ := by
  rcases hx : x.shape with ⟨ref, gltf⟩ | solid
  · rw [FetchItem.Records, hx]
    exact .inl h
  · exact records_of_primitive σ hx

theorem FetchItem.not_records_of_failed {σ : Data R} {x : FetchItem R} {ref : GeoRef} {e : Failure}
    (hx : x.shape = .mesh ref (.error e)) (hid : x.id ∉ σ.renderablesCollision) : ¬x.Records σ := by
  rw [FetchItem.Records, hx]
  simp [FetchItem.suppliedGltf, hx, hid]

/-! ### What is read and written -/

/-- `read` is a part of the state that an item writes when its last section has run, if
it writes it at all. Which items do so is known from the state at the beginning, and
items under two ids write the same. -/
structure WrittenAtEnd {V : Type*} (σ₀ : Data R) (read : Data R → Option V) (written : FetchItem R → Option V) :
    Prop where
  agree : ∀ {x y v w}, written x = some v → written y = some w → x.id = y.id ∨ v = w
  same : ∀ {σ τ}, SameShapes σ τ → read τ = read σ
  run : ∀ {σ sec σ' secs}, SectionRun σ sec σ' secs → sec.Follows σ₀ →
    (sec.source.Records σ ↔ sec.source.Records σ₀) →
    read σ' = if secs = [] then (written sec.source).or (read σ) else read σ

/-- The writes of the items that get as far as recording their id. -/
def recorded {V : Type*} (σ₀ : Data R) (w : FetchItem R → Option V) (x : FetchItem R) : Option V :=
  if x.Records σ₀ then w x else none

theorem recorded_eq_some {V : Type*} {σ₀ : Data R} {w : FetchItem R → Option V} {x : FetchItem R} {v : V}
    (h : recorded σ₀ w x = some v) : w x = some v := by
  rw [recorded] at h
  split_ifs at h
  exact h

theorem writtenAtEnd_record {V : Type*} (σ₀ : Data R) {read : Data R → Option V} {w : FetchItem R → Option V}
    (hagree : ∀ {x y : FetchItem R} {v v' : V}, w x = some v → w y = some v' → x.id = y.id ∨ v = v')
    (hsame : ∀ {σ τ : Data R}, τ.collisionTfFrameToMeshIds = σ.collisionTfFrameToMeshIds →
      τ.relativeMeshPose = σ.relativeMeshPose → read τ = read σ)
    (hrecord : ∀ (σ : Data R) (x : FetchItem R), read (σ.record x.frame x.id x.pose) = (w x).or (read σ)) :
    WrittenAtEnd σ₀ read (recorded σ₀ w) where
  agree hx hy := hagree (recorded_eq_some hx) (recorded_eq_some hy)
  same h := hsame h.frames h.poses
  run hrun hfollows hrecords := by
    cases hrun with
    | found hx hid => exact (if_neg (List.cons_ne_nil _ _)).symm
    | failed hx hid =>
      rw [if_pos rfl, recorded, if_neg fun h => FetchItem.not_records_of_failed hx hid (hrecords.mpr h),
        Option.none_or]
    | retrieved hx hid => exact (if_neg (List.cons_ne_nil _ _)).symm
    | @primitive x solid hx =>
      have hrecords₀ : (FetchSection.item x).source.Records σ₀ := FetchItem.records_of_primitive σ₀ hx
      rw [if_pos rfl, recorded, if_pos hrecords₀, Data.recordPrimitive, hrecord]
      exact congrArg _ (hsame rfl rfl)
    | emplace =>
      rw [if_neg (List.cons_ne_nil _ _)]
      exact hsame (by simp) (by simp)
    | @record x =>
      have hrecords₀ : (FetchSection.record x).source.Records σ₀ := hfollows.2
      rw [if_pos rfl, recorded, if_pos hrecords₀, hrecord]
      rfl

theorem writtenAtEnd_pose (σ₀ : Data R) (m : Name) :
    WrittenAtEnd σ₀ (fun σ => σ.relativeMeshPose.lookup m) (recorded σ₀ (FetchItem.suppliedPose m)) := by
  have hid {x : FetchItem R} {v : Pose R} (h : FetchItem.suppliedPose m x = some v) : x.id = m := by
    rw [FetchItem.suppliedPose] at h
    split_ifs at h with hid
    exact hid
  refine writtenAtEnd_record σ₀ (fun hx hy => .inl ((hid hx).trans (hid hy).symm)) (fun _ hposes => by rw [hposes])
    fun σ x => ?_
  rw [Data.record_pose, FetchItem.suppliedPose]
  by_cases hm : m = x.id
  · simp [hm]
  · simp [hm, Ne.symm hm]

theorem writtenAtEnd_tracked (σ₀ : Data R) (f : Name) :
    WrittenAtEnd σ₀ (fun σ => (σ.collisionTfFrameToMeshIds.lookup f).map fun _ => ())
      (recorded σ₀ fun x => if x.frame = f then some () else none) := by
  refine writtenAtEnd_record σ₀ (fun _ _ => .inr rfl) (fun hframes _ => by rw [hframes]) fun σ x => ?_
  rw [Data.record, HashMap.lookup_insert_eq]
  by_cases hf : f = x.frame
  · simp [hf]
  · simp [hf, Ne.symm hf]

theorem writtenAtEnd_meshIds (σ₀ : Data R) (f m : Name) :
    WrittenAtEnd σ₀ (fun σ => if m ∈ σ.meshIds f then some () else none)
      (recorded σ₀ fun x => if x.frame = f ∧ x.id = m then some () else none) := by
  have hsame : ∀ {σ τ : Data R}, τ.collisionTfFrameToMeshIds = σ.collisionTfFrameToMeshIds →
      τ.meshIds f = σ.meshIds f := fun hframes => by rw [Data.meshIds, hframes, Data.meshIds]
  refine writtenAtEnd_record σ₀ (fun _ _ => .inr rfl) (fun hframes _ => by rw [hsame hframes]) fun σ x => ?_
  simp only [Data.record_meshIds]
  by_cases hf : f = x.frame
  · by_cases hm : m = x.id
    · simp [hf, hm]
    · simp [hf, hm, Ne.symm hm]
  · simp [hf, Ne.symm hf]

theorem FetchItem.id_of_suppliedSolid {m : Name} {x : FetchItem R} {solid : SolidPrimitive R}
    (h : x.suppliedSolid m = some solid) : x.id = m := by
  rcases x with ⟨frame, id, pose, ⟨ref, gltf⟩ | _⟩
  · cases h
  · simp only [suppliedSolid] at h
    split_ifs at h with hid
    exact hid

theorem writtenAtEnd_solid (σ₀ : Data R) (m : Name) :
    WrittenAtEnd σ₀ (fun σ => σ.primitivesCollision.lookup m) (FetchItem.suppliedSolid m) where
  agree hx hy := .inl ((FetchItem.id_of_suppliedSolid hx).trans (FetchItem.id_of_suppliedSolid hy).symm)
  same h := by rw [h.primitives]
  run hrun hfollows hrecords := by
    cases hrun with
    | found hx hid => exact (if_neg (List.cons_ne_nil _ _)).symm
    | failed hx hid => simp [FetchSection.source, FetchItem.suppliedSolid, hx]
    | retrieved hx hid => exact (if_neg (List.cons_ne_nil _ _)).symm
    | @primitive x solid hx =>
      simp only [if_true, FetchSection.source, FetchItem.suppliedSolid, hx, Data.recordPrimitive_primitives]
      by_cases hm : m = x.id
      · simp [hm]
      · simp [hm, Ne.symm hm]
    | emplace => simp
    | @record x =>
      rcases hx : x.shape with ⟨ref, gltf⟩ | solid
      · simp [FetchSection.source, FetchItem.suppliedSolid, hx]
      · have hmesh := hfollows.1
        rw [hx] at hmesh
        exact hmesh.elim

/-! ### Calls side by side -/

/-- The bytes that a section has still to bring. -/
def FetchSection.Supplies (m : Name) : FetchSection R → Prop
  | .item x => (x.suppliedGltf m).isSome
  | .emplace x _ => (x.suppliedGltf m).isSome
  | .record _ => False

/-- The bytes under the id are those that will be held, or they are those from before and
some call has still to bring others. -/
def BytesComing (σ₀ : Data R) (xs : List (FetchItem R)) (σ : Data R) (todos : List (List (FetchSection R)))
    (m : Name) : Prop :=
  σ.renderablesCollision.lookup m = heldGltf σ₀ xs m ∨
    (σ.renderablesCollision.lookup m = σ₀.renderablesCollision.lookup m ∧
      ∃ todo ∈ todos, ∃ sec ∈ todo, sec.Supplies m)

/-- Each call has sections of the items left, and the bytes that are not there yet are
coming. -/
structure Fetching (σ₀ : Data R) (xs : List (FetchItem R)) (σ : Data R) (todos : List (List (FetchSection R))) :
    Prop where
  source : ∀ todo ∈ todos, ∀ sec ∈ todo, sec.source ∈ xs
  follows : ∀ todo ∈ todos, ∀ sec ∈ todo, sec.Follows σ₀
  bytes : ∀ m, BytesComing σ₀ xs σ todos m

theorem FetchItem.id_of_suppliedGltf {x : FetchItem R} {m : Name} {b : Bytes} (h : x.suppliedGltf m = some b) :
    x.id = m := by
  rcases x with ⟨frame, id, pose, ⟨ref, _ | data⟩ | solid⟩
  · cases h
  · simp only [suppliedGltf] at h
    split_ifs at h with hid
    exact hid
  · cases h

/-- Where the items that write something write the same, it is found at any of them. -/
theorem findSome?_of_agree {α V : Type*} {xs : List α} {f : α → Option V} {x : α} {v : V} (hx : x ∈ xs)
    (h : f x = some v) (hagree : ∀ y ∈ xs, ∀ w, f y = some w → w = v) : xs.findSome? f = some v := by
  cases hfound : xs.findSome? f with
  | none =>
    rw [List.findSome?_eq_none_iff.mp hfound x hx] at h
    cases h
  | some w =>
    obtain ⟨y, hy, hw⟩ := List.exists_of_findSome?_eq_some hfound
    rw [hagree y hy w hw]

theorem suppliedGltf_found {xs : List (FetchItem R)} (hids : (xs.map fun x => x.id).Nodup) {x : FetchItem R}
    (hx : x ∈ xs) {m : Name} {b : Bytes} (h : x.suppliedGltf m = some b) :
    (xs.findSome? fun x => x.suppliedGltf m) = some b := by
  refine findSome?_of_agree hx h fun y hy w hw => ?_
  have hid : y.id = x.id := (FetchItem.id_of_suppliedGltf hw).trans (FetchItem.id_of_suppliedGltf h).symm
  obtain rfl := List.inj_on_of_nodup_map hids hy hx hid
  exact Option.some.inj (hw.symm.trans h)

/-- A list that is replaced in another one is the only one that is lost. -/
theorem mem_set_of_mem {α : Type*} {l : List α} {i : ℕ} {a b c : α} (hi : l[i]? = some b) (ha : a ∈ l) :
    a = b ∨ a ∈ l.set i c := by
  obtain ⟨j, hj⟩ := List.mem_iff_getElem?.mp ha
  by_cases hij : i = j
  · subst hij
    exact .inl (Option.some.inj (hj.symm.trans hi))
  · refine .inr (List.mem_iff_getElem?.mpr ⟨j, ?_⟩)
    rw [List.getElem?_set_ne hij, hj]

section Fetching
variable {σ₀ σ : Data R} {xs : List (FetchItem R)} {todos : List (List (FetchSection R))} {i : ℕ}
  {sec : FetchSection R} {todo : List (FetchSection R)}

theorem Fetching.held_of_lookup (h : Fetching σ₀ xs σ todos) {m : Name} {b : Bytes}
    (hb : σ.renderablesCollision.lookup m = some b) : heldGltf σ₀ xs m = some b := by
  rcases h.bytes m with hheld | ⟨hsame, -⟩
  · rw [← hheld, hb]
  · rw [heldGltf, ← hsame, hb, Option.some_or]

/-- Bytes that are not there will be those of any item that has some. -/
theorem Fetching.held_of_none (h : Fetching σ₀ xs σ todos) (hids : (xs.map fun x => x.id).Nodup) {m : Name}
    {b : Bytes} {x : FetchItem R} (hx : x ∈ xs) (hb : x.suppliedGltf m = some b)
    (hnone : σ.renderablesCollision.lookup m = none) : heldGltf σ₀ xs m = some b := by
  have hfound := suppliedGltf_found hids hx hb
  rcases h.bytes m with hheld | ⟨hsame, -⟩
  · rw [hnone, heldGltf, hfound] at hheld
    cases hfirst : σ₀.renderablesCollision.lookup m with
    | none => rw [heldGltf, hfirst, hfound, Option.none_or]
    | some b' =>
      rw [hfirst] at hheld
      cases hheld
  · rw [heldGltf, ← hsame, hnone, Option.none_or, hfound]

theorem Fetching.records_iff (h : Fetching σ₀ xs σ todos) (hids : (xs.map fun x => x.id).Nodup)
    {x : FetchItem R} (hx : x ∈ xs) : x.Records σ ↔ x.Records σ₀ := by
  rcases hshape : x.shape with ⟨ref, _ | data⟩ | solid
  · have hnone : ∀ m, x.suppliedGltf m = none := fun m => by rw [FetchItem.suppliedGltf, hshape]
    have hfound : (xs.findSome? fun y => y.suppliedGltf x.id) = none := by
      refine List.findSome?_eq_none_iff.mpr fun y hy => ?_
      cases hb : y.suppliedGltf x.id with
      | none => rfl
      | some b =>
        obtain rfl := List.inj_on_of_nodup_map hids hy hx (FetchItem.id_of_suppliedGltf hb)
        rw [hnone] at hb
        cases hb
    have hsame : σ.renderablesCollision.lookup x.id = σ₀.renderablesCollision.lookup x.id := by
      rcases h.bytes x.id with hheld | ⟨hsame, -⟩
      · rw [hheld, heldGltf, hfound, Option.or_none]
      · exact hsame
    rw [FetchItem.Records, FetchItem.Records, hshape]
    simp only [hnone, ← Finmap.lookup_isSome, hsame]
  · exact iff_of_true (FetchItem.records_of_retrieved σ hshape) (FetchItem.records_of_retrieved σ₀ hshape)
  · exact iff_of_true (FetchItem.records_of_primitive σ hshape) (FetchItem.records_of_primitive σ₀ hshape)

theorem Fetching.source_mem (h : Fetching σ₀ xs σ todos) (hi : todos[i]? = some (sec :: todo)) :
    sec.source ∈ xs :=
  h.source _ (List.mem_of_getElem? hi) sec List.mem_cons_self

/-- What is still to be brought stays so, but for the section that has run. -/
theorem supplies_set {secs : List (FetchSection R)} {m : Name} (hi : todos[i]? = some (sec :: todo))
    (hsecs : sec.Supplies m → ∃ s ∈ secs ++ todo, s.Supplies m)
    (h : ∃ todo ∈ todos, ∃ sec ∈ todo, sec.Supplies m) :
    ∃ rest ∈ todos.set i (secs ++ todo), ∃ sec ∈ rest, sec.Supplies m := by
  have hnew : secs ++ todo ∈ todos.set i (secs ++ todo) :=
    List.mem_set (List.getElem?_eq_some_iff.mp hi).1 _
  obtain ⟨rest, hrest, s, hs, hsupplies⟩ := h
  rcases mem_set_of_mem hi hrest with rfl | hrest
  · rcases List.mem_cons.mp hs with rfl | hs
    · obtain ⟨s', hs', hsupplies'⟩ := hsecs hsupplies
      exact ⟨_, hnew, s', hs', hsupplies'⟩
    · exact ⟨_, hnew, s, List.mem_append_right _ hs, hsupplies⟩
  · exact ⟨rest, hrest, s, hs, hsupplies⟩

/-- The sections that a section leaves belong to its item, and know what they have to. -/
theorem SectionRun.secs {σ' : Data R} {secs : List (FetchSection R)} (hrun : SectionRun σ sec σ' secs)
    (hfollows : sec.Follows σ₀) (hrecords : sec.source.Records σ ↔ sec.source.Records σ₀) :
    (secs = [] ∨ secs.map FetchSection.source = [sec.source]) ∧ ∀ s ∈ secs, s.Follows σ₀ := by
  cases hrun with
  | found hx hid =>
    refine ⟨.inr rfl, List.forall_mem_singleton.mpr ⟨?_, hrecords.mp (FetchItem.records_of_mem hid)⟩⟩
    rw [hx]
    trivial
  | failed => exact ⟨.inl rfl, by simp⟩
  | retrieved hx hid => exact ⟨.inr rfl, List.forall_mem_singleton.mpr ⟨_, hx⟩⟩
  | primitive => exact ⟨.inl rfl, by simp⟩
  | emplace =>
    obtain ⟨ref, hx⟩ := hfollows
    refine ⟨.inr rfl, List.forall_mem_singleton.mpr ⟨?_, FetchItem.records_of_retrieved σ₀ hx⟩⟩
    rw [hx]
    trivial
  | record => exact ⟨.inl rfl, by simp⟩

theorem source_of_secs {secs : List (FetchSection R)}
    (h : secs = [] ∨ secs.map FetchSection.source = [sec.source]) {s : FetchSection R} (hs : s ∈ secs) :
    s.source = sec.source := by
  rcases h with rfl | h
  · cases hs
  · have hmem : s.source ∈ secs.map FetchSection.source := List.mem_map_of_mem hs
    rw [h] at hmem
    exact List.mem_singleton.mp hmem

/-- After a section, the bytes it had to bring are held or still to be brought. -/
theorem Fetching.bytes_run (h : Fetching σ₀ xs σ todos) (hids : (xs.map fun x => x.id).Nodup)
    (hi : todos[i]? = some (sec :: todo)) {σ' : Data R} {secs : List (FetchSection R)}
    (hrun : SectionRun σ sec σ' secs) (m : Name) :
    BytesComing σ₀ xs σ' (todos.set i (secs ++ todo)) m := by
  have hx := h.source_mem hi
  have hfollows := h.follows _ (List.mem_of_getElem? hi) sec (by simp)
  -- where the bytes of the id are as they were
  have hkept (hsame : σ'.renderablesCollision.lookup m = σ.renderablesCollision.lookup m)
      (hsecs : sec.Supplies m → ∃ s ∈ secs ++ todo, s.Supplies m) :
      BytesComing σ₀ xs σ' (todos.set i (secs ++ todo)) m :=
    (h.bytes m).imp hsame.trans fun ⟨hlookup, hpending⟩ => ⟨hsame.trans hlookup, supplies_set hi hsecs hpending⟩
  cases hrun with
  | @found x ref gltf hshape hid =>
    by_cases hm : (x.suppliedGltf m).isSome
    · -- someone was faster
      obtain ⟨b, hb⟩ := Option.isSome_iff_exists.mp hm
      obtain rfl := FetchItem.id_of_suppliedGltf hb
      obtain ⟨b', hb'⟩ := Finmap.mem_iff.mp hid
      exact .inl (hb'.trans (h.held_of_lookup hb').symm)
    · exact hkept rfl fun hs => absurd hs hm
  | @failed x ref e hshape hid =>
    refine hkept rfl fun hs => ?_
    rw [FetchSection.Supplies, FetchItem.suppliedGltf, hshape] at hs
    cases hs
  | @retrieved x ref data hshape hid => exact hkept rfl fun hs => ⟨.emplace x data, by simp, hs⟩
  | @primitive x solid hshape =>
    refine hkept rfl fun hs => ?_
    rw [FetchSection.Supplies, FetchItem.suppliedGltf, hshape] at hs
    cases hs
  | @emplace x gltf =>
    obtain ⟨ref, hshape⟩ := hfollows
    have hsupplied : x.suppliedGltf m = if x.id = m then some gltf else none := by
      rw [FetchItem.suppliedGltf, hshape]
    by_cases hm : x.id = m
    · rw [if_pos hm] at hsupplied
      rw [BytesComing, Data.emplace_renderables, if_pos hm.symm]
      cases hlookup : σ.renderablesCollision.lookup m with
      | some b => exact .inl (h.held_of_lookup hlookup).symm
      | none => exact .inl (h.held_of_none hids hx hsupplied hlookup).symm
    · refine hkept ?_ fun hs => ?_
      · rw [Data.emplace_renderables, if_neg (Ne.symm hm), Option.or_none]
      · rw [FetchSection.Supplies, hsupplied, if_neg hm] at hs
        cases hs
  | record => exact hkept rfl False.elim

theorem Fetching.run (h : Fetching σ₀ xs σ todos) (hids : (xs.map fun x => x.id).Nodup)
    (hi : todos[i]? = some (sec :: todo)) :
    Fetching σ₀ xs (sec.run σ).1 (todos.set i ((sec.run σ).2 ++ todo)) := by
  have hmem := List.mem_of_getElem? hi
  obtain ⟨hsources, hsecs⟩ := (sectionRun σ sec).secs (h.follows _ hmem sec (by simp))
    (h.records_iff hids (h.source_mem hi))
  refine ⟨fun rest hrest s hs => ?_, fun rest hrest s hs => ?_, h.bytes_run hids hi (sectionRun σ sec)⟩
  · rcases List.mem_or_eq_of_mem_set hrest with hrest | rfl
    · exact h.source rest hrest s hs
    · rcases List.mem_append.mp hs with hs | hs
      · rw [source_of_secs hsources hs]
        exact h.source_mem hi
      · exact h.source _ hmem s (List.mem_cons_of_mem _ hs)
  · rcases List.mem_or_eq_of_mem_set hrest with hrest | rfl
    · exact h.follows rest hrest s hs
    · rcases List.mem_append.mp hs with hs | hs
      · exact hsecs s hs
      · exact h.follows _ hmem s (List.mem_cons_of_mem _ hs)

theorem Fetching.of_same (h : Fetching σ₀ xs σ todos) {τ : Data R} (hsame : SameShapes σ τ) :
    Fetching σ₀ xs τ todos :=
  ⟨h.source, h.follows, fun m => by rw [BytesComing, hsame.renderables]; exact h.bytes m⟩

theorem Fetching.append (h : Fetching σ₀ xs σ todos) : Fetching σ₀ xs σ (todos ++ [[]]) where
  source rest hrest sec hsec := by
    rcases List.mem_append.mp hrest with hrest | hrest
    · exact h.source rest hrest sec hsec
    · rw [List.mem_singleton.mp hrest] at hsec
      cases hsec
  follows rest hrest sec hsec := by
    rcases List.mem_append.mp hrest with hrest | hrest
    · exact h.follows rest hrest sec hsec
    · rw [List.mem_singleton.mp hrest] at hsec
      cases hsec
  bytes m := (h.bytes m).imp_right fun ⟨hlookup, rest, hrest, hpending⟩ =>
    ⟨hlookup, rest, List.mem_append_left _ hrest, hpending⟩

theorem Fetching.start (h : Fetching σ₀ xs σ todos) (hi : todos[i]? = some []) {ys : List (FetchItem R)}
    (hys : ys.Perm xs) : Fetching σ₀ xs σ (todos.set i (ys.map .item)) where
  source rest hrest sec hsec := by
    rcases List.mem_or_eq_of_mem_set hrest with hrest | rfl
    · exact h.source rest hrest sec hsec
    · obtain ⟨y, hy, rfl⟩ := List.mem_map.mp hsec
      exact hys.subset hy
  follows rest hrest sec hsec := by
    rcases List.mem_or_eq_of_mem_set hrest with hrest | rfl
    · exact h.follows rest hrest sec hsec
    · obtain ⟨y, -, rfl⟩ := List.mem_map.mp hsec
      trivial
  bytes m := (h.bytes m).imp_right fun ⟨hlookup, rest, hrest, sec, hsec, hsupplies⟩ => by
    refine ⟨hlookup, rest, (mem_set_of_mem hi hrest).resolve_left ?_, sec, hsec, hsupplies⟩
    rintro rfl
    cases hsec

theorem fetching_start (hquiet : ∀ todo ∈ todos, todo = []) (hi : todos[i]? = some []) {ys : List (FetchItem R)}
    (hys : ys.Perm xs) (hsame : SameShapes σ₀ σ) : Fetching σ₀ xs σ (todos.set i (ys.map .item)) where
  source rest hrest sec hsec := by
    rcases List.mem_or_eq_of_mem_set hrest with hrest | rfl
    · rw [hquiet rest hrest] at hsec
      cases hsec
    · obtain ⟨y, hy, rfl⟩ := List.mem_map.mp hsec
      exact hys.subset hy
  follows rest hrest sec hsec := by
    rcases List.mem_or_eq_of_mem_set hrest with hrest | rfl
    · rw [hquiet rest hrest] at hsec
      cases hsec
    · obtain ⟨y, -, rfl⟩ := List.mem_map.mp hsec
      trivial
  bytes m := by
    rw [BytesComing, hsame.renderables, heldGltf]
    cases hfound : xs.findSome? fun x => x.suppliedGltf m with
    | none => exact .inl (Option.or_none ..).symm
    | some b =>
      obtain ⟨x, hx, hb⟩ := List.exists_of_findSome?_eq_some hfound
      refine .inr ⟨rfl, ys.map .item, List.mem_set (List.getElem?_eq_some_iff.mp hi).1 _, .item x,
        List.mem_map_of_mem (hys.symm.subset hx), ?_⟩
      rw [FetchSection.Supplies, hb]
      rfl

end Fetching

/-! ### Agreed writes -/

section AgreedWrite
variable {V : Type*} {σ₀ σ : Data R} {xs : List (FetchItem R)} {todos : List (List (FetchSection R))} {i : ℕ}
  {sec : FetchSection R} {todo : List (FetchSection R)} {read : Data R → Option V}
  {written : FetchItem R → Option V}

/-- What a call has still to write. -/
def writesLeft (written : FetchItem R → Option V) (todo : List (FetchSection R)) : List V :=
  (todo.map FetchSection.source).filterMap written

theorem set_map_of_eq {α β : Type*} {f : α → β} {l : List α} {a b : α} (hi : l[i]? = some a) (h : f b = f a) :
    (l.set i b).map f = l.map f := by
  obtain ⟨hlt, rfl⟩ := List.getElem?_eq_some_iff.mp hi
  rw [List.map_set, h, ← List.map_set, List.set_getElem_self]

theorem WrittenAtEnd.found (hwritten : WrittenAtEnd σ₀ read written) (hids : (xs.map fun x => x.id).Nodup)
    {x : FetchItem R} (hx : x ∈ xs) {v : V} (hv : written x = some v) : xs.findSome? written = some v := by
  refine findSome?_of_agree hx hv fun y hy w hw => ?_
  rcases hwritten.agree hw hv with hid | heq
  · obtain rfl := List.inj_on_of_nodup_map hids hy hx hid
    exact Option.some.inj (hw.symm.trans hv)
  · exact heq

theorem settles_run (hwritten : WrittenAtEnd σ₀ read written) (hids : (xs.map fun x => x.id).Nodup)
    (hf : Fetching σ₀ xs σ todos)
    (h : Settles (xs.findSome? written) (read σ₀) (todos.map (writesLeft written)) (read σ))
    (hi : todos[i]? = some (sec :: todo)) :
    Settles (xs.findSome? written) (read σ₀)
      ((todos.set i ((sec.run σ).2 ++ todo)).map (writesLeft written)) (read (sec.run σ).1) := by
  have hfollows := hf.follows _ (List.mem_of_getElem? hi) sec (by simp)
  have hrecords := hf.records_iff hids (hf.source_mem hi)
  have hread := hwritten.run (sectionRun σ sec) hfollows hrecords
  rcases ((sectionRun σ sec).secs hfollows hrecords).1 with hnil | hsource
  · rw [if_pos hnil] at hread
    rw [hread, hnil, List.nil_append]
    cases hw : written sec.source with
    | none =>
      rwa [set_map_of_eq hi (by simp [writesLeft, hw]), Option.none_or]
    | some v =>
      rw [List.map_set, Option.some_or]
      refine h.write ?_
      rw [List.getElem?_map, hi, Option.map_some, writesLeft, List.map_cons, List.filterMap_cons_some hw]
      rfl
  · have hne : (sec.run σ).2 ≠ [] := by
      intro hnil
      rw [hnil] at hsource
      cases hsource
    rw [if_neg hne] at hread
    rwa [hread, set_map_of_eq hi (by rw [writesLeft, writesLeft, List.map_append, hsource]; rfl)]

end AgreedWrite

end MoveitPlanning.Scene
