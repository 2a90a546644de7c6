import MoveitPlanning.Scene.FetchSections
import MoveitPlanning.Scene.FetchPlan

/-! Fetches of one snapshot of the World, run at the same time. Each call has a copy of the
objects of its own and goes through their maps in an order of its own. Bytes go to the
first writer and all else to the last one, but with one item for an id every writer has
the same to write. So the calls end where one of them alone does, and a fetch that is
repeated, in whatever order, changes nothing. -/

namespace MoveitPlanning.Scene

open Foundation

variable {R : Type*}

/-! ### Steps and runs -/

/-- The sections a call has still to run. -/
def CallPhase.todo : CallPhase R → List (FetchSection R)
  | .fetching todo => todo
  | _ => []

def Sys.todos (s : Sys R) : List (List (FetchSection R)) := s.calls.map fun call => call.phase.todo

/-- No call is in the middle of a fetch. -/
def Sys.Quiet (s : Sys R) : Prop := ∀ todo ∈ s.todos, todo = []

/-- Calls that are answered with objects are answered with copies of these, what `GetGltf`
answers depends on the reference alone, and no frame is removed. -/
def Label.SameSnapshot (objects : List (WorldObject R)) (getGltf : GeoRef → Except Failure Bytes) :
    Label R → Prop
  | .getObjects _ response gltf =>
    ∀ answer, response = .ok answer → SameObjects objects answer ∧ gltf = fun _ => getGltf
  | .tfErase _ => False
  | _ => True

/-- What a step does to the shapes and to the calls. -/
inductive FetchStep (xs : List (FetchItem R)) (s s' : Sys R) : Prop
  | other (hdata : SameShapes s.data s'.data) (htodos : s'.todos = s.todos ∨ s'.todos = s.todos ++ [[]])
  | start {i} {ys : List (FetchItem R)} (hdata : SameShapes s.data s'.data) (hi : s.todos[i]? = some [])
    (hys : ys.Perm xs) (htodos : s'.todos = s.todos.set i (ys.map .item))
  | run {i sec todo} (hi : s.todos[i]? = some (sec :: todo)) (hdata : s'.data = (sec.run s.data).1)
    (htodos : s'.todos = s.todos.set i ((sec.run s.data).2 ++ todo))

theorem todos_setPhase (s : Sys R) (i : ℕ) (call : Call R) (phase : CallPhase R) :
    (s.setPhase i call phase).todos = s.todos.set i phase.todo := by
  rw [Sys.todos, Sys.setPhase, List.map_set, Sys.todos]

theorem todos_getElem? {s : Sys R} {i : ℕ} {call : Call R} (hcall : s.calls[i]? = some call) :
    s.todos[i]? = some call.phase.todo := by
  rw [Sys.todos, List.getElem?_map, hcall, Option.map_some]

theorem todos_newCall {s t : Sys R} {caller : Caller} {names : Option (List Name)}
    (h : t.calls = s.calls ++ [⟨caller, names, .requesting⟩]) : t.todos = s.todos ++ [[]] := by
  rw [Sys.todos, h, List.map_append]
  rfl

section Step
variable [Field R] [LinearOrder R] {lib : Library R} {cfg : Config R} {objects : List (WorldObject R)}
  {getGltf : GeoRef → Except Failure Bytes}

omit [Field R] [LinearOrder R] in
theorem todos_setPhase_done {s : Sys R} {i : ℕ} {call : Call R} {phase : CallPhase R}
    (hcall : s.calls[i]? = some call) (hbefore : call.phase.todo = []) (hafter : phase.todo = []) :
    (s.setPhase i call phase).todos = s.todos := by
  obtain ⟨hlt, hget⟩ := List.getElem?_eq_some_iff.mp (todos_getElem? hcall)
  rw [todos_setPhase, hafter, ← hbefore, ← hget, List.set_getElem_self]

theorem received_step {s s' : Sys R} {i : ℕ} {gltf : ℕ → GeoRef → Except Failure Bytes}
    (hstep : step lib cfg s (.getObjects i (.ok objects) gltf) = some s') :
    SameShapes s.data s'.data ∧ s.todos[i]? = some [] ∧
      s'.todos = s.todos.set i ((fetchPlan lib cfg gltf objects).map .item) := by
  cases step_eq_some.mp hstep with
  | getObjects i call _ _ hcall hphase =>
    refine ⟨SameShapes.refl _, ?_, todos_setPhase _ _ _ _⟩
    rw [todos_getElem? hcall, hphase]
    rfl

theorem fetchStep {s s' : Sys R} {l : Label R} (hsnapshot : l.SameSnapshot objects getGltf)
    (hstep : step lib cfg s l = some s') :
    FetchStep (fetchPlan lib cfg (fun _ => getGltf) objects) s s' := by
  cases step_eq_some.mp hstep with
  | syncService => exact .other (SameShapes.refl _) (.inr (todos_newCall rfl))
  | planning objectNames => exact .other (SameShapes.refl _) (.inr (todos_newCall rfl))
  | takeRequest hready => exact .other ⟨rfl, rfl, rfl, rfl⟩ (.inr (todos_newCall rfl))
  | getObjects i call response gltf hcall hphase =>
    cases response with
    | error e =>
      refine .other (SameShapes.refl _) (.inl (todos_setPhase_done hcall (by rw [hphase]; rfl) ?_))
      rw [Call.afterResponse]
      split_ifs <;> rfl
    | ok answer =>
      obtain ⟨hsame, rfl⟩ := hsnapshot answer rfl
      obtain ⟨hdata, hi, htodos⟩ := received_step hstep
      exact .start hdata hi (fetchPlan_perm hsame) htodos
  | fetchSection i call sec todo hcall hphase =>
    refine .run (i := i) ?_ rfl (todos_setPhase _ _ _ _)
    rw [todos_getElem? hcall, hphase]
    rfl
  | snapshot i call ord now hcall hphase =>
    exact .other (SameShapes.refl _) (.inl (todos_setPhase_done hcall (by rw [hphase]; rfl) rfl))
  | publish i call msg msgs hcall hphase =>
    exact .other (SameShapes.refl _) (.inl (todos_setPhase_done hcall (by rw [hphase]; rfl) rfl))
  | tfErase => exact hsnapshot.elim
  | tfQueue m htf => exact .other (SameShapes.queue s.data _ _) (.inl rfl)
  | tfUpdate ord now m htf => exact .other (SameShapes.update lib cfg ord now m.transforms s.data) (.inl rfl)
  | shutdown => exact .other ⟨rfl, rfl, rfl, rfl⟩ (.inl rfl)
  | _ => exact .other (SameShapes.refl _) (.inl rfl)

end Step

/-- The fetches are on their way from `σ₀`, and so is what `read` reads. -/
structure Converging {V : Type*} (σ₀ : Data R) (xs : List (FetchItem R)) (read : Data R → Option V)
    (written : FetchItem R → Option V) (s : Sys R) : Prop where
  fetching : Fetching σ₀ xs s.data s.todos
  settles : Settles (xs.findSome? written) (read σ₀) (s.todos.map (writesLeft written)) (read s.data)

section Converging
variable {V : Type*} {σ₀ : Data R} {xs : List (FetchItem R)} {read : Data R → Option V}
  {written : FetchItem R → Option V} {s s' : Sys R}

theorem writesLeft_items (xs : List (FetchItem R)) : writesLeft written (xs.map .item) = xs.filterMap written := by
  rw [writesLeft, List.map_map, show FetchSection.source ∘ FetchSection.item (R := R) = id from rfl, List.map_id]

/-- What a call that starts has to write is what is written at the end. -/
theorem WrittenAtEnd.agree_items (hwritten : WrittenAtEnd σ₀ read written) (hids : (xs.map fun x => x.id).Nodup)
    {ys : List (FetchItem R)} (hys : ys.Perm xs) : ∀ v ∈ ys.filterMap written, xs.findSome? written = some v := by
  intro v hv
  obtain ⟨y, hy, hw⟩ := List.mem_filterMap.mp hv
  exact hwritten.found hids (hys.subset hy) hw

theorem findSome?_of_perm {ys : List (FetchItem R)} (hys : ys.Perm xs) (hnil : ys.filterMap written = []) :
    xs.findSome? written = none :=
  List.findSome?_eq_none_iff.mpr fun x hx => List.filterMap_eq_nil_iff.mp hnil x (hys.symm.subset hx)

theorem Converging.step (h : Converging σ₀ xs read written s) (hwritten : WrittenAtEnd σ₀ read written)
    (hids : (xs.map fun x => x.id).Nodup) (hstep : FetchStep xs s s') : Converging σ₀ xs read written s' := by
  obtain ⟨hf, hs⟩ := h
  cases hstep with
  | other hdata htodos =>
    have hs' := hs
    rw [← hwritten.same hdata] at hs'
    rcases htodos with htodos | htodos
    · exact ⟨htodos ▸ hf.of_same hdata, by rwa [htodos]⟩
    · refine ⟨htodos ▸ (hf.of_same hdata).append, ?_⟩
      rw [htodos, List.map_append]
      exact hs'.append
  | @start i ys hdata hi hys htodos =>
    refine ⟨htodos ▸ (hf.of_same hdata).start hi hys, ?_⟩
    rw [htodos, List.map_set, writesLeft_items, hwritten.same hdata]
    exact hs.start (by rw [List.getElem?_map, hi]; rfl) (hwritten.agree_items hids hys)
  | run hi hdata htodos =>
    constructor
    · rw [htodos, hdata]
      exact hf.run hids hi
    · rw [htodos, hdata]
      exact settles_run hwritten hids hf hs hi

theorem converging_start (hwritten : WrittenAtEnd σ₀ read written) (hids : (xs.map fun x => x.id).Nodup)
    (hquiet : s.Quiet) (hbefore : SameShapes σ₀ s.data) {i : ℕ} {ys : List (FetchItem R)}
    (hdata : SameShapes s.data s'.data) (hi : s.todos[i]? = some []) (hys : ys.Perm xs)
    (htodos : s'.todos = s.todos.set i (ys.map .item)) : Converging σ₀ xs read written s' := by
  have hsame := hbefore.trans hdata
  refine ⟨htodos ▸ fetching_start hquiet hi hys hsame, ?_⟩
  rw [htodos, List.map_set, writesLeft_items, hwritten.same hsame]
  refine settles_start (fun left hleft => ?_) (by simpa using (List.getElem?_eq_some_iff.mp hi).1)
    (hwritten.agree_items hids hys) (findSome?_of_perm hys)
  obtain ⟨todo, htodo, rfl⟩ := List.mem_map.mp hleft
  rw [hquiet todo htodo]
  rfl

theorem notReceived_step (hquiet : s.Quiet) (hbefore : SameShapes σ₀ s.data) (hwritten : WrittenAtEnd σ₀ read written)
    (hids : (xs.map fun x => x.id).Nodup) (hstep : FetchStep xs s s') :
    (s'.Quiet ∧ SameShapes σ₀ s'.data) ∨ Converging σ₀ xs read written s' := by
  cases hstep with
  | other hdata htodos =>
    refine .inl ⟨?_, hbefore.trans hdata⟩
    rcases htodos with htodos | htodos
    · rwa [Sys.Quiet, htodos]
    · intro todo htodo
      rw [htodos] at htodo
      rcases List.mem_append.mp htodo with htodo | htodo
      · exact hquiet todo htodo
      · exact List.mem_singleton.mp htodo
  | start hdata hi hys htodos => exact .inr (converging_start hwritten hids hquiet hbefore hdata hi hys htodos)
  | run hi hdata htodos => cases hquiet _ (List.mem_of_getElem? hi)

end Converging

section Runs
variable [Field R] [LinearOrder R] (lib : Library R) (cfg : Config R) (objects : List (WorldObject R))
  (getGltf : GeoRef → Except Failure Bytes)

/-- A run in which some call has a copy of the objects, no call has other ones, no frame
is removed, and every fetch comes to its end. -/
structure FetchRun (s : Sys R) (ls : List (Label R)) (t : Sys R) : Prop where
  run : exec (step lib cfg) s ls = some t
  snapshot : ∀ l ∈ ls, l.SameSnapshot objects getGltf
  received : ∃ i answer gltf, .getObjects i (.ok answer) gltf ∈ ls
  quiet : s.Quiet
  done : t.Quiet

variable {lib cfg objects getGltf} {s t : Sys R} {ls : List (Label R)}

/-- Once a call has had its answer, the fetches are on their way to the end. -/
theorem FetchRun.converging {V : Type*} {read : Data R → Option V} {written : FetchItem R → Option V}
    (h : FetchRun lib cfg objects getGltf s ls t) (hwritten : WrittenAtEnd s.data read written)
    (hids : ((fetchPlan lib cfg (fun _ => getGltf) objects).map fun x => x.id).Nodup) :
    Converging s.data (fetchPlan lib cfg (fun _ => getGltf) objects) read written t := by
  let xs := fetchPlan lib cfg (fun _ => getGltf) objects
  let J (u : Sys R) : Prop := (u.Quiet ∧ SameShapes s.data u.data) ∨ Converging s.data xs read written u
  have hJ : ∀ u l u', J u → l.SameSnapshot objects getGltf → step lib cfg u l = some u' → J u' := by
    rintro u l u' (⟨hu, hsame⟩ | hu) hl hs
    · exact notReceived_step hu hsame hwritten hids (fetchStep hl hs)
    · exact .inr (hu.step hwritten hids (fetchStep hl hs))
  obtain ⟨hrun, hsnapshot, ⟨i, answer, gltf, hi⟩, hquiet, -⟩ := h
  obtain ⟨before, after, rfl⟩ := List.append_of_mem hi
  obtain ⟨u, hbefore, hrest⟩ := (exec_append_eq_some _).mp hrun
  obtain ⟨u', hstep, hafter⟩ := (exec_cons_eq_some _).mp hrest
  have hu : J u := exec_invariant (P := fun _ l => l.SameSnapshot objects getGltf) hJ
    (Along.of_labels fun l hl _ => hsnapshot l (by simp [hl])) hbefore (.inl ⟨hquiet, SameShapes.refl _⟩)
  have hu' : Converging s.data xs read written u' := by
    rcases hu with ⟨hu, hsame⟩ | hu
    · obtain ⟨hdata, hcall, htodos⟩ := received_step hstep
      obtain ⟨hobjects, rfl⟩ := hsnapshot _ hi answer rfl
      exact converging_start hwritten hids hu hsame hdata hcall (fetchPlan_perm hobjects) htodos
    · exact hu.step hwritten hids (fetchStep (hsnapshot _ hi) hstep)
  exact exec_invariant (P := fun _ l => l.SameSnapshot objects getGltf)
    (fun _ _ _ hi hl hs => hi.step hwritten hids (fetchStep hl hs))
    (Along.of_labels fun l hl _ => hsnapshot l (by simp [hl])) hafter hu'

theorem FetchRun.read {V : Type*} {read : Data R → Option V} {written : FetchItem R → Option V}
    (h : FetchRun lib cfg objects getGltf s ls t) (hwritten : WrittenAtEnd s.data read written)
    (hids : ((fetchPlan lib cfg (fun _ => getGltf) objects).map fun x => x.id).Nodup) :
    read t.data = ((fetchPlan lib cfg (fun _ => getGltf) objects).findSome? written).or (read s.data) := by
  refine (h.converging hwritten hids).settles.value fun left hleft => ?_
  obtain ⟨todo, htodo, rfl⟩ := List.mem_map.mp hleft
  rw [h.done todo htodo]
  rfl

theorem FetchRun.renderables (h : FetchRun lib cfg objects getGltf s ls t)
    (hids : ((fetchPlan lib cfg (fun _ => getGltf) objects).map fun x => x.id).Nodup) (m : Name) :
    t.data.renderablesCollision.lookup m = heldGltf s.data (fetchPlan lib cfg (fun _ => getGltf) objects) m := by
  rcases (h.converging (writtenAtEnd_pose s.data m) hids).fetching.bytes m with hheld | ⟨-, todo, htodo, sec, hsec, -⟩
  · exact hheld
  · rw [h.done todo htodo] at hsec
    cases hsec

omit [Field R] [LinearOrder R] in
theorem frames_ext {σ τ : Data R} (htracked : ∀ f, (τ.collisionTfFrameToMeshIds.lookup f).map (fun _ => ()) =
      (σ.collisionTfFrameToMeshIds.lookup f).map fun _ => ())
    (hids : ∀ f m, (if m ∈ τ.meshIds f then some () else none) = if m ∈ σ.meshIds f then some () else none) :
    τ.collisionTfFrameToMeshIds = σ.collisionTfFrameToMeshIds := by
  refine Finmap.ext_lookup fun f => ?_
  have hf := htracked f
  have hsame : τ.meshIds f = σ.meshIds f := by
    ext m
    have hm := hids f m
    split_ifs at hm with h h' h'
    · exact iff_of_true h h'
    · exact iff_of_false h h'
  rw [Data.meshIds, Data.meshIds] at hsame
  cases hτ : τ.collisionTfFrameToMeshIds.lookup f with
  | none =>
    cases hσ : σ.collisionTfFrameToMeshIds.lookup f with
    | none => rfl
    | some ids => rw [hτ, hσ] at hf; cases hf
  | some ids =>
    cases hσ : σ.collisionTfFrameToMeshIds.lookup f with
    | none => rw [hτ, hσ] at hf; cases hf
    | some ids' =>
      rw [hτ, hσ] at hsame
      exact congrArg some hsame

theorem FetchRun.sameShapes {s' t' : Sys R} {ls' : List (Label R)} (h : FetchRun lib cfg objects getGltf s ls t)
    (h' : FetchRun lib cfg objects getGltf s' ls' t') (hdata : s'.data = s.data)
    (hids : ((fetchPlan lib cfg (fun _ => getGltf) objects).map fun x => x.id).Nodup) :
    SameShapes t.data t'.data where
  frames := by
    refine frames_ext (fun f => ?_) fun f m => ?_
    · rw [h.read (writtenAtEnd_tracked _ f) hids, h'.read (writtenAtEnd_tracked _ f) hids, hdata]
    · rw [h.read (writtenAtEnd_meshIds _ f m) hids, h'.read (writtenAtEnd_meshIds _ f m) hids, hdata]
  renderables := by
    refine Finmap.ext_lookup fun m => ?_
    rw [h.renderables hids, h'.renderables hids, hdata]
  primitives := by
    refine Finmap.ext_lookup fun m => ?_
    rw [h.read (writtenAtEnd_solid _ m) hids, h'.read (writtenAtEnd_solid _ m) hids, hdata]
  poses := by
    refine Finmap.ext_lookup fun m => ?_
    rw [h.read (writtenAtEnd_pose _ m) hids, h'.read (writtenAtEnd_pose _ m) hids, hdata]

/-! ### One call alone -/

variable (lib cfg getGltf) in
theorem fetchRun_alone {answer : List (WorldObject R)} (hobjects : SameObjects objects answer) (hquiet : s.Quiet) :
    ∃ ls t, FetchRun lib cfg objects getGltf s ls t ∧
      t.data = fetchItems s.data (fetchPlan lib cfg (fun _ => getGltf) answer) := by
  let i := s.calls.length
  let call : Call R := ⟨.planning, none, .requesting⟩
  let xs := fetchPlan lib cfg (fun _ => getGltf) answer
  let s₁ : Sys R := { s with calls := s.calls ++ [call] }
  let s₂ : Sys R := s₁.setPhase i call (.fetching (xs.map .item))
  let t : Sys R := { s₂ with data := fetchItems s.data xs }.setPhase i { call with phase := .fetching (xs.map .item) }
    (.fetching [])
  have hcall : s₁.calls[i]? = some call := List.getElem?_concat_length
  have hget : step lib cfg s₁ (.getObjects i (.ok answer) fun _ => getGltf) = some s₂ :=
    step_eq_some.mpr (.getObjects s₁ i call _ _ hcall rfl)
  obtain ⟨n, hn⟩ : ∃ n, exec (step lib cfg) s₂ (List.replicate n (.fetchSection i)) = some t :=
    exec_items (setPhase_getElem? hcall _) rfl
  refine ⟨.planning none :: .getObjects i (.ok answer) (fun _ => getGltf) :: List.replicate n (.fetchSection i), t,
    ⟨?_, ?_, ⟨i, answer, fun _ => getGltf, by simp⟩, hquiet, ?_⟩, rfl⟩
  · exact (exec_cons_eq_some _).mpr ⟨s₁, rfl, (exec_cons_eq_some _).mpr ⟨s₂, hget, hn⟩⟩
  · simp only [List.forall_mem_cons]
    refine ⟨trivial, fun answer' h => ⟨Except.ok.inj h ▸ hobjects, rfl⟩, fun l hl => ?_⟩
    rw [List.eq_of_mem_replicate hl]
    trivial
  · have htodos : t.todos = (s.todos ++ [[]]).set i [] := by
      have hs₂ : s₂.todos = s₁.todos.set i (xs.map .item) := todos_setPhase _ _ _ _
      have hs₁ : s₁.todos = s.todos ++ [[]] := List.map_append
      have ht : t.todos = s₂.todos.set i [] := todos_setPhase _ _ _ _
      rw [ht, hs₂, hs₁, List.set_set]
    intro todo htodo
    rw [htodos] at htodo
    rcases List.mem_or_eq_of_mem_set htodo with htodo | rfl
    · rcases List.mem_append.mp htodo with htodo | htodo
      · exact hquiet todo htodo
      · exact List.mem_singleton.mp htodo
    · rfl

theorem FetchRun.append {u : Sys R} {ms : List (Label R)} (h : FetchRun lib cfg objects getGltf s ls t)
    (h' : FetchRun lib cfg objects getGltf t ms u) : FetchRun lib cfg objects getGltf s (ls ++ ms) u where
  run := (exec_append_eq_some _).mpr ⟨t, h.run, h'.run⟩
  snapshot l hl := (List.mem_append.mp hl).elim (h.snapshot l) (h'.snapshot l)
  received := by
    obtain ⟨i, answer, gltf, hi⟩ := h.received
    exact ⟨i, answer, gltf, List.mem_append_left _ hi⟩
  quiet := h.quiet
  done := h'.done

/-- The World answers the call with a copy of the objects, and with these meshes. -/
structure WorldClient.Holds (world : WorldClient R) (names : Option (List Name)) (objects : List (WorldObject R))
    (getGltf : GeoRef → Except Failure Bytes) : Prop where
  objects : ∃ answer, world.getObjects (requestNames names) = .ok answer ∧ SameObjects objects answer
  gltf : world.getGltf = fun _ => getGltf

/-- However the sections of the calls are mixed, and whatever the order in which each of
them goes through the maps, they leave the shapes that one call leaves alone; and a fetch
that is repeated leaves the shapes as they are. -/
theorem concurrent_fetches_agree
    (hids : ((fetchPlan lib cfg (fun _ => getGltf) objects).map fun x => x.id).Nodup)
    (h : FetchRun lib cfg objects getGltf s ls t) {world world' : WorldClient R} {names names' : Option (List Name)}
    (hworld : world.Holds names objects getGltf) (hworld' : world'.Holds names' objects getGltf) :
    let fetch (σ : Data R) : Data R := (fetchAndSynchronize lib cfg world names σ).2
    let fetch' (σ : Data R) : Data R := (fetchAndSynchronize lib cfg world' names' σ).2
    SameShapes (fetch s.data) t.data ∧ ∀ σ, SameShapes (fetch σ) (fetch' (fetch σ)) := by
  intro fetch fetch'
  obtain ⟨⟨answer, hanswer, hobjects⟩, hgltf⟩ := hworld
  obtain ⟨⟨answer', hanswer', hobjects'⟩, hgltf'⟩ := hworld'
  have hfetch : ∀ σ, fetch σ = fetchItems σ (fetchPlan lib cfg (fun _ => getGltf) answer) := fun σ => by
    simp only [fetch, fetchAndSynchronize_ok hanswer, hgltf]
  have hfetch' : ∀ σ, fetch' σ = fetchItems σ (fetchPlan lib cfg (fun _ => getGltf) answer') := fun σ => by
    simp only [fetch', fetchAndSynchronize_ok hanswer', hgltf']
  constructor
  · obtain ⟨ls', t', halone, hdata⟩ := fetchRun_alone lib cfg getGltf hobjects h.quiet
    rw [hfetch, ← hdata]
    exact halone.sameShapes h rfl hids
  · intro σ
    have hquiet : (⟨σ, [], .idle, []⟩ : Sys R).Quiet := fun todo htodo => by cases htodo
    obtain ⟨ls₁, t₁, hfirst, hdata₁⟩ := fetchRun_alone lib cfg getGltf hobjects hquiet
    obtain ⟨ls₂, t₂, hsecond, hdata₂⟩ := fetchRun_alone lib cfg getGltf hobjects' hfirst.done
    rw [hfetch, hfetch', ← hdata₁, ← hdata₂]
    exact hfirst.sameShapes (hfirst.append hsecond) rfl hids

end Runs

/-! ### Two requests for a mesh and a box -/

namespace Sample

/-- An object with one entity, with the geometries in the order of the list. -/
def part (geometries : List (Name × Geometry ℚ)) : WorldObject ℚ where
  name := "part".toList
  entities := [{
    name := "whole".toList
    geometryComponent := some [(intrinsicCollision, geometries.map fun g => (g.1, ⟨none, g.2⟩))] }]

def boxFirst : List (WorldObject ℚ) :=
  [part [("box".toList, boxGeometry 1), ("mesh".toList, meshGeometry "a".toList)]]

def meshFirst : List (WorldObject ℚ) :=
  [part [("mesh".toList, meshGeometry "a".toList), ("box".toList, boxGeometry 1)]]

theorem sameObjects_boxFirst : SameObjects boxFirst meshFirst := by
  refine .singleton ⟨rfl, .singleton ⟨rfl, .some (.singleton ⟨rfl, ?_⟩)⟩⟩
  exact List.Perm.swap _ _ _

/-- Each request finds the mesh missing, in an order of its own. -/
def twoRequests : List (Label ℚ) :=
  [.planning none, .planning none, .getObjects 0 (.ok boxFirst) (client []).getGltf,
    .getObjects 1 (.ok meshFirst) (client []).getGltf, .fetchSection 1, .fetchSection 0, .fetchSection 0,
    .fetchSection 1, .fetchSection 1, .fetchSection 0, .fetchSection 0, .fetchSection 1]

/-- The call has processed its last item. -/
def fetched (call : Call ℚ) : Bool :=
  match call.phase with
  | .fetching [] => true
  | _ => false

theorem fetching_of_fetched {call : Call ℚ} (h : fetched call = true) : call.phase = .fetching [] := by
  rw [fetched] at h
  split at h
  · assumption
  · cases h

end Sample

theorem concurrent_fetches_agree_two : ∃ t : Sys ℚ,
    exec (step Sample.library Config.default) Sys.init Sample.twoRequests = some t ∧
      let fetch (objects : List (WorldObject ℚ)) (σ : Data ℚ) : Data ℚ :=
        (fetchAndSynchronize Sample.library Config.default (Sample.client objects) none σ).2
      SameShapes (fetch Sample.boxFirst Data.init) t.data ∧
        ∀ σ, SameShapes (fetch Sample.boxFirst σ) (fetch Sample.meshFirst (fetch Sample.boxFirst σ)) := by
  obtain ⟨t, hrun, hdone⟩ : ∃ t, exec (step Sample.library Config.default) Sys.init Sample.twoRequests = some t ∧
      t.calls.all Sample.fetched = true :=
    (Option.any_eq_true _ _).mp (by decide +kernel)
  have h : FetchRun Sample.library Config.default Sample.boxFirst ((Sample.client []).getGltf 0) Sys.init
      Sample.twoRequests t := by
    refine ⟨hrun, ?_, ⟨0, Sample.boxFirst, (Sample.client []).getGltf, by simp [Sample.twoRequests]⟩, ?_,
      fun todo htodo => ?_⟩
    · simp only [Sample.twoRequests, List.forall_mem_cons]
      refine ⟨trivial, trivial, fun answer h => ⟨Except.ok.inj h ▸ SameObjects.refl _, rfl⟩,
        fun answer h => ⟨Except.ok.inj h ▸ Sample.sameObjects_boxFirst, rfl⟩, ?_⟩
      simp [Label.SameSnapshot]
    · intro todo htodo
      cases htodo
    · obtain ⟨call, hcall, rfl⟩ := List.mem_map.mp htodo
      rw [Sample.fetching_of_fetched (List.all_eq_true.mp hdone call hcall)]
      rfl
  exact ⟨t, hrun, concurrent_fetches_agree (by decide +kernel) h ⟨⟨_, rfl, .refl _⟩, rfl⟩
    ⟨⟨_, rfl, Sample.sameObjects_boxFirst⟩, rfl⟩⟩

end MoveitPlanning.Scene
