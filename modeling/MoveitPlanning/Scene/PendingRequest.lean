import MoveitPlanning.Scene.Threads

/-! The pending request: a flag and an optional list of names, where no list means
everything. A requested object is covered while the pending request or a fetch in
flight asks for it. The request is cleared before the outcome of the fetch is known, so
a failed fetch drops it; and the TF callback turns a request for everything into one
for the names it adds. A request stays covered in every run that does neither. -/

namespace MoveitPlanning.Scene

open Foundation

variable {R : Type*}

/-- A request by these names asks for the object. -/
def Asks (objectNames : Option (List Name)) (n : Name) : Prop := ∀ names, objectNames = some names → n ∈ names

instance (objectNames : Option (List Name)) (n : Name) : Decidable (Asks objectNames n) :=
  decidable_of_iff ((objectNames.all fun names => names.any fun m => decide (m = n)) = true)
    (by simp [Asks, Option.all_eq_true])

theorem Asks.requestNames {objectNames : Option (List Name)} {n : Name} (h : Asks objectNames n) :
    Asks (requestNames objectNames) n := by
  rcases objectNames with _ | _ | ⟨m, names⟩
  · exact h
  · simp [Asks, Scene.requestNames]
  · exact h

/-- `sync_new_objects_` is set, with no names or with the name among them. -/
def PendingFor (s : Sys R) (n : Name) : Prop :=
  s.data.syncNewObjects = true ∧ Asks s.data.syncObjectNames n

instance (s : Sys R) (n : Name) : Decidable (PendingFor s n) := inferInstanceAs (Decidable (_ ∧ _))

/-- The call waits for a response of `GetObjects` that covers the object. -/
def Call.InFlight (call : Call R) (n : Name) : Prop :=
  call.phase = .requesting ∧ Asks (requestNames call.objectNames) n

instance (call : Call R) (n : Name) : Decidable (call.InFlight n) :=
  match h : call.phase with
  | .requesting => decidable_of_iff (Asks (requestNames call.objectNames) n) (by simp [Call.InFlight, h])
  | .fetching _ => isFalse fun hf => by cases h.symm.trans hf.1
  | .publishing _ => isFalse fun hf => by cases h.symm.trans hf.1

/-- Covered by the pending request or by a fetch in flight. -/
def Covered (s : Sys R) (n : Name) : Prop :=
  PendingFor s n ∨ ∃ call ∈ s.calls, call.InFlight n

/-- A fetch of the sync thread that covers the object is in flight. -/
def SyncInFlight (s : Sys R) (n : Name) : Prop :=
  ∃ (i : ℕ) (call : Call R), s.calls[i]? = some call ∧ call.caller = .syncThread ∧ call.InFlight n

instance (s : Sys R) (n : Name) : Decidable (SyncInFlight s n) :=
  decidable_of_iff (∃ call ∈ s.calls, call.caller = .syncThread ∧ call.InFlight n) (by
    simp only [SyncInFlight, List.mem_iff_getElem?]
    exact ⟨fun ⟨call, ⟨i, hi⟩, h⟩ => ⟨i, call, hi, h⟩, fun ⟨i, call, hi, h⟩ => ⟨call, ⟨i, hi⟩, h⟩⟩)

/-- Covered without the help of other callers: by the pending request or by a fetch of
the sync thread. -/
def SyncCovered (s : Sys R) (n : Name) : Prop := PendingFor s n ∨ SyncInFlight s n

theorem SyncCovered.covered {s : Sys R} {n : Name} (h : SyncCovered s n) : Covered s n := by
  rcases h with h | ⟨i, call, hcall, -, hf⟩
  · exact .inl h
  · exact .inr ⟨call, List.mem_of_getElem? hcall, hf⟩

/-- The step is an OK response that covers the object. -/
def Answers (n : Name) (s : Sys R) : Label R → Prop
  | .getObjects i (.ok _) _ => ∃ call, s.calls[i]? = some call ∧ Asks (requestNames call.objectNames) n
  | _ => False

instance (n : Name) (s : Sys R) : (l : Label R) → Decidable (Answers n s l)
  | .getObjects i (.ok _) _ => decidable_of_iff
      ((s.calls[i]?.any fun call => decide (Asks (requestNames call.objectNames) n)) = true)
      (by simp only [Option.any_eq_true, decide_eq_true_eq, Answers])
  | .getObjects _ (.error _) _ | .syncService | .planning _ | .takeRequest | .fetchSection _ | .snapshot _ _ _
  | .publish _ | .tfMessage _ _ | .tfErase _ | .tfPublishRemove | .tfQueue | .tfUpdate _ _ | .tfPublishMove
  | .tfReturn | .shutdown => inferInstanceAs (Decidable False)

/-- The step does not lose the object: a fetch of the sync thread that covers it fails
only when the pending request covers it again, and names are queued into a pending
request for everything only with the object among them or in a fetch of the sync
thread. -/
def KeepsRequest (n : Name) (s : Sys R) : Label R → Prop
  | .getObjects i (.error _) _ => ∀ call, s.calls[i]? = some call → call.caller = .syncThread →
      Asks (requestNames call.objectNames) n → PendingFor s n
  | .tfQueue => ∀ m, s.tf = .removing m [] → m.newObjectNames ≠ [] → s.data.syncNewObjects = true →
      s.data.syncObjectNames = none → n ∈ m.newObjectNames ∨ SyncInFlight s n
  | _ => True

instance (n : Name) (s : Sys R) : (l : Label R) → Decidable (KeepsRequest n s l)
  | .getObjects i (.error _) _ => decidable_of_iff
      ((s.calls[i]?.all fun call => decide (call.caller = .syncThread →
        Asks (requestNames call.objectNames) n → PendingFor s n)) = true)
      (by simp only [Option.all_eq_true, decide_eq_true_eq, KeepsRequest])
  | .tfQueue =>
    match h : s.tf with
    | .removing m [] => decidable_of_iff
        (m.newObjectNames ≠ [] → s.data.syncNewObjects = true → s.data.syncObjectNames = none →
          Asks (some m.newObjectNames) n ∨ SyncInFlight s n) (by simp [KeepsRequest, Asks, h])
    | .removing _ (_ :: _) | .idle | .publishRemove _ _ _ | .updating _ | .publishMoves _ =>
      isTrue fun m hm => by cases h.symm.trans hm
  | .getObjects _ (.ok _) _ | .syncService | .planning _ | .takeRequest | .fetchSection _ | .snapshot _ _ _
  | .publish _ | .tfMessage _ _ | .tfErase _ | .tfPublishRemove | .tfUpdate _ _ | .tfPublishMove
  | .tfReturn | .shutdown => inferInstanceAs (Decidable True)

section Step
variable [Field R] [LinearOrder R] {lib : Library R} {cfg : Config R}

/-- The object has just been requested: at start-up, or by the TF callback that has
discovered its name. -/
def Requested (lib : Library R) (cfg : Config R) (n : Name) (s : Sys R) : Prop :=
  s = Sys.init ∨ ∃ (s₀ : Sys R) (m : TfUpdate R), s₀.tf = .removing m [] ∧ n ∈ m.newObjectNames ∧
    step lib cfg s₀ .tfQueue = some s

omit [Field R] [LinearOrder R] in
theorem queueObjects_pending {σ : Data R} {names : List Name} {n : Name} (h : n ∈ names) :
    (σ.queueObjects names).syncNewObjects = true ∧ Asks (σ.queueObjects names).syncObjectNames n := by
  have hne : names ≠ [] := List.ne_nil_of_mem h
  rw [Data.queueObjects, if_neg hne]
  refine ⟨rfl, fun l hl => ?_⟩
  obtain rfl := Option.some.inj hl
  exact List.mem_append_right _ h

theorem Requested.syncCovered {n : Name} {s : Sys R} (h : Requested lib cfg n s) : SyncCovered s n := by
  rcases h with rfl | ⟨s₀, m, htf, hn, hstep⟩
  · exact .inl ⟨rfl, fun _ h => by cases h⟩
  · cases step_eq_some.mp hstep with
    | tfQueue m' htf' =>
      obtain ⟨rfl, -⟩ := TfPhase.removing.inj (htf.symm.trans htf')
      exact .inl (queueObjects_pending hn)

omit [Field R] [LinearOrder R] in
/-- A change to a call that is not in flight leaves those that are. -/
theorem SyncCovered.setPhase {s : Sys R} {n : Name} (h : SyncCovered s n) {i : ℕ} {call : Call R}
    (hcall : s.calls[i]? = some call) (hphase : call.phase ≠ .requesting) (phase : CallPhase R)
    {τ : Sys R} (hcalls : τ.calls = s.calls) (hflag : τ.data.syncNewObjects = s.data.syncNewObjects)
    (hnames : τ.data.syncObjectNames = s.data.syncObjectNames) :
    SyncCovered (τ.setPhase i call phase) n := by
  rcases h with hp | ⟨j, c, hc, hsync, hf⟩
  · refine .inl ⟨?_, ?_⟩
    · rw [← hp.1, ← hflag]; rfl
    · show Asks τ.data.syncObjectNames n
      rw [hnames]
      exact hp.2
  · have hij : i ≠ j := by
      rintro rfl
      obtain rfl : call = c := by simpa [hcall] using hc
      exact hphase hf.1
    refine .inr ⟨j, c, ?_, hsync, hf⟩
    show (τ.calls.set i _)[j]? = some c
    rw [hcalls, List.getElem?_set_ne hij, hc]

/-- A step that neither answers nor loses the object keeps it covered. -/
theorem syncCovered_step {n : Name} {s s' : Sys R} {l : Label R} (hc : SyncCovered s n)
    (hopen : ¬Answers n s l) (hkeep : KeepsRequest n s l) (hstep : step lib cfg s l = some s') :
    SyncCovered s' n := by
  have happend : ∀ {σ : Sys R} (c : Call R), σ.data = s.data → σ.calls = s.calls ++ [c] →
      SyncCovered σ n := by
    rintro σ c hdata hcalls
    rcases hc with hp | ⟨j, call, hj, hsync, hf⟩
    · exact .inl (by rwa [PendingFor, hdata])
    · refine .inr ⟨j, call, ?_, hsync, hf⟩
      obtain ⟨hlt, -⟩ := List.getElem?_eq_some_iff.mp hj
      rw [hcalls, List.getElem?_append_left hlt, hj]
  have hsame : ∀ {σ : Sys R}, σ.calls = s.calls → σ.data.syncNewObjects = s.data.syncNewObjects →
      σ.data.syncObjectNames = s.data.syncObjectNames → SyncCovered σ n := by
    intro σ hcalls hflag hnames
    rw [SyncCovered, PendingFor, SyncInFlight, hcalls, hflag, hnames]
    exact hc
  cases step_eq_some.mp hstep with
  | syncService => exact happend _ rfl rfl
  | planning objectNames => exact happend _ rfl rfl
  | takeRequest hready =>
    rcases hc with hp | ⟨j, call, hj, hsync, hf⟩
    · -- the new call takes over what was pending
      refine .inr ⟨s.calls.length, _, List.getElem?_concat_length, rfl, rfl, ?_⟩
      exact hp.2.requestNames
    · refine .inr ⟨j, call, ?_, hsync, hf⟩
      obtain ⟨hlt, -⟩ := List.getElem?_eq_some_iff.mp hj
      rw [List.getElem?_append_left hlt, hj]
  | getObjects i call response getGltf hcall hphase =>
    by_cases hcovers : call.caller = .syncThread ∧ Asks (requestNames call.objectNames) n
    · cases response with
      | ok objects => exact absurd ⟨call, hcall, hcovers.2⟩ hopen
      | error e => exact .inl (hkeep call hcall hcovers.1 hcovers.2)
    · rcases hc with hp | ⟨j, c, hj, hsync, hf⟩
      · exact .inl hp
      · have hij : i ≠ j := by
          rintro rfl
          obtain rfl : call = c := by simpa [hcall] using hj
          exact hcovers ⟨hsync, hf.2⟩
        exact .inr ⟨j, c, by rw [Sys.setPhase, List.getElem?_set_ne hij, hj], hsync, hf⟩
  | fetchSection i call sec todo hcall hphase =>
    obtain ⟨hflag, hnames, -⟩ := sec.run_request s.data
    exact hc.setPhase hcall (by simp [hphase]) _ rfl hflag hnames
  | snapshot i call ord now hcall hphase => exact hc.setPhase hcall (by simp [hphase]) _ rfl rfl rfl
  | publish i call msg msgs hcall hphase => exact hc.setPhase hcall (by simp [hphase]) _ rfl rfl rfl
  | tfQueue m htf =>
    by_cases hnil : m.newObjectNames = []
    · refine hsame rfl ?_ ?_ <;> simp [Data.queueObjects, hnil]
    · by_cases hn : n ∈ m.newObjectNames
      · exact .inl (queueObjects_pending hn)
      · rcases hc with hp | hf
        · cases hnames : s.data.syncObjectNames with
          | none => exact ((hkeep m htf hnil hp.1 hnames).resolve_left hn).elim fun i h => .inr ⟨i, h⟩
          | some names =>
            -- the names already pending stay in front of the new ones
            have hmem : n ∈ names := hp.2 names hnames
            refine .inl ?_
            simp only [PendingFor, Data.queueObjects, hnil, if_false, hnames, Option.getD_some, true_and]
            intro l hl
            obtain rfl := Option.some.inj hl
            exact List.mem_append_left _ hmem
        · exact .inr hf
  | tfUpdate ord now m htf =>
    obtain ⟨poses, times, hdata⟩ := updateCollisionObjects_data lib cfg ord now m.transforms s.data
    refine hsame rfl ?_ ?_ <;> simp only [hdata]
  | _ => exact hsame rfl rfl rfl

/-- In every run that does not answer the request and loses it in no step, the object
is covered wherever the run ends. -/
theorem request_stays_covered {n : Name} {s t : Sys R} {ls : List (Label R)} (hreq : Requested lib cfg n s)
    (hopen : Along (step lib cfg) (fun s l => ¬Answers n s l) s ls)
    (hkeep : Along (step lib cfg) (KeepsRequest n) s ls) (hrun : exec (step lib cfg) s ls = some t) :
    Covered t n := by
  have hinv : SyncCovered t n := exec_invariant (I := fun s => SyncCovered s n)
    (fun _ _ _ hi hp hs => syncCovered_step hi hp.1 hp.2 hs) (hopen.and hkeep) hrun hreq.syncCovered
  exact hinv.covered

end Step

/-- Polling switched off. -/
def Sample.config : Config ℚ := { Config.default with worldSyncIntervalSec := 0 }

/-- The request at start-up is lost when its fetch fails, and when a TF message names
another object before it is taken. -/
theorem request_lost :
    let failed : List (Label ℚ) :=
      [.takeRequest, .getObjects 0 (.error ⟨.unavailable, []⟩) fun _ _ => .error ⟨.unavailable, []⟩]
    let narrowed : List (Label ℚ) :=
      [.tfMessage (.increasing Name) [Sample.transform "can/whole".toList], .tfQueue]
    ∀ ls ∈ [failed, narrowed],
      Along (step Sample.library Sample.config) (fun s l => ¬Answers "box".toList s l) Sys.init ls ∧
        ∃ t, exec (step Sample.library Sample.config) Sys.init ls = some t ∧ ¬Covered t "box".toList := by
  intro failed narrowed ls hls
  have hopen : Along (step Sample.library Sample.config) (fun s l => ¬Answers "box".toList s l)
      Sys.init ls := by
    simp only [List.mem_cons, List.not_mem_nil, or_false] at hls
    rcases hls with rfl | rfl
    · exact ⟨id, fun _ _ => ⟨id, fun _ _ => trivial⟩⟩
    · exact ⟨id, fun _ _ => ⟨id, fun _ _ => trivial⟩⟩
  refine ⟨hopen, ?_⟩
  simp only [List.mem_cons, List.not_mem_nil, or_false] at hls
  rcases hls with rfl | rfl
  · refine ⟨_, rfl, ?_⟩
    rintro (⟨hflag, -⟩ | ⟨call, hcall, hphase, -⟩)
    · cases hflag
    · obtain rfl := List.mem_singleton.mp hcall
      cases hphase
  · let m := Sample.config.tfUpdate (.increasing Name) ∅ [Sample.transform "can/whole".toList]
    have hnames : m.newObjectNames = ["can".toList] := by decide +kernel
    let s₁ : Sys ℚ := { Sys.init with tf := .removing m [] }
    have hmessage : step Sample.library Sample.config Sys.init (.tfMessage (.increasing Name)
        [Sample.transform "can/whole".toList]) = some s₁ := by
      simp only [step, Sys.init, Data.init, Finset.empty_sdiff, IterOrder.visit_empty, s₁, m]
    refine ⟨_, (exec_cons_eq_some _).mpr ⟨s₁, hmessage, rfl⟩, ?_⟩
    rintro (⟨-, hasks⟩ | ⟨call, hcall, -⟩)
    · have hmem := hasks ["can".toList] (by simp [Data.queueObjects, hnames, Data.init, Sys.init, s₁])
      exact absurd hmem (by decide)
    · exact absurd hcall (List.not_mem_nil)

/-- The fetch of start-up fails after the callback has queued the object, and another name
is added to the pending ones. -/
theorem request_stays_covered_box :
    let ls : List (Label ℚ) := [.takeRequest, .tfMessage (.increasing Name) [Sample.transform "box/whole".toList],
      .tfQueue, .tfUpdate (.increasing Name) 0, .tfReturn,
      .getObjects 0 (.error ⟨.unavailable, []⟩) fun _ _ => .error ⟨.unavailable, []⟩,
      .tfMessage (.increasing Name) [Sample.transform "box/whole".toList, Sample.transform "can/whole".toList],
      .tfQueue, .takeRequest]
    ∃ t, exec (step Sample.library Sample.config) Sys.init ls = some t ∧ Covered t "box".toList := by
  intro ls
  have hopen : Along (step Sample.library Sample.config) (fun s l => ¬Answers "box".toList s l) Sys.init ls := by
    decide +kernel
  have hkeep : Along (step Sample.library Sample.config) (KeepsRequest "box".toList) Sys.init ls := by decide +kernel
  obtain ⟨t, hrun⟩ : ∃ t, exec (step Sample.library Sample.config) Sys.init ls = some t :=
    Option.isSome_iff_exists.mp (by decide +kernel)
  exact ⟨t, hrun, request_stays_covered (.inl rfl) hopen hkeep hrun⟩

end MoveitPlanning.Scene
