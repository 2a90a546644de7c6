import MoveitPlanning.Scene.GhostObstacle
import MoveitPlanning.Foundation.Endless
import Mathlib.Algebra.Order.Monoid.Prod
import Mathlib.Algebra.Order.BigOperators.Group.List
import Mathlib.Algebra.Order.Ring.Nat

/-! No thread of the synchronizer runs on forever. A call takes one step for its
request, at most three for each item of the answer, and one for each message of its
snapshot; how many items and messages there are is only known when the call gets there,
so its work is counted in a lexicographic order. The TF callback is counted in the same
way from one TF message to the next. No step of another thread adds to the work of a
call, and no call waits for another thread: so a call that keeps getting its turn
returns, and when no more calls and messages come, the system comes to rest. A section
under the mutex is one step, so nothing is said here about the mutex itself. -/

namespace MoveitPlanning.Scene

open Foundation

variable {R : Type*}

/-! ### The work that is left -/

/-- The sections that an item still needs, at most. -/
def FetchSection.weight : FetchSection R → ℕ
  | .item _ => 3
  | .emplace _ _ => 2
  | .record _ => 1

def sectionsWeight (todo : List (FetchSection R)) : ℕ := (todo.map FetchSection.weight).sum

theorem FetchSection.weight_run (σ : Data R) (sec : FetchSection R) :
    sectionsWeight (sec.run σ).2 < sec.weight := by
  cases sec with
  | item x =>
    rcases x with ⟨frame, id, pose, ⟨ref, _ | data⟩ | solid⟩
    · simp only [FetchSection.run]
      split_ifs <;> simp [sectionsWeight, FetchSection.weight]
    · simp only [FetchSection.run]
      split_ifs <;> simp [sectionsWeight, FetchSection.weight]
    · simp [FetchSection.run, sectionsWeight, FetchSection.weight]
  | emplace x gltf => simp [FetchSection.run, sectionsWeight, FetchSection.weight]
  | record x => simp [FetchSection.run, sectionsWeight, FetchSection.weight]

/-- The work of a call: the stage it is in, then what is left of that stage. -/
def CallPhase.work : CallPhase R → ℕ ×ₗ ℕ
  | .requesting => toLex (2, 0)
  | .fetching todo => toLex (1, sectionsWeight todo)
  | .publishing msgs => toLex (0, msgs.length)

/-- The work of the callback on its message; each frame it removes takes two steps. -/
def TfPhase.work : TfPhase R → ℕ ×ₗ ℕ
  | .idle => toLex (0, 0)
  | .removing _ frames => toLex (2, 2 * frames.length)
  | .publishRemove _ _ frames => toLex (2, 2 * frames.length + 1)
  | .updating _ => toLex (1, 0)
  | .publishMoves msgs => toLex (0, msgs.length + 1)

/-- The work of call `i`, which may yet have to be made. -/
def Sys.callWork (s : Sys R) (i : ℕ) : ℕ ×ₗ ℕ :=
  (s.calls[i]?).elim (toLex (3, 0)) fun call => call.phase.work

def Sys.work (s : Sys R) : ℕ ×ₗ ℕ := (s.calls.map fun call => call.phase.work).sum + s.tf.work

/-- Every call has ended and the callback has returned. -/
structure Sys.AtRest (s : Sys R) : Prop where
  calls : ∀ call ∈ s.calls, call.finished = true
  tf : s.tf = .idle

/-! ### Steps -/

/-- The call that takes the step. -/
def Label.call? : Label R → Option ℕ
  | .getObjects i _ _ => some i
  | .fetchSection i => some i
  | .snapshot i _ _ => some i
  | .publish i => some i
  | _ => none

/-- A step that begins new work: a call, or a TF message. -/
def Label.begins : Label R → Bool
  | .syncService | .planning _ | .takeRequest | .tfMessage _ _ => true
  | _ => false

/-- What the rest of the world answers to the steps of a thread. -/
structure Replies (R : Type*) where
  objects : Except Failure (List (WorldObject R))
  getGltf : ℕ → GeoRef → Except Failure Bytes
  ord : IterOrder Name
  now : ℤ

/-- The step that call `i` takes next. -/
def CallPhase.next (a : Replies R) (i : ℕ) : CallPhase R → Label R
  | .requesting => .getObjects i a.objects a.getGltf
  | .fetching [] => .snapshot i a.ord a.now
  | .fetching (_ :: _) => .fetchSection i
  | .publishing _ => .publish i

/-- The step that the callback takes next. -/
def TfPhase.next (a : Replies R) : TfPhase R → Label R
  | .idle => .tfMessage a.ord []
  | .removing _ [] => .tfQueue
  | .removing _ (_ :: _) => .tfErase a.now
  | .publishRemove _ _ _ => .tfPublishRemove
  | .updating _ => .tfUpdate a.ord a.now
  | .publishMoves [] => .tfReturn
  | .publishMoves (_ :: _) => .tfPublishMove

theorem CallPhase.next_call (a : Replies R) (i : ℕ) (phase : CallPhase R) : (phase.next a i).call? = some i := by
  rcases phase with _ | (_ | ⟨sec, todo⟩) | msgs <;> rfl

theorem CallPhase.next_begins (a : Replies R) (i : ℕ) (phase : CallPhase R) : (phase.next a i).begins = false := by
  rcases phase with _ | (_ | ⟨sec, todo⟩) | msgs <;> rfl

theorem TfPhase.next_isTf (a : Replies R) (tf : TfPhase R) : (tf.next a).isTf = true := by
  rcases tf with _ | ⟨m, _ | ⟨f, frames⟩⟩ | _ | _ | (_ | ⟨msg, msgs⟩) <;> rfl

theorem TfPhase.next_begins (a : Replies R) {tf : TfPhase R} (h : tf ≠ .idle) : (tf.next a).begins = false := by
  rcases tf with _ | ⟨m, _ | ⟨f, frames⟩⟩ | _ | _ | (_ | ⟨msg, msgs⟩)
  · exact absurd rfl h
  all_goals rfl

section Step
variable [Field R] [LinearOrder R] {lib : Library R} {cfg : Config R}

/-- What a step does to the calls: nothing, a new call, or one step of one call. -/
inductive CallsStep (cfg : Config R) (s : Sys R) (l : Label R) (s' : Sys R) : Prop
  | same (hl : l.call? = none) (hcalls : s'.calls = s.calls)
  | begin {caller names} (hl : l.call? = none) (hbegins : l.begins = true) (htf : s'.tf = s.tf)
    (hcalls : s'.calls = s.calls ++ [⟨caller, names, .requesting⟩])
    (hready : caller = .syncThread → s.syncReady cfg = true)
  | own {i call phase} (hl : l.call? = some i) (hcall : s.calls[i]? = some call) (htf : s'.tf = s.tf)
    (hcalls : s'.calls = s.calls.set i { call with phase }) (hlt : phase.work < call.phase.work)

theorem callsStep {s s' : Sys R} {l : Label R} (hstep : step lib cfg s l = some s') : CallsStep cfg s l s' := by
  cases step_eq_some.mp hstep with
  | syncService => exact .begin rfl rfl rfl rfl (by simp)
  | planning objectNames => exact .begin rfl rfl rfl rfl (by simp)
  | takeRequest hready => exact .begin rfl rfl rfl rfl fun _ => hready
  | getObjects i call response getGltf hcall hphase =>
    refine .own rfl hcall rfl rfl ?_
    rw [hphase]
    cases response with
    | error e =>
      rw [Call.afterResponse]
      split_ifs
      · exact Prod.Lex.toLex_lt_toLex.mpr (.inl (by omega))
      · exact Prod.Lex.toLex_lt_toLex.mpr (.inl (by omega))
    | ok objects => exact Prod.Lex.toLex_lt_toLex.mpr (.inl (by omega))
  | fetchSection i call sec todo hcall hphase =>
    refine .own rfl hcall rfl rfl ?_
    rw [hphase]
    refine Prod.Lex.toLex_lt_toLex.mpr (.inr ⟨rfl, ?_⟩)
    have hsec := sec.weight_run s.data
    simp only [sectionsWeight, List.map_append, List.sum_append, List.map_cons, List.sum_cons] at hsec ⊢
    omega
  | snapshot i call ord now hcall hphase =>
    refine .own rfl hcall rfl rfl ?_
    rw [hphase]
    exact Prod.Lex.toLex_lt_toLex.mpr (.inl (by omega))
  | publish i call msg msgs hcall hphase =>
    refine .own rfl hcall rfl rfl ?_
    rw [hphase]
    exact Prod.Lex.toLex_lt_toLex.mpr (.inr ⟨rfl, by simp⟩)
  | _ => exact .same rfl rfl

/-- Only the callback's steps touch it, and they lower its work until it is idle again. -/
theorem tfWork_step {s s' : Sys R} {l : Label R} (hstep : step lib cfg s l = some s') :
    if l.isTf then (if l.begins then s.tf = .idle else s'.tf.work < s.tf.work) else s'.tf = s.tf := by
  cases step_eq_some.mp hstep with
  | tfMessage ord msg htf => exact htf
  | tfErase now m frame frames htf =>
    rw [htf]
    exact Prod.Lex.toLex_lt_toLex.mpr (.inr ⟨rfl, by simp only [List.length_cons]; omega⟩)
  | tfPublishRemove m msg frames htf =>
    rw [htf]
    exact Prod.Lex.toLex_lt_toLex.mpr (.inr ⟨rfl, by simp only; omega⟩)
  | tfQueue m htf =>
    rw [htf]
    exact Prod.Lex.toLex_lt_toLex.mpr (.inl (by omega))
  | tfUpdate ord now m htf =>
    rw [htf]
    exact Prod.Lex.toLex_lt_toLex.mpr (.inl (by omega))
  | tfPublishMove msg msgs htf =>
    rw [htf]
    exact Prod.Lex.toLex_lt_toLex.mpr (.inr ⟨rfl, by simp⟩)
  | tfReturn htf =>
    rw [htf]
    exact Prod.Lex.toLex_lt_toLex.mpr (.inr ⟨rfl, by simp⟩)
  | _ => rfl

/-- No step adds to the work of a call, and its own steps take some away. -/
theorem callWork_step {s s' : Sys R} {l : Label R} (i : ℕ) (hstep : step lib cfg s l = some s') :
    s'.callWork i ≤ s.callWork i ∧ (l.call? = some i → s'.callWork i < s.callWork i) := by
  cases callsStep hstep with
  | same hl hcalls => exact ⟨by rw [Sys.callWork, hcalls, Sys.callWork], by simp [hl]⟩
  | begin hl hbegins htf hcalls hready =>
    refine ⟨?_, by simp [hl]⟩
    rw [Sys.callWork, Sys.callWork, hcalls]
    rcases lt_trichotomy i s.calls.length with hlt | rfl | hlt
    · rw [List.getElem?_append_left hlt]
    · simp only [List.getElem?_concat_length, List.getElem?_length, Option.elim_some, Option.elim_none]
      exact Prod.Lex.toLex_le_toLex.mpr (.inl (by omega))
    · rw [List.getElem?_eq_none (by simp; omega), List.getElem?_eq_none (by omega)]
  | @own j call phase hl hcall htf hcalls hlt =>
    have hj : s'.callWork j < s.callWork j := by
      obtain ⟨hjlt, -⟩ := List.getElem?_eq_some_iff.mp hcall
      rw [Sys.callWork, Sys.callWork, hcalls, List.getElem?_set_self hjlt, hcall]
      exact hlt
    by_cases hij : j = i
    · subst hij
      exact ⟨hj.le, fun _ => hj⟩
    · refine ⟨?_, by simp [hl, hij]⟩
      rw [Sys.callWork, Sys.callWork, hcalls, List.getElem?_set_ne hij]

omit [Field R] [LinearOrder R] in
theorem sum_work_set {calls : List (Call R)} {i : ℕ} {call next : Call R} (hcall : calls[i]? = some call)
    (hlt : next.phase.work < call.phase.work) :
    ((calls.set i next).map fun c => c.phase.work).sum < (calls.map fun c => c.phase.work).sum := by
  induction calls generalizing i with
  | nil => simp at hcall
  | cons c calls ih =>
    cases i with
    | zero =>
      obtain rfl : c = call := by simpa using hcall
      simp only [List.set_cons_zero, List.map_cons, List.sum_cons]
      exact (add_lt_add_iff_right _).mpr hlt
    | succ i =>
      have hrest := ih (i := i) (by simpa using hcall)
      simp only [List.set_cons_succ, List.map_cons, List.sum_cons]
      exact (add_lt_add_iff_left _).mpr hrest

/-- A step that begins nothing does not add to the work; a call's and the callback's take some away. -/
theorem work_step {s s' : Sys R} {l : Label R} (hl : l.begins = false) (hstep : step lib cfg s l = some s') :
    s'.work ≤ s.work ∧ (l.call?.isSome ∨ l.isTf → s'.work < s.work) := by
  have htfstep := tfWork_step hstep
  cases callsStep hstep with
  | same hcall hcalls =>
    by_cases htf : l.isTf
    · rw [if_pos htf, if_neg (by simp [hl])] at htfstep
      have hlt : s'.work < s.work := by
        rw [Sys.work, Sys.work, hcalls]
        exact (add_lt_add_iff_left _).mpr htfstep
      exact ⟨hlt.le, fun _ => hlt⟩
    · rw [if_neg htf] at htfstep
      exact ⟨by rw [Sys.work, Sys.work, hcalls, htfstep], by simp [hcall, htf]⟩
  | begin hcall hbegins htf hcalls hready => simp [hl] at hbegins
  | own hcall hget htf hcalls hlt =>
    have hlt' : s'.work < s.work := by
      rw [Sys.work, Sys.work, hcalls, htf]
      exact (add_lt_add_iff_right _).mpr (sum_work_set hget hlt)
    exact ⟨hlt'.le, fun _ => hlt'⟩

variable (lib cfg) in
/-- A call that has not ended can take its next step, whatever the others do. -/
theorem call_enabled (a : Replies R) {s : Sys R} {i : ℕ} {call : Call R} (hcall : s.calls[i]? = some call)
    (hfinished : call.finished = false) : ∃ s', step lib cfg s (call.phase.next a i) = some s' := by
  cases hphase : call.phase with
  | requesting => exact ⟨_, step_eq_some.mpr (.getObjects s i call _ _ hcall hphase)⟩
  | fetching todo =>
    cases todo with
    | nil => exact ⟨_, step_eq_some.mpr (.snapshot s i call _ _ hcall hphase)⟩
    | cons sec todo => exact ⟨_, step_eq_some.mpr (.fetchSection s i call sec todo hcall hphase)⟩
  | publishing msgs =>
    cases msgs with
    | nil => simp [Call.finished, hphase] at hfinished
    | cons msg msgs => exact ⟨_, step_eq_some.mpr (.publish s i call msg msgs hcall hphase)⟩

variable (lib cfg) in
theorem tf_enabled (a : Replies R) (s : Sys R) : ∃ s', step lib cfg s (s.tf.next a) = some s' := by
  cases htf : s.tf with
  | idle => exact ⟨_, step_eq_some.mpr (.tfMessage s _ _ htf)⟩
  | removing m frames =>
    cases frames with
    | nil => exact ⟨_, step_eq_some.mpr (.tfQueue s m htf)⟩
    | cons frame frames => exact ⟨_, step_eq_some.mpr (.tfErase s _ m frame frames htf)⟩
  | publishRemove m msg frames => exact ⟨_, step_eq_some.mpr (.tfPublishRemove s m msg frames htf)⟩
  | updating m => exact ⟨_, step_eq_some.mpr (.tfUpdate s _ _ m htf)⟩
  | publishMoves msgs =>
    cases msgs with
    | nil => exact ⟨_, step_eq_some.mpr (.tfReturn s htf)⟩
    | cons msg msgs => exact ⟨_, step_eq_some.mpr (.tfPublishMove s msg msgs htf)⟩

/-- The step is the next one of a call or of the callback, with these answers. -/
def Draining (a : Replies R) (s : Sys R) (l : Label R) : Prop :=
  (∃ (i : ℕ) (call : Call R), s.calls[i]? = some call ∧ call.finished = false ∧ l = call.phase.next a i) ∨
    (s.tf ≠ .idle ∧ l = s.tf.next a)

theorem Draining.lowers {a : Replies R} {s s' : Sys R} {l : Label R} (h : Draining a s l)
    (hstep : step lib cfg s l = some s') : s'.work < s.work := by
  rcases h with ⟨i, call, -, -, rfl⟩ | ⟨htf, rfl⟩
  · exact (work_step (call.phase.next_begins a i) hstep).2 (.inl (by rw [CallPhase.next_call]; rfl))
  · exact (work_step (TfPhase.next_begins a htf) hstep).2 (.inr (s.tf.next_isTf a))

variable (lib cfg) in
/-- Where the system is not at rest, some thread can take its next step. -/
theorem exists_draining (a : Replies R) {s : Sys R} (hs : ¬s.AtRest) :
    ∃ l s', Draining a s l ∧ step lib cfg s l = some s' := by
  by_cases htf : s.tf = .idle
  · obtain ⟨call, hmem, hfinished⟩ : ∃ call ∈ s.calls, call.finished = false := by
      by_contra hnone
      exact hs ⟨fun call hcall => by_contra fun hf => hnone ⟨call, hcall, by simpa using hf⟩, htf⟩
    obtain ⟨i, hi⟩ := List.mem_iff_getElem?.mp hmem
    obtain ⟨s', hstep⟩ := call_enabled lib cfg a hi hfinished
    exact ⟨_, s', .inl ⟨i, call, hi, hfinished, rfl⟩, hstep⟩
  · obtain ⟨s', hstep⟩ := tf_enabled lib cfg a s
    exact ⟨_, s', .inr ⟨htf, rfl⟩, hstep⟩

/-- The step is the next one of some thread, with any answers. -/
def Drains (s : Sys R) (l : Label R) : Prop := ∃ a, Draining a s l

variable (lib cfg) in
/-- In every state a call that has not ended and a callback with a message can take their
next step, whatever they are answered, and where no such step is possible everything is
at rest; no run of such steps goes on forever, and with any answers one leads to rest. -/
theorem comes_to_rest (s : Sys R) :
    (∀ (a : Replies R) (i : ℕ) (call : Call R), s.calls[i]? = some call → call.finished = false →
      ∃ s', step lib cfg s (call.phase.next a i) = some s') ∧
    (∀ a, ∃ s', step lib cfg s (s.tf.next a) = some s') ∧
    (∀ a, (∀ l s', Draining a s l → step lib cfg s l ≠ some s') → s.AtRest) ∧
    (∀ states labels, states 0 = s → EndlessRun (step lib cfg) states labels → ∃ n, ¬Drains (states n) (labels n)) ∧
    ∀ a, ∃ ls t, exec (step lib cfg) s ls = some t ∧ Along (step lib cfg) (Draining a) s ls ∧ t.AtRest := by
  refine ⟨fun a i call => call_enabled lib cfg a, fun a => tf_enabled lib cfg a s, fun a hstuck => ?_,
    fun states labels _ h => ?_, fun a => ?_⟩
  · by_contra hs
    obtain ⟨l, s', hl, hstep⟩ := exists_draining lib cfg a hs
    exact hstuck l s' hl hstep
  · obtain ⟨n, hn⟩ := WellFounded.not_rel_apply_succ (r := (· < ·)) fun n => (states n).work
    exact ⟨n, fun ⟨a, ha⟩ => hn (ha.lowers (h.next n))⟩
  · refine exists_exec_done Sys.work (fun t ht => ?_) s
    obtain ⟨l, t', hl, hstep⟩ := exists_draining lib cfg a ht
    exact ⟨l, t', hl, hstep, hl.lowers hstep⟩

/-! ### Endless runs -/

variable {states : ℕ → Sys R} {labels : ℕ → Label R}

theorem finite_call_steps (h : EndlessRun (step lib cfg) states labels) (i : ℕ) :
    {n | (labels n).call? = some i}.Finite :=
  h.finite_lowering (fun l => l.call? = some i) (fun s => s.callWork i) fun _ _ _ hstep => callWork_step i hstep

/-- Where finitely many TF messages come, the callback takes finitely many steps for them. -/
theorem finite_tf_steps (h : EndlessRun (step lib cfg) states labels)
    (hmessages : {n | (labels n).isTf = true ∧ (labels n).begins = true}.Finite) :
    {n | (labels n).isTf = true ∧ (labels n).begins = false}.Finite := by
  refine h.finite_lowering_of_resets (fun l => l.isTf = true ∧ l.begins = false)
    (fun l => l.isTf = true ∧ l.begins = true) (fun s => s.tf.work) (fun s l s' hl hstep => ?_) hmessages
  have htf := tfWork_step hstep
  by_cases his : l.isTf
  · have hbegins : l.begins = false := by simpa [his] using hl
    rw [if_pos his, if_neg (by simp [hbegins])] at htf
    exact ⟨htf.le, fun _ => htf⟩
  · rw [if_neg his] at htf
    exact ⟨by rw [htf], fun hlowers => absurd hlowers.1 his⟩

/-- A thread gets its turn as long as it has work: from every moment on, it is idle at
some moment or takes the step there. -/
def GetsTurns (idle : Sys R → Prop) (own : Sys R → Label R → Prop) (states : ℕ → Sys R)
    (labels : ℕ → Label R) : Prop :=
  ∀ n, ∃ m, n ≤ m ∧ (idle (states m) ∨ own (states m) (labels m))

/-- In every endless run each call takes finitely many steps, and it ends for good if it
gets its turns; the callback comes to the end of each TF message if it gets its own. -/
theorem threads_return (h : EndlessRun (step lib cfg) states labels) :
    (∀ i, {n | (labels n).call? = some i}.Finite) ∧
    (∀ i, GetsTurns (fun s => s.Ended i) (fun _ l => l.call? = some i) states labels →
      ∃ n, ∀ m, n ≤ m → (states m).Ended i) ∧
    (GetsTurns (fun s => s.tf = .idle) (fun _ l => l.isTf = true) states labels →
      ∀ n, ∃ m, n ≤ m ∧ (states m).tf = .idle) := by
  refine ⟨finite_call_steps h, fun i hturns => ?_, fun hturns n => ?_⟩
  · exact h.settles (fun s => s.Ended i) (fun n => (labels n).call? = some i) (finite_call_steps h i) hturns
      fun _ _ _ hs hstep => (ended_step hs hstep).1
  · by_contra hnever
    have hbusy : ∀ m, n ≤ m → (states m).tf ≠ .idle := fun m hm hidle => hnever ⟨m, hm, hidle⟩
    -- a callback that is never idle again is given no TF message again
    have hnomessage : ∀ m, n ≤ m → ¬((labels m).isTf = true ∧ (labels m).begins = true) := by
      rintro m hm ⟨his, hbegins⟩
      have htf := tfWork_step (h.next m)
      rw [if_pos his, if_pos hbegins] at htf
      exact hbusy m hm htf
    have hmessages : {m | (labels m).isTf = true ∧ (labels m).begins = true}.Finite :=
      (Set.finite_lt_nat n).subset fun m hm => by
        by_contra hnm
        exact hnomessage m (not_lt.mp hnm) hm
    obtain ⟨k, hk⟩ := (finite_tf_steps h hmessages).bddAbove
    obtain ⟨m, hm, hidle | hown⟩ := hturns (max n (k + 1))
    · exact hbusy m (by omega) hidle
    · have hbegins : (labels m).begins = false := by simpa [hown] using hnomessage m (by omega)
      have hle : m ≤ k := hk ⟨hown, hbegins⟩
      omega

end Step

/-! ### The sync thread -/

/-- The sync thread is in this call. -/
def Call.syncing (call : Call R) : Bool := decide (call.caller = .syncThread) && !call.finished

/-- The sync thread is in one call at a time. -/
def Sys.SyncAlone (s : Sys R) : Prop :=
  ∀ (i j : ℕ) (ci cj : Call R), s.calls[i]? = some ci → s.calls[j]? = some cj →
    ci.syncing = true → cj.syncing = true → i = j

theorem unfinished_of_work_lt {call : Call R} {phase : CallPhase R} (hlt : phase.work < call.phase.work) :
    call.finished = false := by
  unfold Call.finished
  split
  · rename_i hphase
    rw [hphase, CallPhase.work] at hlt
    cases phase with
    | _ => simp [CallPhase.work, Prod.Lex.toLex_lt_toLex] at hlt
  · rfl

/-- A call that the sync thread is in after its step was one before it. -/
theorem syncing_of_set {calls : List (Call R)} {k m : ℕ} {call c : Call R} {phase : CallPhase R}
    (hcall : calls[k]? = some call) (hlt : phase.work < call.phase.work)
    (hc : (calls.set k { call with phase })[m]? = some c) (hsync : c.syncing = true) :
    ∃ c', calls[m]? = some c' ∧ c'.syncing = true := by
  rcases getElem?_set_eq_some hc with ⟨rfl, rfl⟩ | ⟨-, hold⟩
  · refine ⟨call, hcall, ?_⟩
    simp only [Call.syncing, Bool.and_eq_true] at hsync ⊢
    exact ⟨hsync.1, by simp [unfinished_of_work_lt hlt]⟩
  · exact ⟨c, hold, hsync⟩

section Sync
variable [Field R] [LinearOrder R] {lib : Library R} {cfg : Config R}

theorem not_syncing_of_ready {s : Sys R} (hready : s.syncReady cfg = true) :
    ∀ call ∈ s.calls, call.syncing = false := by
  intro call hcall
  simp only [Sys.syncReady, Bool.and_eq_true, List.all_eq_true, Bool.or_eq_true, decide_eq_true_eq] at hready
  rcases hready.2 call hcall with hne | hfinished
  · simp [Call.syncing, hne]
  · simp [Call.syncing, hfinished]

theorem syncAlone_step {s s' : Sys R} {l : Label R} (hi : s.SyncAlone) (hstep : step lib cfg s l = some s') :
    s'.SyncAlone := by
  intro i j ci cj hci hcj hsi hsj
  cases callsStep hstep with
  | same hl hcalls =>
    rw [hcalls] at hci hcj
    exact hi i j ci cj hci hcj hsi hsj
  | @begin caller names hl hbegins htf hcalls hready =>
    rw [hcalls] at hci hcj
    -- the new call is the sync thread's only if the thread was in no other
    have hnew : ∀ {k : ℕ} {c : Call R}, s.calls[k]? = some c → c.syncing = true → caller ≠ .syncThread := by
      intro k c hc hsync hcaller
      rw [not_syncing_of_ready (hready hcaller) c (List.mem_of_getElem? hc)] at hsync
      cases hsync
    have hcaller : ∀ {c : Call R}, c = ⟨caller, names, .requesting⟩ → c.syncing = true → caller = .syncThread := by
      rintro c rfl hsync
      simp only [Call.syncing, Bool.and_eq_true, decide_eq_true_eq] at hsync
      exact hsync.1
    rcases getElem?_append_singleton hci with hci | ⟨hlast, hci⟩
    · rcases getElem?_append_singleton hcj with hcj | ⟨-, hcj⟩
      · exact hi i j ci cj hci hcj hsi hsj
      · exact absurd (hcaller hcj hsj) (hnew hci hsi)
    · rcases getElem?_append_singleton hcj with hcj | ⟨hlast', -⟩
      · exact absurd (hcaller hci hsi) (hnew hcj hsj)
      · rw [hlast, hlast']
  | @own k call phase hl hcall htf hcalls hlt =>
    rw [hcalls] at hci hcj
    obtain ⟨ci', hci', hsi'⟩ := syncing_of_set hcall hlt hci hsi
    obtain ⟨cj', hcj', hsj'⟩ := syncing_of_set hcall hlt hcj hsj
    exact hi i j ci' cj' hci' hcj' hsi' hsj'

theorem syncAlone_of_reachable {s : Sys R} (h : Reachable (step lib cfg) Sys.init s) : s.SyncAlone :=
  h.invariant (by intro i j ci cj hci; simp [Sys.init] at hci) fun _ _ _ => syncAlone_step

/-! ### Shutdown -/

omit [Field R] [LinearOrder R] in
theorem FetchSection.run_shutdown (σ : Data R) (sec : FetchSection R) : (sec.run σ).1.shutdown = σ.shutdown := by
  cases sec with
  | item x =>
    rcases x with ⟨frame, id, pose, ⟨ref, _ | data⟩ | solid⟩
    · simp only [FetchSection.run]
      split_ifs <;> rfl
    · simp only [FetchSection.run]
      split_ifs <;> rfl
    · rfl
  | emplace x gltf =>
    simp only [FetchSection.run, Data.emplace]
    split_ifs <;> rfl
  | record x => rfl

/-- The flag stays set, and then the sync thread takes no more requests: it begins no call. -/
theorem shutdown_step {s s' : Sys R} {l : Label R} (hs : s.data.shutdown = true)
    (hstep : step lib cfg s l = some s') : s'.data.shutdown = true ∧ l ≠ .takeRequest := by
  cases step_eq_some.mp hstep with
  | takeRequest hready => simp [Sys.syncReady, hs] at hready
  | fetchSection i call sec todo hcall hphase =>
    exact ⟨by rw [← hs]; exact sec.run_shutdown s.data, by simp⟩
  | tfQueue m htf =>
    refine ⟨?_, by simp⟩
    rw [← hs]
    simp only [Data.queueObjects]
    split_ifs <;> rfl
  | tfUpdate ord now m htf =>
    obtain ⟨poses, times, hdata⟩ := updateCollisionObjects_data lib cfg ord now m.transforms s.data
    exact ⟨by rw [hdata]; exact hs, by simp⟩
  | shutdown => exact ⟨rfl, by simp⟩
  | _ => exact ⟨hs, by simp⟩

/-- The step is one of the sync thread. -/
def SyncStep (s : Sys R) (l : Label R) : Prop :=
  l = .takeRequest ∨ ∃ (i : ℕ) (call : Call R), l.call? = some i ∧ s.calls[i]? = some call ∧ call.caller = .syncThread

/-- The sync thread is in no call and takes no request: `join` returns. -/
def Sys.Joined (s : Sys R) : Prop := s.data.shutdown = true ∧ ∀ call ∈ s.calls, call.syncing = false

/-- After `shutdown` the calls of the sync thread are those it has made before. -/
structure Sys.ShutDown (bound : ℕ) (s : Sys R) : Prop where
  flag : s.data.shutdown = true
  calls : ∀ (i : ℕ) (call : Call R), s.calls[i]? = some call → call.caller = .syncThread → i < bound

omit [Field R] [LinearOrder R] in
theorem shutDown_length {s : Sys R} (h : s.data.shutdown = true) : s.ShutDown s.calls.length :=
  ⟨h, fun _ _ hcall _ => (List.getElem?_eq_some_iff.mp hcall).1⟩

theorem not_syncReady_of_shutdown {s : Sys R} (h : s.data.shutdown = true) : s.syncReady cfg ≠ true := by
  simp [Sys.syncReady, h]

theorem ShutDown.step {bound : ℕ} {s s' : Sys R} {l : Label R} (h : s.ShutDown bound)
    (hstep : step lib cfg s l = some s') : s'.ShutDown bound := by
  refine ⟨(shutdown_step h.flag hstep).1, fun i call hcall hcaller => ?_⟩
  cases callsStep hstep with
  | same hl hcalls =>
    rw [hcalls] at hcall
    exact h.calls i call hcall hcaller
  | begin hl hbegins htf hcalls hready =>
    rw [hcalls] at hcall
    rcases getElem?_append_singleton hcall with hcall | ⟨-, rfl⟩
    · exact h.calls i call hcall hcaller
    · exact absurd (hready hcaller) (not_syncReady_of_shutdown h.flag)
  | @own k c phase hl hget htf hcalls hlt =>
    rw [hcalls] at hcall
    rcases getElem?_set_eq_some hcall with ⟨rfl, rfl⟩ | ⟨-, hold⟩
    · exact h.calls _ c hget hcaller
    · exact h.calls i call hold hcaller

theorem joined_step {s s' : Sys R} {l : Label R} (h : s.Joined) (hstep : step lib cfg s l = some s') :
    s'.Joined := by
  refine ⟨(shutdown_step h.1 hstep).1, fun call hcall => ?_⟩
  by_contra hsync
  rw [Bool.not_eq_false] at hsync
  have hwas : ∃ c ∈ s.calls, c.syncing = true := by
    cases callsStep hstep with
    | same hl hcalls => exact ⟨call, hcalls ▸ hcall, hsync⟩
    | @begin caller names hl hbegins htf hcalls hready =>
      rw [hcalls, List.mem_append, List.mem_singleton] at hcall
      rcases hcall with hcall | rfl
      · exact ⟨call, hcall, hsync⟩
      · simp only [Call.syncing, Bool.and_eq_true, decide_eq_true_eq] at hsync
        exact absurd (hready hsync.1) (not_syncReady_of_shutdown h.1)
    | own hl hget htf hcalls hlt =>
      obtain ⟨m, hm⟩ := List.mem_iff_getElem?.mp hcall
      rw [hcalls] at hm
      obtain ⟨c, hc, hcsync⟩ := syncing_of_set hget hlt hm hsync
      exact ⟨c, List.mem_of_getElem? hc, hcsync⟩
  obtain ⟨c, hc, hcsync⟩ := hwas
  rw [h.2 c hc] at hcsync
  cases hcsync

variable {states : ℕ → Sys R} {labels : ℕ → Label R}

/-- Once `shutdown` is set, the sync thread takes finitely many steps more. -/
theorem finite_sync_steps (h : EndlessRun (step lib cfg) states labels) {k : ℕ}
    (hshutdown : (states k).data.shutdown = true) : {n | SyncStep (states n) (labels n)}.Finite := by
  let bound := (states k).calls.length
  have hafter : ∀ n, k ≤ n → (states n).ShutDown bound := fun n hn =>
    h.stable (shutDown_length hshutdown) (fun _ _ _ hi hstep => ShutDown.step hi hstep) hn
  have hown : (⋃ i ∈ Finset.range bound, {n | (labels n).call? = some i}).Finite :=
    Set.Finite.biUnion (Finset.finite_toSet _) fun i _ => finite_call_steps h i
  refine ((Set.finite_lt_nat k).union hown).subset fun n hn => ?_
  by_cases hnk : n < k
  · exact .inl hnk
  · have hs := hafter n (not_lt.mp hnk)
    rcases hn with htake | ⟨i, call, hi, hcall, hcaller⟩
    · exact absurd htake (shutdown_step hs.flag (h.next n)).2
    · exact .inr (Set.mem_biUnion (Finset.mem_range.mpr (hs.calls i call hcall hcaller)) hi)

/-- The destructor's `join` returns: after `shutdown` the sync thread, if it gets its
turns, ends the call it is in and begins no other. -/
theorem join_returns (h : EndlessRun (step lib cfg) states labels) {k : ℕ}
    (hshutdown : (states k).data.shutdown = true) (hturns : GetsTurns Sys.Joined SyncStep states labels) :
    ∃ n, ∀ m, n ≤ m → (states m).Joined := by
  exact h.settles Sys.Joined (fun n => SyncStep (states n) (labels n)) (finite_sync_steps h hshutdown) hturns
    fun _ _ _ hi hstep => joined_step hi hstep

end Sync

/-! ### A node that is shut down -/

theorem shutdown_again [Field R] [LinearOrder R] {lib : Library R} {cfg : Config R} {s : Sys R}
    (h : s.data.shutdown = true) : step lib cfg s .shutdown = some s := by
  rcases s with ⟨data, calls, tf, published⟩
  rcases data
  obtain rfl := h
  rfl

namespace Sample

/-- The sync thread fetches the mesh of a part, and the callback has a message of the part,
while the node is shut down. -/
def fetchedAtShutdown : List (Label ℚ) :=
  [.takeRequest, .tfMessage (.increasing Name) [transform "part/whole".toList],
    .getObjects 0 (.ok [object "part".toList (meshGeometry "a".toList)]) (client []).getGltf, .fetchSection 0,
    .tfQueue, .fetchSection 0, .shutdown, .fetchSection 0, .tfUpdate (.increasing Name) 0,
    .snapshot 0 (.increasing Name) 1, .tfPublishMove, .publish 0, .tfReturn]

/-- The only call has ended, the callback is idle, and an ADD and a MOVE are published. -/
def allReturned (s : Sys ℚ) : Bool :=
  s.data.shutdown && (s.calls.map Call.finished == [true]) &&
    (s.published.map (fun msg => msg.operation) == [.move, .add]) &&
      match s.tf with
      | .idle => true
      | _ => false

theorem exists_returned : ∃ t, exec (step library Config.default) Sys.init fetchedAtShutdown = some t ∧
    t.data.shutdown = true ∧ t.published.length = 2 ∧ t.tf = .idle ∧ t.Ended 0 ∧ t.Joined := by
  obtain ⟨t, hrun, ht⟩ : ∃ t, exec (step library Config.default) Sys.init fetchedAtShutdown = some t ∧
      allReturned t = true := (Option.any_eq_true _ _).mp (by decide +kernel)
  simp only [allReturned, Bool.and_eq_true, beq_iff_eq] at ht
  obtain ⟨⟨⟨hshutdown, hcalls⟩, hpublished⟩, hidle⟩ := ht
  obtain ⟨call, hcall, hfinished⟩ := List.map_eq_singleton_iff.mp hcalls
  refine ⟨t, hrun, hshutdown, ?_, ?_, ⟨call, by rw [hcall]; rfl, hfinished⟩, hshutdown, ?_⟩
  · exact (List.length_map _).symm.trans (congrArg List.length hpublished)
  · split at hidle
    · assumption
    · cases hidle
  · rw [hcall]
    exact List.forall_mem_singleton.mpr (by simp [Call.syncing, hfinished])

end Sample

/-- A fetch of a mesh and a TF message come to their end. -/
theorem threads_return_shutdown : ∃ t states labels, EndlessRun (step Sample.library Config.default) states labels ∧
    states 0 = Sys.init ∧ (∀ n, Sample.fetchedAtShutdown.length ≤ n → states n = t) ∧ t.published.length = 2 ∧
    (∀ i, {n | (labels n).call? = some i}.Finite) ∧ (∃ n, ∀ m, n ≤ m → (states m).Ended 0) ∧
      ∀ n, ∃ m, n ≤ m ∧ (states m).tf = .idle := by
  obtain ⟨t, hrun, hshutdown, hpublished, hidle, hended, -⟩ := Sample.exists_returned
  have hendless := endlessRun_of_exec hrun (shutdown_again hshutdown)
  have hlast (n : ℕ) (hn : Sample.fetchedAtShutdown.length ≤ n) := runStates_of_le hrun hn
  obtain ⟨hfinite, hcalls, htf⟩ := threads_return hendless
  refine ⟨t, _, _, hendless, rfl, hlast, hpublished, hfinite, hcalls 0 fun n => ⟨n + 13, by omega, .inl ?_⟩,
    htf fun n => ⟨n + 13, by omega, .inl ?_⟩⟩
  · rwa [hlast (n + 13) (Nat.le_add_left 13 n)]
  · rwa [hlast (n + 13) (Nat.le_add_left 13 n)]

theorem join_returns_shutdown : ∃ states labels, EndlessRun (step Sample.library Config.default) states labels ∧
    states 0 = Sys.init ∧ ∃ n, ∀ m, n ≤ m → (states m).Joined := by
  obtain ⟨t, hrun, hshutdown, -, -, -, hjoined⟩ := Sample.exists_returned
  have hendless := endlessRun_of_exec hrun (shutdown_again hshutdown)
  have hlast (n : ℕ) (hn : Sample.fetchedAtShutdown.length ≤ n) := runStates_of_le hrun hn
  refine ⟨_, _, hendless, rfl, join_returns hendless (k := 13) ?_ fun n => ⟨n + 13, by omega, .inl ?_⟩⟩
  · rwa [hlast 13 le_rfl]
  · rwa [hlast (n + 13) (Nat.le_add_left 13 n)]

end MoveitPlanning.Scene
