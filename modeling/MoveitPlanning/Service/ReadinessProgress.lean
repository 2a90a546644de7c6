import MoveitPlanning.Foundation.Endless
import MoveitPlanning.Service.Readiness

/-! How the thread that makes the node ready comes to its end. It goes round its loop after
each failure: the service of move_group is not there, or the query of the planning scene is
not answered in time, or with an exception, or with a scene that does not verify. Every
other step of it lowers a rank, so a node whose failures come to an end becomes ready. At
shutdown the thread is let go: once the flag is stored or the context shut down, it takes at
most six more steps, whatever they meet, and `main` can join it. -/

namespace MoveitPlanning.Service

open Foundation Scene Grasping

/-- The step sends the thread back to the head of its loop. -/
def SyncLabel.Fails (cfg : NodeConfig) : SyncLabel → Prop
  | waitForService available => available = false
  | queryScene (.response scene) => cfg.verifies scene = false
  | queryScene _ => True
  | _ => False

def NodeLabel.Fails (cfg : NodeConfig) : NodeLabel → Prop
  | sync l => l.Fails cfg
  | _ => False

def NodeLabel.isSync : NodeLabel → Bool
  | sync _ => true
  | _ => false

/-- The thread keeps getting its turns until it has ended: what it waits for has a timeout. -/
def ThreadTurns (states : ℕ → NodeState) (labels : ℕ → NodeLabel) : Prop :=
  ∀ n, ∃ m, n ≤ m ∧ ((states m).sync = .ended ∨ (labels m).isSync = true)

/-! ### Ranks of the thread -/

/-- The steps to the end when none of them fails. -/
def SyncPc.rank : SyncPc → ℕ
  | ended => 0
  | querying => 1
  | checkExpected => 2
  | synchronizing => 3
  | waiting => 4
  | checkLoop => 5
  | start => 6
  | sleeping => 6

/-- The steps to the end when the head of the loop is left. -/
def SyncPc.drainRank : SyncPc → ℕ
  | ended => 0
  | checkLoop => 1
  | start => 2
  | sleeping => 2
  | querying => 3
  | checkExpected => 4
  | synchronizing => 5
  | waiting => 6

/-- The loop is left at its head. -/
def NodeState.Leaving (s : NodeState) : Prop := s.sceneReady = true ∨ s.ok = false

section Steps
variable {cfg : NodeConfig} {ok sceneReady sceneReady' : Bool} {pc pc' : SyncPc} {l : SyncLabel}

theorem syncStep_rank (h : syncStep cfg ok sceneReady pc l = some (pc', sceneReady')) (hl : ¬l.Fails cfg) :
    pc'.rank < pc.rank := by
  unfold syncStep at h
  split at h
  · split_ifs at h <;> cases h <;> decide
  · cases h
    split_ifs <;> decide
  · rename_i available
    have havailable : available = true := by simpa [SyncLabel.Fails] using hl
    cases h
    rw [havailable, Bool.not_true, if_neg Bool.false_ne_true]
    split_ifs <;> decide
  · cases h
    decide
  · split_ifs at h <;> cases h <;> decide
  · rename_i scene
    have hscene : cfg.verifies scene = true := by simpa [SyncLabel.Fails] using hl
    rw [if_pos hscene] at h
    cases h
    decide
  · rename_i outcome hresponse
    cases outcome with
    | response scene => exact absurd rfl (hresponse scene)
    | _ => exact absurd trivial hl
  · cases h
    decide
  · cases h

theorem syncStep_drainRank (h : syncStep cfg ok sceneReady pc l = some (pc', sceneReady'))
    (hleave : sceneReady = true ∨ ok = false) : pc'.drainRank < pc.drainRank := by
  unfold syncStep at h
  split at h
  · split_ifs at h <;> cases h <;> decide
  · cases h
    have hloop : (ok && !sceneReady) = false := by
      rcases hleave with rfl | rfl <;> simp
    rw [hloop]
    decide
  · cases h
    split_ifs <;> decide
  · cases h
    decide
  · split_ifs at h <;> cases h <;> decide
  · split_ifs at h <;> cases h <;> decide
  · cases h
    decide
  · cases h
    decide
  · cases h

theorem nodeStep_thread {s t : NodeState} {l : NodeLabel} (h : nodeStep cfg s l = some t) :
    (l.isSync = false ∧ t.sync = s.sync) ∨
      ∃ l', l = .sync l' ∧ syncStep cfg s.ok s.sceneReady s.sync l' = some (t.sync, t.sceneReady) := by
  rcases nodeStep_cases h with ⟨l, rfl, hsync, -⟩ | ⟨hsync, -⟩ | ⟨rfl, -, rfl⟩
  · exact .inr ⟨l, rfl, hsync⟩
  · cases l with
    | sync l =>
      obtain ⟨r, hr, rfl⟩ := Option.map_eq_some_iff.mp h
      exact .inr ⟨l, rfl, hr⟩
    | _ => exact .inl ⟨rfl, hsync⟩
  · exact .inl ⟨rfl, rfl⟩

theorem nodeStep_rank {s t : NodeState} {l : NodeLabel} (hl : ¬l.Fails cfg) (h : nodeStep cfg s l = some t) :
    t.sync.rank ≤ s.sync.rank ∧ (l.isSync = true → t.sync.rank < s.sync.rank) := by
  rcases nodeStep_thread h with ⟨hother, hsync⟩ | ⟨l, rfl, hsync⟩
  · rw [hsync, hother]
    exact ⟨le_rfl, fun his => absurd his Bool.false_ne_true⟩
  · have hlt := syncStep_rank hsync hl
    exact ⟨hlt.le, fun _ => hlt⟩

theorem leaving_step {s t : NodeState} {l : NodeLabel} (hs : s.Leaving) (h : nodeStep cfg s l = some t) :
    t.Leaving := by
  have hok : t.ok = s.ok ∨ t.ok = false := by
    cases l with
    | sync l =>
      obtain ⟨r, -, rfl⟩ := Option.map_eq_some_iff.mp h
      exact .inl rfl
    | contextShutdown =>
      cases h
      exact .inr rfl
    | motionPlanHandle =>
      rw [nodeStep] at h
      split at h
      · cases h
        exact .inl rfl
      · cases h
    | _ =>
      obtain ⟨-, heq⟩ := Option.ite_none_right_eq_some.mp h
      cases heq
      exact .inl rfl
  rcases hs with hready | hdown
  · rcases nodeStep_sceneReady h with heq | ⟨htrue, -⟩
    · exact .inl (heq.trans hready)
    · exact .inl htrue
  · rcases hok with heq | hdown'
    · exact .inr (heq.trans hdown)
    · exact .inr hdown'

theorem nodeStep_drainRank {s t : NodeState} {l : NodeLabel} (hs : s.Leaving) (h : nodeStep cfg s l = some t) :
    t.sync.drainRank + (if l.isSync then 1 else 0) ≤ s.sync.drainRank := by
  rcases nodeStep_thread h with ⟨hother, hsync⟩ | ⟨l, rfl, hsync⟩
  · rw [hsync, hother]
    simp
  · exact syncStep_drainRank hsync hs

theorem ended_step {s t : NodeState} {l : NodeLabel} (hs : s.sync = .ended) (h : nodeStep cfg s l = some t) :
    t.sync = .ended := by
  rcases nodeStep_thread h with ⟨-, hsync⟩ | ⟨l, rfl, hsync⟩
  · rw [hsync, hs]
  · rw [hs] at hsync
    cases l <;> cases hsync

/-- Where the thread has ended and where `main` has stopped, the loop is left. -/
def NodeState.Ends (s : NodeState) : Prop :=
  (s.sync = .ended → s.Leaving) ∧ (s.main = .stopped → s.sceneReady = true)

theorem leaving_of_syncStep (h : syncStep cfg ok sceneReady pc l = some (.ended, sceneReady')) :
    sceneReady' = true ∨ ok = false := by
  unfold syncStep at h
  split at h
  · split_ifs at h with hmock
    · cases h
      exact .inl rfl
    · cases h
  · split_ifs at h with hloop
    · cases h
    · cases h
      cases ok with
      | true => exact .inl (by simpa using hloop)
      | false => exact .inr rfl
  · split_ifs at h <;> cases h
  · cases h
  · split_ifs at h with hexpect
    · cases h
      exact .inl rfl
    · cases h
  · split_ifs at h with hscene
    · cases h
      exact .inl rfl
    · cases h
  · cases h
  · cases h
  · cases h

theorem stopped_of_step {s t : NodeState} {l : NodeLabel} (h : nodeStep cfg s l = some t) (ht : t.main = .stopped) :
    s.main = .stopped ∨ l = .storeReady := by
  cases l with
  | storeReady => exact .inr rfl
  | sync l =>
    obtain ⟨r, -, rfl⟩ := Option.map_eq_some_iff.mp h
    exact .inl ht
  | contextShutdown =>
    cases h
    exact .inl ht
  | motionPlanHandle =>
    rw [nodeStep] at h
    split at h
    · cases h
      cases ht
    · cases h
  | planGrasps goal =>
    obtain ⟨-, heq⟩ := Option.ite_none_right_eq_some.mp h
    cases heq
    exact .inl ht
  | _ =>
    obtain ⟨-, heq⟩ := Option.ite_none_right_eq_some.mp h
    cases heq
    cases ht

theorem ends_step {s t : NodeState} {l : NodeLabel} (hs : s.Ends) (h : nodeStep cfg s l = some t) : t.Ends := by
  constructor
  · intro hended
    rcases nodeStep_thread h with ⟨-, hsync⟩ | ⟨l, rfl, hsync⟩
    · exact leaving_step (hs.1 (hsync.symm.trans hended)) h
    · obtain ⟨r, -, rfl⟩ := Option.map_eq_some_iff.mp h
      rw [hended] at hsync
      exact leaving_of_syncStep hsync
  · intro hstopped
    rcases stopped_of_step h hstopped with hbefore | rfl
    · rcases nodeStep_sceneReady h with heq | ⟨htrue, -⟩
      · exact heq.trans (hs.2 hbefore)
      · exact htrue
    · obtain ⟨-, heq⟩ := Option.ite_none_right_eq_some.mp h
      cases heq
      rfl

theorem ends_of_reachable {s : NodeState} (h : Reachable (nodeStep cfg) .init s) : s.Ends := by
  apply h.invariant
  · constructor
    · intro hsync
      cases hsync
    · intro hmain
      cases hmain
  · intro _ _ _ hs hstep
    exact ends_step hs hstep

end Steps

section Run
variable {cfg : NodeConfig} {states : ℕ → NodeState} {labels : ℕ → NodeLabel}

/-- A node whose thread fails only finitely often, and gets its turns, becomes ready for
good, unless its context is shut down. -/
theorem ready_unless_failures (h : EndlessRun (nodeStep cfg) states labels)
    (hinit : Reachable (nodeStep cfg) .init (states 0)) (hturns : ThreadTurns states labels)
    (hfails : {n | (labels n).Fails cfg}.Finite) : ∃ n, ∀ m, n ≤ m →
      (states m).sync = .ended ∧ ((states m).ok = true → (states m).sceneReady = true) := by
  have hfinite : {n | (labels n).isSync = true}.Finite :=
    h.finite_lowering_of_resets (fun l => l.isSync = true) (NodeLabel.Fails cfg) (fun s => s.sync.rank)
      (fun _ _ _ hl hstep => nodeStep_rank hl hstep) hfails
  obtain ⟨n, hn⟩ := h.settles (fun s => s.sync = .ended) (fun n => (labels n).isSync = true) hfinite hturns
    fun _ _ _ hs hstep => ended_step hs hstep
  refine ⟨n, ?_⟩
  intro m hm
  have hends := ends_of_reachable (h.reachable hinit m)
  refine ⟨hn m hm, ?_⟩
  intro hok
  rcases hends.1 (hn m hm) with hready | hdown
  · exact hready
  · rw [hok] at hdown
    cases hdown

/-- Once `main` has stored the flag, or the context is shut down, the thread takes at most
six more steps, and ends when it gets its turns. -/
theorem main_joins (h : EndlessRun (nodeStep cfg) states labels)
    (hinit : Reachable (nodeStep cfg) .init (states 0)) {k : ℕ}
    (hk : (states k).main = .stopped ∨ (states k).ok = false) :
    (∀ n, (((List.range n).map fun i => labels (k + i)).countP NodeLabel.isSync) ≤ 6) ∧
      (ThreadTurns states labels → ∃ n, ∀ m, n ≤ m → (states m).sync = .ended) := by
  have hends := ends_of_reachable (h.reachable hinit k)
  have hleaving : (states k).Leaving := hk.imp hends.2 id
  constructor
  · intro n
    have hcount := exec_countP_add_le NodeLabel.isSync (fun s => s.sync.drainRank)
      (fun _ _ _ hs hstep => ⟨leaving_step hs hstep, nodeStep_drainRank hs hstep⟩) (h.exec_stretch k n) hleaving
    have hrank : (states k).sync.drainRank ≤ 6 := by cases (states k).sync <;> decide
    omega
  · intro hturns
    have hfinite : {n | (labels n).isSync = true}.Finite := by
      apply finite_lowering_from (f := fun n => (states n).sync.drainRank) k
      intro n hn
      have hleavingAt : (states n).Leaving := h.stable hleaving (fun _ _ _ hs hstep => leaving_step hs hstep) hn
      have hrank := nodeStep_drainRank hleavingAt (h.next n)
      constructor
      · omega
      · intro his
        rw [if_pos his] at hrank
        exact hrank
    exact h.settles (fun s => s.sync = .ended) (fun n => (labels n).isSync = true) hfinite hturns
      fun _ _ _ hs hstep => ended_step hs hstep

end Run

namespace Sample

/-- A node that expects no collision objects; the service is not there at first. -/
def patientConfig : NodeConfig := ⟨false, false, false⟩

/-- Once it is ready, a client sends one goal after another. -/
def patientLabels : ℕ → NodeLabel
  | 0 => .sync .start
  | 1 => .sync .checkLoop
  | 2 => .sync (.waitForService false)
  | 3 => .sync .checkLoop
  | 4 => .sync (.waitForService true)
  | 5 => .sync .checkExpected
  | _ => .planGrasps (Grasping.Sample.goal [] 1)

def patientStates : ℕ → NodeState
  | 0 => .init
  | 1 => ⟨true, false, .checkLoop, .spinning⟩
  | 2 => ⟨true, false, .waiting, .spinning⟩
  | 3 => ⟨true, false, .checkLoop, .spinning⟩
  | 4 => ⟨true, false, .waiting, .spinning⟩
  | 5 => ⟨true, false, .checkExpected, .spinning⟩
  | _ => ⟨true, true, .ended, .spinning⟩

theorem patient_endless : EndlessRun (nodeStep patientConfig) patientStates patientLabels := by
  constructor
  intro n
  rcases n with _ | _ | _ | _ | _ | _ | n <;> rfl

/-- `main` stops before the thread has begun its loop. -/
def stoppedLabels : ℕ → NodeLabel
  | 0 => .spinReturns
  | 1 => .storeReady
  | 2 => .sync .start
  | 3 => .sync .checkLoop
  | _ => .contextShutdown

def stoppedStates : ℕ → NodeState
  | 0 => .init
  | 1 => ⟨true, false, .start, .stopping⟩
  | 2 => ⟨true, true, .start, .stopped⟩
  | 3 => ⟨true, true, .checkLoop, .stopped⟩
  | 4 => ⟨true, true, .ended, .stopped⟩
  | _ => ⟨false, true, .ended, .stopped⟩

theorem stopped_endless : EndlessRun (nodeStep nodeConfig) stoppedStates stoppedLabels := by
  constructor
  intro n
  rcases n with _ | _ | _ | _ | _ | n <;> rfl

end Sample

theorem ready_unless_failures_patient : ∃ n, ∀ m, n ≤ m → (Sample.patientStates m).sync = .ended ∧
    ((Sample.patientStates m).ok = true → (Sample.patientStates m).sceneReady = true) := by
  apply ready_unless_failures Sample.patient_endless (Reachable.init _)
  · intro n
    exact ⟨n + 6, by omega, .inl rfl⟩
  · apply (Set.finite_lt_nat 6).subset
    intro n hn
    rcases n with _ | _ | _ | _ | _ | _ | n
    all_goals first | exact absurd hn id | simp

theorem main_joins_stopped : ((List.range 9).map fun i => Sample.stoppedLabels (2 + i)).countP NodeLabel.isSync ≤ 6 ∧
    ∃ n, ∀ m, n ≤ m → (Sample.stoppedStates m).sync = .ended := by
  have hjoins := main_joins Sample.stopped_endless (Reachable.init _) (k := 2) (.inl rfl)
  refine ⟨hjoins.1 9, hjoins.2 ?_⟩
  intro n
  exact ⟨n + 5, by omega, .inl rfl⟩

end MoveitPlanning.Service
