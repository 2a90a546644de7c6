import Mathlib.Data.List.Count
import Mathlib.Tactic.SplitIfs
import MoveitPlanning.Foundation.Run

/-! A cell that its callers fill when they first need it. A caller checks the cell, and when
it is empty takes a lock, checks once more and loads a value; a load may fail or come to
nothing, and then a later caller tries again. Two things are proved. The accesses of the
cell outside the lock race with the store inside it exactly when the cell is empty at first
(`races_iff`). And where the accesses are atomic all the same, at most one load comes to a
value, which all callers get but those whose own load came to nothing (`OnceInv`). -/

namespace MoveitPlanning.Foundation

variable {V : Type*}

inductive OncePc (V : Type*)
  /-- before the check without the lock -/
  | checking
  | locking
  | rechecking
  | loading
  | storing (loaded : Option V)
  | unlocking
  /-- before the read, without the lock, of what is returned -/
  | reading
  | returned (value : Option V)
  deriving DecidableEq

structure OnceState (V : Type*) where
  cell : Option V
  /-- the caller that has the lock -/
  lock : Option ℕ
  callers : List (OncePc V)
  deriving DecidableEq

inductive OnceLabel (V : Type*)
  | call
  | access (caller : ℕ)
  /-- the load fails, or gives a value or none -/
  | load (caller : ℕ) (loaded : Option (Option V))
  deriving DecidableEq

/-- An access of the cell or of the lock by caller `c`, with the cell and the lock after it;
callers load only when that is enabled. -/
def accessStep (enabled : Bool) (cell : Option V) (lock : Option ℕ) (c : ℕ) :
    OncePc V → Option (OncePc V × Option V × Option ℕ)
  | .checking => some (if cell.isNone && enabled then .locking else .reading, cell, lock)
  | .locking => if lock = none then some (.rechecking, cell, some c) else none
  | .rechecking => some (if cell.isNone then .loading else .unlocking, cell, lock)
  | .storing loaded => some (.unlocking, loaded, lock)
  | .unlocking => some (.reading, cell, none)
  | .reading => some (.returned cell, cell, lock)
  | _ => none

def onceStep (enabled : Bool) (s : OnceState V) : OnceLabel V → Option (OnceState V)
  | .call => some { s with callers := s.callers ++ [.checking] }
  | .access c => s.callers[c]?.bind fun pc =>
    (accessStep enabled s.cell s.lock c pc).map fun r => ⟨r.2.1, r.2.2, s.callers.set c r.1⟩
  | .load c loaded => s.callers[c]?.bind fun pc =>
    match pc, loaded with
    | .loading, some value => some { s with callers := s.callers.set c (.storing value) }
    | .loading, none => some { s with callers := s.callers.set c .unlocking }
    | _, _ => none

/-- The state before any call. -/
def OnceState.start (cell : Option V) : OnceState V := ⟨cell, none, []⟩

namespace OncePc

/-- The caller has the lock. -/
def inside : OncePc V → Bool
  | rechecking => true
  | loading => true
  | storing _ => true
  | unlocking => true
  | _ => false

/-- The next step accesses the cell without the lock. -/
def accessesBare : OncePc V → Bool
  | checking => true
  | reading => true
  | _ => false

def stores : OncePc V → Bool
  | storing _ => true
  | _ => false

end OncePc

/-- One caller is about to store, and another one to access the cell without the lock. -/
def OnceState.Races (s : OnceState V) : Prop :=
  ∃ (c d : ℕ) (pc pc' : OncePc V), s.callers[c]? = some pc ∧ s.callers[d]? = some pc' ∧ pc.stores = true ∧
    pc'.accessesBare = true

/-! ### Races -/

section Races
variable {enabled : Bool}

/-- Where callers stay when they do not take the lock. -/
def OncePc.Outside (pc : OncePc V) : Prop := pc = .checking ∨ pc = .reading ∨ ∃ value, pc = .returned value

/-- With a full cell, or without loads, callers do not take the lock. -/
theorem outside_step {s t : OnceState V} {l : OnceLabel V} (hfull : s.cell ≠ none ∨ enabled = false)
    (hout : ∀ (c : ℕ) (pc : OncePc V), s.callers[c]? = some pc → pc.Outside) (h : onceStep enabled s l = some t) :
    t.cell = s.cell ∧ ∀ (c : ℕ) (pc : OncePc V), t.callers[c]? = some pc → pc.Outside := by
  cases l with
  | call =>
    cases h
    refine ⟨rfl, ?_⟩
    intro c pc hc
    rcases getElem?_append_singleton hc with hold | ⟨-, rfl⟩
    · exact hout c pc hold
    · exact .inl rfl
  | access c =>
    obtain ⟨pc, hc, h⟩ := Option.bind_eq_some_iff.mp h
    obtain ⟨⟨pc', cell, lock⟩, haccess, heq⟩ := Option.map_eq_some_iff.mp h
    cases heq
    have hstay : (s.cell.isNone && enabled) = false := by
      rcases hfull with hcell | hdisabled
      · rw [Option.isNone_eq_false_iff.mpr (Option.isSome_iff_ne_none.mpr hcell), Bool.false_and]
      · rw [hdisabled, Bool.and_false]
    rcases hout c pc hc with rfl | rfl | ⟨value, rfl⟩
    · rw [accessStep, hstay] at haccess
      cases haccess
      refine ⟨rfl, ?_⟩
      intro d pc hd
      rcases getElem?_set_eq_some hd with ⟨-, rfl⟩ | ⟨-, hold⟩
      · exact .inr (.inl rfl)
      · exact hout d pc hold
    · cases haccess
      refine ⟨rfl, ?_⟩
      intro d pc hd
      rcases getElem?_set_eq_some hd with ⟨-, rfl⟩ | ⟨-, hold⟩
      · exact .inr (.inr ⟨_, rfl⟩)
      · exact hout d pc hold
    · cases haccess
  | load c loaded =>
    obtain ⟨pc, hc, h⟩ := Option.bind_eq_some_iff.mp h
    rcases hout c pc hc with rfl | rfl | ⟨value, rfl⟩ <;> cases h

/-- Two callers check an empty cell, and the one that takes the lock comes to its store. -/
def racingRun : List (OnceLabel V) :=
  [.call, .call, .access 0, .access 0, .access 0, .load 0 (some none)]

/-- The accesses race in some run exactly when the cell is empty at first and is loaded. -/
theorem races_iff (enabled : Bool) (cell : Option V) :
    (∃ s, Reachable (onceStep enabled) (.start cell) s ∧ s.Races) ↔ enabled = true ∧ cell = none := by
  constructor
  · rintro ⟨s, hreach, c, d, pc, pc', hc, hd, hstores, hbare⟩
    by_contra hnot
    have hfull : cell ≠ none ∨ enabled = false := by
      by_cases hcell : cell = none
      · right
        simpa [hcell] using hnot
      · exact .inl hcell
    have hinv : s.cell = cell ∧ ∀ (c : ℕ) (pc : OncePc V), s.callers[c]? = some pc → pc.Outside := by
      apply hreach.invariant
      · exact ⟨rfl, fun c pc hc => by simp [OnceState.start] at hc⟩
      · intro s l s' hs hstep
        have hout := outside_step (hs.1 ▸ hfull) hs.2 hstep
        exact ⟨hout.1.trans hs.1, hout.2⟩
    rcases hinv.2 c pc hc with rfl | rfl | ⟨value, rfl⟩ <;> cases hstores
  · rintro ⟨rfl, rfl⟩
    refine ⟨⟨none, some 0, [.storing none, .checking]⟩, ⟨racingRun, rfl⟩, ?_⟩
    exact ⟨0, 1, .storing none, .checking, rfl, rfl, rfl, rfl⟩

end Races

/-! ### At most one load -/

/-- The load of the caller has come to nothing. -/
def FailedLoad (log : List (OnceLabel V)) (c : ℕ) : Prop := .load c none ∈ log ∨ .load c (some none) ∈ log

theorem FailedLoad.concat {log : List (OnceLabel V)} {c : ℕ} (h : FailedLoad log c) (l : OnceLabel V) :
    FailedLoad (log ++ [l]) c :=
  h.imp (List.mem_append_left _) (List.mem_append_left _)

def OnceLabel.succeeds : OnceLabel V → Bool
  | load _ (some (some _)) => true
  | _ => false

/-- What is known of caller `c` when it has come here. -/
def OncePc.Explained (enabled : Bool) (cell : Option V) (log : List (OnceLabel V)) (c : ℕ) : OncePc V → Prop
  | checking => True
  | locking => True
  | rechecking => True
  | loading => cell = none
  | storing loaded => cell = none ∧ (loaded = none → FailedLoad log c)
  | unlocking => cell ≠ none ∨ FailedLoad log c
  | reading => cell ≠ none ∨ enabled = false ∨ FailedLoad log c
  | returned (some value) => cell = some value
  | returned none => enabled = false ∨ FailedLoad log c

structure OnceInv (enabled : Bool) (log : List (OnceLabel V)) (s : OnceState V) : Prop where
  locked : ∀ c, s.lock = some c ↔ ∃ pc, s.callers[c]? = some pc ∧ pc.inside = true
  explained : ∀ (c : ℕ) (pc : OncePc V), s.callers[c]? = some pc → pc.Explained enabled s.cell log c
  once : log.countP OnceLabel.succeeds ≤ 1
  fresh : s.cell = none → (∀ (c : ℕ) (value : V), s.callers[c]? ≠ some (.storing (some value))) →
    log.countP OnceLabel.succeeds = 0

theorem onceInv_start (enabled : Bool) (cell : Option V) : OnceInv enabled [] (.start cell) where
  locked c := by simp [OnceState.start]
  explained c pc hc := by simp [OnceState.start] at hc
  once := Nat.zero_le _
  fresh _ _ := rfl

/-- What is known of a caller stays known, in a cell that is not emptied. -/
theorem OncePc.Explained.concat {enabled : Bool} {cell cell' : Option V} {log : List (OnceLabel V)} {c : ℕ}
    {pc : OncePc V} {l : OnceLabel V} (h : pc.Explained enabled cell log c) (hcell : cell' = cell ∨ cell = none)
    (hinside : pc.inside = true → cell' = cell) : pc.Explained enabled cell' (log ++ [l]) c := by
  have hfull : cell ≠ none → cell' ≠ none := by
    intro hne
    rcases hcell with rfl | hnone
    · exact hne
    · exact absurd hnone hne
  cases pc with
  | checking => trivial
  | locking => trivial
  | rechecking => trivial
  | loading => exact (hinside rfl).trans h
  | storing loaded => exact ⟨(hinside rfl).trans h.1, fun hnone => (h.2 hnone).concat l⟩
  | unlocking => exact h.imp hfull fun hfailed => hfailed.concat l
  | reading => exact h.imp hfull (.imp_right fun hfailed => hfailed.concat l)
  | returned value =>
    cases value with
    | some value =>
      have hvalue : cell = some value := h
      rcases hcell with rfl | hnone
      · exact hvalue
      · rw [hvalue] at hnone
        cases hnone
    | none => exact h.imp_right fun hfailed => hfailed.concat l

section Steps
variable {enabled : Bool} {log : List (OnceLabel V)} {s : OnceState V}

/-- A step of one caller, in terms of what it does to the cell and the lock. -/
theorem OnceInv.update (h : OnceInv enabled log s) {c : ℕ} {pc pc' : OncePc V} {cell : Option V} {lock : Option ℕ}
    {l : OnceLabel V} (hc : s.callers[c]? = some pc)
    (hlock : ∀ d, lock = some d ↔ if d = c then pc'.inside = true else s.lock = some d)
    (hcell : cell = s.cell ∨ s.cell = none ∧ pc.inside = true)
    (hpc' : pc'.Explained enabled cell (log ++ [l]) c)
    (hcount : (log ++ [l]).countP OnceLabel.succeeds ≤ 1)
    (hfresh : cell = none → (∀ (d : ℕ) (value : V), (s.callers.set c pc')[d]? ≠ some (.storing (some value))) →
      (log ++ [l]).countP OnceLabel.succeeds = 0) :
    OnceInv enabled (log ++ [l]) ⟨cell, lock, s.callers.set c pc'⟩ where
  locked d := by
    rw [hlock]
    split_ifs with hd
    · subst hd
      have hlt := (List.getElem?_eq_some_iff.mp hc).1
      simp [List.getElem?_set_self hlt]
    · rw [h.locked, List.getElem?_set_ne (Ne.symm hd)]
  explained d other hd := by
    rcases getElem?_set_eq_some hd with ⟨rfl, rfl⟩ | ⟨hdc, hold⟩
    · exact hpc'
    · apply (h.explained d other hold).concat (hcell.imp_right And.left)
      intro hinside
      rcases hcell with heq | ⟨-, hpc⟩
      · exact heq
      · -- two callers would have the lock
        have hlockc := (h.locked c).mpr ⟨pc, hc, hpc⟩
        have hlockd := (h.locked d).mpr ⟨other, hold, hinside⟩
        rw [hlockc] at hlockd
        exact absurd (Option.some.inj hlockd).symm hdc
  once := hcount
  fresh := hfresh

theorem OnceInv.no_other_stores (h : OnceInv enabled log s) {c : ℕ} {pc : OncePc V} (hc : s.callers[c]? = some pc)
    (hpc : pc.inside = true) {d : ℕ} {loaded : Option V} (hd : s.callers[d]? = some (.storing loaded)) : d = c := by
  have hlockc := (h.locked c).mpr ⟨pc, hc, hpc⟩
  have hlockd := (h.locked d).mpr ⟨_, hd, rfl⟩
  rw [hlockc] at hlockd
  exact (Option.some.inj hlockd).symm

theorem countP_concat_access (log : List (OnceLabel V)) (c : ℕ) :
    (log ++ [OnceLabel.access c]).countP OnceLabel.succeeds = log.countP OnceLabel.succeeds := by
  simp [OnceLabel.succeeds]

/-- A step that stores nothing and does not come to a store keeps the count. -/
theorem OnceInv.fresh_of_set (h : OnceInv enabled log s) {c : ℕ} {pc pc' : OncePc V} (hc : s.callers[c]? = some pc)
    (hpc : ∀ value, pc ≠ .storing (some value)) (hcell : s.cell = none)
    (hnone : ∀ (d : ℕ) (value : V), (s.callers.set c pc')[d]? ≠ some (.storing (some value))) :
    log.countP OnceLabel.succeeds = 0 := by
  apply h.fresh hcell
  intro d value hd
  by_cases hdc : d = c
  · rw [hdc, hc] at hd
    exact hpc value (Option.some.inj hd)
  · apply hnone d value
    rw [List.getElem?_set_ne (Ne.symm hdc), hd]

theorem OnceInv.lock_iff (h : OnceInv enabled log s) {c : ℕ} {pc : OncePc V} (hc : s.callers[c]? = some pc) :
    s.lock = some c ↔ pc.inside = true := by
  rw [h.locked]
  constructor
  · rintro ⟨other, hother, hinside⟩
    rw [hc] at hother
    cases hother
    exact hinside
  · intro hinside
    exact ⟨pc, hc, hinside⟩

theorem OnceInv.lock_kept (h : OnceInv enabled log s) {c : ℕ} {pc pc' : OncePc V} (hc : s.callers[c]? = some pc)
    (hsame : pc'.inside = pc.inside) (d : ℕ) : s.lock = some d ↔ if d = c then pc'.inside = true else s.lock = some d := by
  split_ifs with hd
  · rw [hd, h.lock_iff hc, hsame]
  · rfl

theorem OnceInv.access (h : OnceInv enabled log s) {c : ℕ} {pc pc' : OncePc V} {cell : Option V} {lock : Option ℕ}
    (hc : s.callers[c]? = some pc) (haccess : accessStep enabled s.cell s.lock c pc = some (pc', cell, lock)) :
    OnceInv enabled (log ++ [.access c]) ⟨cell, lock, s.callers.set c pc'⟩ := by
  have hcount : (log ++ [OnceLabel.access c]).countP OnceLabel.succeeds ≤ 1 := by
    rw [countP_concat_access]
    exact h.once
  have hknown := h.explained c pc hc
  have hfresh : (∀ value, pc ≠ .storing (some value)) → s.cell = none →
      (∀ (d : ℕ) (value : V), (s.callers.set c pc')[d]? ≠ some (.storing (some value))) →
        (log ++ [OnceLabel.access c]).countP OnceLabel.succeeds = 0 := by
    intro hpc hcell hnone
    rw [countP_concat_access]
    exact h.fresh_of_set hc hpc hcell hnone
  cases pc with
  | checking =>
    cases haccess
    apply h.update hc _ (.inl rfl) _ hcount (hfresh (by simp))
    · intro d
      apply h.lock_kept hc
      split_ifs <;> rfl
    · split_ifs with hempty
      · trivial
      · cases hcell : s.cell with
        | some value => exact .inl (by simp)
        | none => exact .inr (.inl (by simpa [hcell] using hempty))
  | locking =>
    obtain ⟨hfree, heq⟩ := Option.ite_none_right_eq_some.mp haccess
    cases heq
    apply h.update hc _ (.inl rfl) _ hcount (hfresh (by simp))
    · intro d
      rw [hfree]
      split_ifs with hd
      · simp [hd, OncePc.inside]
      · simp [Ne.symm hd]
    · trivial
  | rechecking =>
    cases haccess
    apply h.update hc _ (.inl rfl) _ hcount (hfresh (by simp))
    · intro d
      apply h.lock_kept hc
      split_ifs <;> rfl
    · split_ifs with hempty
      · exact Option.isNone_iff_eq_none.mp hempty
      · exact .inl fun hcell => hempty (Option.isNone_iff_eq_none.mpr hcell)
  | storing loaded =>
    cases haccess
    apply h.update hc _ (.inr ⟨hknown.1, rfl⟩) _ hcount
    · intro hcell
      subst hcell
      exact hfresh (by simp) hknown.1
    · exact h.lock_kept hc rfl
    · cases cell with
      | some value => exact .inl (by simp)
      | none => exact .inr ((hknown.2 rfl).concat _)
  | unlocking =>
    cases haccess
    apply h.update hc _ (.inl rfl) _ hcount (hfresh (by simp))
    · intro d
      have hheld : s.lock = some c := (h.lock_iff hc).mpr rfl
      rw [hheld]
      split_ifs with hd
      · simp [OncePc.inside]
      · simp [Ne.symm hd]
    · exact hknown.imp_right fun hfailed => .inr (hfailed.concat _)
  | reading =>
    cases haccess
    apply h.update hc _ (.inl rfl) _ hcount (hfresh (by simp))
    · exact h.lock_kept hc rfl
    · cases hcell : s.cell with
      | some value => rfl
      | none =>
        rcases hknown with hne | hfailed
        · exact absurd hcell hne
        · exact hfailed.imp_right fun hfailed => hfailed.concat _
  | loading => cases haccess
  | returned value => cases haccess

theorem OnceInv.load (h : OnceInv enabled log s) {c : ℕ} (hc : s.callers[c]? = some .loading) (value : Option V) :
    OnceInv enabled (log ++ [.load c (some value)]) { s with callers := s.callers.set c (.storing value) } := by
  have hcell : s.cell = none := h.explained c _ hc
  -- the caller has the lock and has not stored, so no load has come to a value
  have hzero : log.countP OnceLabel.succeeds = 0 := by
    apply h.fresh hcell
    intro d other hd
    rw [h.no_other_stores hc rfl hd, hc] at hd
    cases hd
  apply h.update hc _ (.inl rfl)
  · refine ⟨hcell, ?_⟩
    rintro rfl
    exact .inr (by simp)
  · rw [List.countP_append, hzero]
    rw [Nat.zero_add]
    exact List.countP_le_length
  · intro _ hnone
    cases value with
    | none => simpa [OnceLabel.succeeds] using hzero
    | some value =>
      have hlt := (List.getElem?_eq_some_iff.mp hc).1
      exact absurd (List.getElem?_set_self hlt) (hnone c value)
  · exact h.lock_kept hc rfl

theorem OnceInv.loadFails (h : OnceInv enabled log s) {c : ℕ} (hc : s.callers[c]? = some .loading) :
    OnceInv enabled (log ++ [.load c none]) { s with callers := s.callers.set c .unlocking } := by
  have hcount : (log ++ [OnceLabel.load c none]).countP OnceLabel.succeeds = log.countP OnceLabel.succeeds := by
    simp [OnceLabel.succeeds]
  apply h.update hc _ (.inl rfl)
  · exact .inr (.inl (by simp))
  · rw [hcount]
    exact h.once
  · intro hcell hnone
    rw [hcount]
    exact h.fresh_of_set hc (by simp) hcell hnone
  · exact h.lock_kept hc rfl

theorem OnceInv.call (h : OnceInv enabled log s) :
    OnceInv enabled (log ++ [.call]) { s with callers := s.callers ++ [.checking] } where
  locked c := by
    rw [h.locked]
    constructor
    · rintro ⟨pc, hc, hinside⟩
      refine ⟨pc, ?_, hinside⟩
      rw [List.getElem?_append_left (List.getElem?_eq_some_iff.mp hc).1, hc]
    · rintro ⟨pc, hc, hinside⟩
      rcases getElem?_append_singleton hc with hold | ⟨-, rfl⟩
      · exact ⟨pc, hold, hinside⟩
      · cases hinside
  explained c pc hc := by
    rcases getElem?_append_singleton hc with hold | ⟨-, rfl⟩
    · exact (h.explained c pc hold).concat (.inl rfl) fun _ => rfl
    · trivial
  once := by simpa [OnceLabel.succeeds] using h.once
  fresh hcell hnone := by
    have hzero : log.countP OnceLabel.succeeds = 0 := by
      apply h.fresh hcell
      intro c value hc
      apply hnone c value
      rw [List.getElem?_append_left (List.getElem?_eq_some_iff.mp hc).1, hc]
    simpa [OnceLabel.succeeds] using hzero

theorem onceInv_step {t : OnceState V} {l : OnceLabel V} (h : OnceInv enabled log s)
    (hstep : onceStep enabled s l = some t) : OnceInv enabled (log ++ [l]) t := by
  cases l with
  | call =>
    cases hstep
    exact h.call
  | access c =>
    obtain ⟨pc, hc, hstep⟩ := Option.bind_eq_some_iff.mp hstep
    obtain ⟨⟨pc', cell, lock⟩, haccess, heq⟩ := Option.map_eq_some_iff.mp hstep
    cases heq
    exact h.access hc haccess
  | load c loaded =>
    obtain ⟨pc, hc, hstep⟩ := Option.bind_eq_some_iff.mp hstep
    cases pc with
    | loading =>
      cases loaded with
      | some value =>
        cases hstep
        exact h.load hc value
      | none =>
        cases hstep
        exact h.loadFails hc
    | _ => cases hstep

end Steps

theorem onceInv_of_run {enabled : Bool} {cell : Option V} {log : List (OnceLabel V)} {s : OnceState V}
    (h : exec (onceStep enabled) (.start cell) log = some s) : OnceInv enabled log s := by
  have hinv := log_invariant (I := OnceInv enabled) (fun _ _ _ _ hi hstep => onceInv_step hi hstep) h
    (onceInv_start enabled cell)
  rwa [List.nil_append] at hinv

theorem OnceInv.cell_kept {enabled : Bool} {log : List (OnceLabel V)} {s t : OnceState V} {l : OnceLabel V} {value : V}
    (h : OnceInv enabled log s) (hstep : onceStep enabled s l = some t) (hcell : s.cell = some value) :
    t.cell = some value := by
  cases l with
  | call =>
    cases hstep
    exact hcell
  | access c =>
    obtain ⟨pc, hc, hstep⟩ := Option.bind_eq_some_iff.mp hstep
    obtain ⟨⟨pc', cell, lock⟩, haccess, heq⟩ := Option.map_eq_some_iff.mp hstep
    cases heq
    cases pc with
    | storing loaded =>
      have hempty := (h.explained c _ hc).1
      rw [hcell] at hempty
      cases hempty
    | locking =>
      obtain ⟨-, heq⟩ := Option.ite_none_right_eq_some.mp haccess
      cases heq
      exact hcell
    | loading => cases haccess
    | returned value => cases haccess
    | _ =>
      cases haccess
      exact hcell
  | load c loaded =>
    obtain ⟨pc, hc, hstep⟩ := Option.bind_eq_some_iff.mp hstep
    cases pc with
    | loading =>
      cases loaded <;> cases hstep <;> exact hcell
    | _ => cases hstep

theorem cell_kept_of_run {enabled : Bool} {cell : Option V} {log rest : List (OnceLabel V)} {s t : OnceState V}
    {value : V} (h : exec (onceStep enabled) (.start cell) log = some s) (hrest : exec (onceStep enabled) s rest = some t)
    (hcell : s.cell = some value) : t.cell = some value := by
  have hinv := log_invariant (I := fun log s => OnceInv enabled log s ∧ s.cell = some value)
    (fun _ _ _ _ hi hstep => ⟨onceInv_step hi.1 hstep, hi.1.cell_kept hstep hi.2⟩) hrest ⟨onceInv_of_run h, hcell⟩
  exact hinv.2

end MoveitPlanning.Foundation
