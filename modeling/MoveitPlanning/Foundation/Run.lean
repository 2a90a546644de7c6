import Mathlib.Logic.Basic
import Mathlib.Data.Option.Basic
import Mathlib.Data.Nat.Notation

/-! Runs of a labelled transition function. A label is one atomic step of one
party; a run is a list of labels, and it is a run only if every label is enabled
where it stands. Interleavings of several parties are the lists in which their
labels are mixed. Conditions on a run are conditions on its steps: `Along` says
that every step meets one, and `exec_invariant` is the rule by which an invariant
kept by such steps holds wherever the run ends. -/

namespace MoveitPlanning.Foundation

variable {S L : Type*} (step : S → L → Option S)

/-- The state a list of labels leads to, `none` if one of them is not enabled. -/
def exec : S → List L → Option S
  | s, [] => some s
  | s, l :: ls => (step s l).bind fun s' => exec s' ls

@[simp] theorem exec_nil (s : S) : exec step s [] = some s := rfl

theorem exec_cons_eq_some {s t : S} {l : L} {ls : List L} :
    exec step s (l :: ls) = some t ↔ ∃ s', step s l = some s' ∧ exec step s' ls = some t := by
  simp only [exec, Option.bind_eq_some_iff]

theorem exec_append (s : S) (ls ms : List L) :
    exec step s (ls ++ ms) = (exec step s ls).bind fun s' => exec step s' ms := by
  induction ls generalizing s with
  | nil => rfl
  | cons l ls ih =>
    simp only [List.cons_append, exec, Option.bind_assoc]
    congr 1
    funext s'
    exact ih s'

theorem exec_append_eq_some {s t : S} {ls ms : List L} :
    exec step s (ls ++ ms) = some t ↔ ∃ s', exec step s ls = some s' ∧ exec step s' ms = some t := by
  rw [exec_append, Option.bind_eq_some_iff]

/-- A run of a system that takes fewer steps is one of the other. -/
theorem exec_mono {step step' : S → L → Option S} (hstep : ∀ s l t, step s l = some t → step' s l = some t)
    {s t : S} {ls : List L} (h : exec step s ls = some t) : exec step' s ls = some t := by
  induction ls generalizing s with
  | nil => exact h
  | cons l ls ih =>
    obtain ⟨s', hs, hr⟩ := (exec_cons_eq_some step).mp h
    exact (exec_cons_eq_some step').mpr ⟨s', hstep s l s' hs, ih hr⟩

/-- The states runs from `init` end in. -/
def Reachable (init s : S) : Prop := ∃ ls, exec step init ls = some s

/-- What the steps of a run put out, in order. -/
def outputs {O : Type*} (out : S → L → Option O) : S → List L → List O
  | _, [] => []
  | s, l :: ls => (out s l).toList ++ (step s l).elim [] fun s' => outputs out s' ls

/-- Every step of the run meets `P`, which sees the state before the step. -/
def Along (P : S → L → Prop) : S → List L → Prop
  | _, [] => True
  | s, l :: ls => P s l ∧ ∀ s', step s l = some s' → Along P s' ls

instance Along.decidable {P : S → L → Prop} [∀ s l, Decidable (P s l)] :
    ∀ s ls, Decidable (Along step P s ls)
  | _, [] => inferInstanceAs (Decidable True)
  | s, l :: ls =>
    match h : step s l with
    | none => decidable_of_iff (P s l) (by simp [Along, h])
    | some s' =>
      have := Along.decidable (P := P) s' ls
      decidable_of_iff (P s l ∧ Along step P s' ls) (by simp [Along, h])

variable {step}

theorem outputs_cons {O : Type*} {out : S → L → Option O} {s s' : S} {l : L} {ls : List L}
    (h : step s l = some s') :
    outputs step out s (l :: ls) = (out s l).toList ++ outputs step out s' ls := by
  rw [outputs, h, Option.elim_some]

theorem Along.append {P : S → L → Prop} {s t : S} {ls ms : List L}
    (h : Along step P s (ls ++ ms)) (hr : exec step s ls = some t) :
    Along step P s ls ∧ Along step P t ms := by
  induction ls generalizing s with
  | nil =>
    obtain rfl : s = t := by simpa using hr
    exact ⟨trivial, h⟩
  | cons l ls ih =>
    obtain ⟨s', hs, hr'⟩ := (exec_cons_eq_some step).mp hr
    obtain ⟨hp, hrest⟩ := h
    refine ⟨⟨hp, fun u hu => ?_⟩, (ih (hrest s' hs) hr').2⟩
    obtain rfl : s' = u := by simpa [hs] using hu
    exact (ih (hrest s' hs) hr').1

theorem Along.concat {P : S → L → Prop} {s t : S} {ls ms : List L} (hl : Along step P s ls)
    (hr : exec step s ls = some t) (hm : Along step P t ms) : Along step P s (ls ++ ms) := by
  induction ls generalizing s with
  | nil =>
    obtain rfl : s = t := by simpa using hr
    exact hm
  | cons l ls ih =>
    obtain ⟨s', hs, hr'⟩ := (exec_cons_eq_some step).mp hr
    refine ⟨hl.1, fun u hu => ?_⟩
    obtain rfl : s' = u := by simpa [hs] using hu
    exact ih (hl.2 s' hs) hr'

/-- A condition that the labels meet in every state holds along every run of them. -/
theorem Along.of_labels {P : S → L → Prop} {s : S} {ls : List L} (h : ∀ l ∈ ls, ∀ s, P s l) :
    Along step P s ls := by
  induction ls generalizing s with
  | nil => trivial
  | cons l ls ih =>
    exact ⟨h l (by simp) s, fun s' _ => ih fun m hm => h m (by simp [hm])⟩

theorem Along.and {P Q : S → L → Prop} {s : S} {ls : List L} (hp : Along step P s ls)
    (hq : Along step Q s ls) : Along step (fun s l => P s l ∧ Q s l) s ls := by
  induction ls generalizing s with
  | nil => trivial
  | cons l ls ih => exact ⟨⟨hp.1, hq.1⟩, fun s' hs => ih (hp.2 s' hs) (hq.2 s' hs)⟩

/-- The invariant rule: steps that meet `P` keep `I`, so a run all of whose steps
meet `P` ends in `I` when it starts there. -/
theorem exec_invariant {I : S → Prop} {P : S → L → Prop}
    (hstep : ∀ s l s', I s → P s l → step s l = some s' → I s')
    {s t : S} {ls : List L} (ha : Along step P s ls) (hr : exec step s ls = some t) (hi : I s) :
    I t := by
  induction ls generalizing s with
  | nil =>
    obtain rfl : s = t := by simpa using hr
    exact hi
  | cons l ls ih =>
    obtain ⟨s', hs, hr'⟩ := (exec_cons_eq_some step).mp hr
    exact ih (ha.2 s' hs) hr' (hstep s l s' hi ha.1 hs)

/-- The rule for invariants that see the labels so far. -/
theorem log_invariant {I : List L → S → Prop} (hstep : ∀ log s l s', I log s → step s l = some s' → I (log ++ [l]) s')
    {s t : S} {ls log : List L} (hr : exec step s ls = some t) (hi : I log s) : I (log ++ ls) t := by
  induction ls generalizing s log with
  | nil =>
    obtain rfl : s = t := by simpa using hr
    simpa using hi
  | cons l ls ih =>
    obtain ⟨s', hs, hr'⟩ := (exec_cons_eq_some step).mp hr
    rw [← List.singleton_append, ← List.append_assoc]
    exact ih hr' (hstep log s l s' hi hs)

/-- The rule for invariants that see what has been put out so far. -/
theorem outputs_invariant {O : Type*} {out : S → L → Option O} {I : List O → S → Prop}
    (hstep : ∀ log s l s', I log s → step s l = some s' → I (log ++ (out s l).toList) s')
    {s t : S} {ls : List L} {log : List O} (hr : exec step s ls = some t) (hi : I log s) :
    I (log ++ outputs step out s ls) t := by
  induction ls generalizing s log with
  | nil =>
    obtain rfl : s = t := by simpa using hr
    simpa [outputs] using hi
  | cons l ls ih =>
    obtain ⟨s', hs, hr'⟩ := (exec_cons_eq_some step).mp hr
    rw [outputs_cons hs, ← List.append_assoc]
    exact ih hr' (hstep log s l s' hi hs)

/-- Where an invariant is kept by the steps that meet `P`, it may be used to show that
they meet `Q`. -/
theorem Along.imp {I : S → Prop} {P Q : S → L → Prop}
    (hstep : ∀ s l s', I s → P s l → step s l = some s' → I s') (himp : ∀ s l, I s → P s l → Q s l)
    {s : S} {ls : List L} (ha : Along step P s ls) (hi : I s) : Along step Q s ls := by
  induction ls generalizing s with
  | nil => trivial
  | cons l ls ih => exact ⟨himp s l hi ha.1, fun s' hs => ih (ha.2 s' hs) (hstep s l s' hi ha.1 hs)⟩

/-- Steps that count use up a measure that the others do not increase, so a run has at
most as many of them as the measure is at first. -/
theorem exec_countP_add_le {I : S → Prop} (counts : L → Bool) (μ : S → ℕ)
    (hstep : ∀ s l s', I s → step s l = some s' → I s' ∧ μ s' + (if counts l then 1 else 0) ≤ μ s)
    {s t : S} {ls : List L} (hr : exec step s ls = some t) (hi : I s) : ls.countP counts + μ t ≤ μ s := by
  induction ls generalizing s with
  | nil =>
    obtain rfl : s = t := by simpa using hr
    simp
  | cons l ls ih =>
    obtain ⟨s', hs, hr'⟩ := (exec_cons_eq_some step).mp hr
    obtain ⟨hi', hle⟩ := hstep s l s' hi hs
    have hrest := ih hr' hi'
    rw [List.countP_cons]
    omega

theorem Reachable.init (s : S) : Reachable step s s := ⟨[], rfl⟩

theorem Reachable.next {init s t : S} {l : L} (h : Reachable step init s) (hs : step s l = some t) :
    Reachable step init t := by
  obtain ⟨ls, hr⟩ := h
  exact ⟨ls ++ [l], (exec_append_eq_some step).mpr ⟨s, hr, (exec_cons_eq_some step).mpr ⟨t, hs, rfl⟩⟩⟩

/-- What holds at first and is kept by every step holds of every reachable state. -/
theorem Reachable.invariant {I : S → Prop} {init s : S} (h : Reachable step init s) (hinit : I init)
    (hstep : ∀ s l s', I s → step s l = some s' → I s') : I s := by
  obtain ⟨ls, hr⟩ := h
  have htrue : Along step (fun _ _ => True) init ls := Along.of_labels fun _ _ _ => trivial
  exact exec_invariant (fun s l s' hi _ => hstep s l s' hi) htrue hr hinit

/-! ### Parties in a list -/

theorem getElem?_append_singleton {α : Type*} {l : List α} {x y : α} {c : ℕ} (h : (l ++ [x])[c]? = some y) :
    l[c]? = some y ∨ c = l.length ∧ y = x := by
  rcases Nat.lt_trichotomy c l.length with hlt | rfl | hgt
  · rw [List.getElem?_append_left hlt] at h
    exact .inl h
  · rw [List.getElem?_concat_length] at h
    exact .inr ⟨rfl, (Option.some.inj h).symm⟩
  · have hge : (l ++ [x]).length ≤ c := by
      rw [List.length_append, List.length_singleton]
      omega
    rw [List.getElem?_eq_none hge] at h
    cases h

theorem getElem?_set_eq_some {α : Type*} {l : List α} {x y : α} {c d : ℕ} (h : (l.set c x)[d]? = some y) :
    d = c ∧ y = x ∨ d ≠ c ∧ l[d]? = some y := by
  by_cases hd : d = c
  · subst hd
    have hlt := (List.getElem?_eq_some_iff.mp h).1
    rw [List.getElem?_set_self (by simpa using hlt)] at h
    exact .inl ⟨rfl, (Option.some.inj h).symm⟩
  · rw [List.getElem?_set_ne (Ne.symm hd)] at h
    exact .inr ⟨hd, h⟩

end MoveitPlanning.Foundation
