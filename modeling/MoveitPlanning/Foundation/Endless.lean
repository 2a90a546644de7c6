import MoveitPlanning.Foundation.Run
import Mathlib.Order.OrderIsoNat
import Mathlib.Data.Nat.Init
import Mathlib.Data.Set.Finite.Basic
import Mathlib.Order.Interval.Finset.Nat

/-! Runs without an end, and measures that bound what they do. A measure takes its
values in a well-founded order: work whose size is only known once it has begun is
counted in a lexicographic one. No endless run lowers a measure forever, so the steps
that lower it come to an end (`EndlessRun.finite_lowering`), also when finitely many
other steps raise it again (`EndlessRun.finite_lowering_of_resets`). A system in which
some step of its own always lowers the measure until it is done can be led there
(`exists_exec_done`). -/

namespace MoveitPlanning.Foundation

variable {S L α : Type*} (step : S → L → Option S)

/-- A run that goes on forever: a state and the label of its step for each moment. -/
structure EndlessRun (states : ℕ → S) (labels : ℕ → L) : Prop where
  next : ∀ n, step (states n) (labels n) = some (states (n + 1))

variable {step} {states : ℕ → S} {labels : ℕ → L}

theorem EndlessRun.drop (h : EndlessRun step states labels) (k : ℕ) :
    EndlessRun step (fun n => states (n + k)) fun n => labels (n + k) := by
  constructor
  intro n
  rw [show n + 1 + k = n + k + 1 by omega]
  exact h.next (n + k)

theorem EndlessRun.exec_stretch (h : EndlessRun step states labels) (k n : ℕ) :
    exec step (states k) ((List.range n).map fun i => labels (k + i)) = some (states (k + n)) := by
  induction n with
  | zero => rfl
  | succ n ih =>
    rw [List.range_succ, List.map_append, exec_append, ih]
    exact (exec_cons_eq_some step).mpr ⟨states (k + n + 1), h.next (k + n), rfl⟩

variable (step) in
/-- The states of a run, and then its last one forever. -/
def runStates (s : S) (ls : List L) (n : ℕ) : S := (exec step s (ls.take n)).getD s

theorem runStates_of_le {s t : S} {ls : List L} (hrun : exec step s ls = some t) {n : ℕ} (hn : ls.length ≤ n) :
    runStates step s ls n = t := by
  rw [runStates, List.take_of_length_le hn, hrun, Option.getD_some]

/-- A run to a state that some step leaves as it is goes on forever with that step. -/
theorem endlessRun_of_exec {s t : S} {ls : List L} {l : L} (hrun : exec step s ls = some t)
    (hstays : step t l = some t) : EndlessRun step (runStates step s ls) fun n => ls.getD n l := by
  constructor
  intro n
  rcases lt_or_ge n ls.length with hn | hn
  · have hsplit : ls.take (n + 1) = ls.take n ++ [ls[n]] := (List.take_append_getElem hn).symm
    obtain ⟨v, hv, -⟩ := (exec_append_eq_some step).mp ((List.take_append_drop (n + 1) ls).symm ▸ hrun)
    rw [hsplit] at hv
    obtain ⟨u, hu, hlast⟩ := (exec_append_eq_some step).mp hv
    obtain ⟨w, hw, hnil⟩ := (exec_cons_eq_some step).mp hlast
    obtain rfl : w = v := Option.some.inj hnil
    rw [runStates, runStates, hu, hsplit, hv, List.getD_eq_getElem?_getD, List.getElem?_eq_getElem hn,
      Option.getD_some]
    exact hw
  · rw [runStates_of_le hrun hn, runStates_of_le hrun (Nat.le_succ_of_le hn), List.getD_eq_getElem?_getD,
      List.getElem?_eq_none hn, Option.getD_none]
    exact hstays

/-- What holds at first and is kept by every step holds at every moment. -/
theorem EndlessRun.invariant {I : S → Prop} (h : EndlessRun step states labels) (hinit : I (states 0))
    (hstep : ∀ s l s', I s → step s l = some s' → I s') (n : ℕ) : I (states n) := by
  induction n with
  | zero => exact hinit
  | succ n ih => exact hstep _ _ _ ih (h.next n)

theorem EndlessRun.reachable {init : S} (h : EndlessRun step states labels)
    (hinit : Reachable step init (states 0)) (n : ℕ) : Reachable step init (states n) :=
  h.invariant hinit (fun _ _ _ hs hstep => hs.next hstep) n

/-- What holds at some moment and is kept by every step holds from then on. -/
theorem EndlessRun.stable {I : S → Prop} (h : EndlessRun step states labels) {k : ℕ} (hk : I (states k))
    (hstep : ∀ s l s', I s → step s l = some s' → I s') {m : ℕ} (hm : k ≤ m) : I (states m) := by
  have hat := (h.drop k).invariant (by rwa [Nat.zero_add]) hstep (m - k)
  rwa [Nat.sub_add_cancel hm] at hat

/-- What holds until something else does, and does not hold at some later moment, has led
to it by then. -/
theorem leads_to {P Q : ℕ → Prop} {k m : ℕ} (hk : P k) (hstep : ∀ n, k ≤ n → P n → P (n + 1) ∨ Q (n + 1))
    (hkm : k ≤ m) (hm : ¬P m) : ∃ n, k ≤ n ∧ n ≤ m ∧ Q n := by
  by_contra hnever
  have hholds : ∀ n, k ≤ n → n ≤ m → P n := by
    intro n hn
    induction n, hn using Nat.le_induction with
    | base => exact fun _ => hk
    | succ n hn ih =>
      intro hle
      refine (hstep n hn (ih (by omega))).resolve_right fun hq => ?_
      exact hnever ⟨n + 1, by omega, hle, hq⟩
  exact hm (hholds m hkm le_rfl)

/-- A party that takes finitely many steps, and gets its turns until it is done for good, is
done from some moment on. -/
theorem EndlessRun.settles (h : EndlessRun step states labels) (P : S → Prop) (own : ℕ → Prop)
    (hown : {n | own n}.Finite) (hturns : ∀ n, ∃ m, n ≤ m ∧ (P (states m) ∨ own m))
    (hP : ∀ s l s', P s → step s l = some s' → P s') : ∃ n, ∀ m, n ≤ m → P (states m) := by
  obtain ⟨k, hk⟩ := hown.bddAbove
  obtain ⟨n, hn, hat | hstep⟩ := hturns (k + 1)
  · exact ⟨n, fun m hm => h.stable hat hP hm⟩
  · have hle : n ≤ k := hk hstep
    omega

/-- Finitely many things that hold from some moment on all do from some moment on. -/
theorem exists_forall_mem {α : Type*} {P : α → ℕ → Prop} {l : List α} (h : ∀ a ∈ l, ∃ n, ∀ m, n ≤ m → P a m) :
    ∃ n, ∀ m, n ≤ m → ∀ a ∈ l, P a m := by
  induction l with
  | nil => exact ⟨0, by simp⟩
  | cons a l ih =>
    obtain ⟨n, hn⟩ := h a (by simp)
    obtain ⟨n', hn'⟩ := ih fun b hb => h b (by simp [hb])
    refine ⟨max n n', fun m hm => List.forall_mem_cons.mpr ⟨hn m (by omega), hn' m (by omega)⟩⟩

section Measure
variable [Preorder α] [WellFoundedLT α]

/-- A sequence that never rises falls finitely often. -/
theorem finite_falls {f : ℕ → α} (hf : ∀ n, f (n + 1) ≤ f n) : {n | f (n + 1) < f n}.Finite := by
  obtain ⟨n, hn⟩ : ∃ n, ∀ m, ¬f m < f n := by
    obtain ⟨n, hn⟩ := wellFounded_lt.min_mem (Set.range f) (Set.range_nonempty f)
    refine ⟨n, fun m hlt => ?_⟩
    rw [hn] at hlt
    exact wellFounded_lt.not_lt_min (Set.range f) ⟨m, rfl⟩ hlt
  refine (Set.finite_lt_nat n).subset fun m hm => ?_
  by_contra hnm
  have hle : f m ≤ f n := antitone_nat_of_succ_le hf (not_lt.mp hnm)
  exact hn (m + 1) (lt_of_lt_of_le hm hle)

/-- Steps that lower a measure which, from some moment on, never rises come to an end. -/
theorem finite_lowering_from {f : ℕ → α} {lowers : ℕ → Prop} (k : ℕ)
    (hf : ∀ n, k ≤ n → f (n + 1) ≤ f n ∧ (lowers n → f (n + 1) < f n)) : {n | lowers n}.Finite := by
  have hat : ∀ n, f (n + 1 + k) ≤ f (n + k) ∧ (lowers (n + k) → f (n + 1 + k) < f (n + k)) := by
    intro n
    rw [show n + 1 + k = n + k + 1 by omega]
    exact hf (n + k) (Nat.le_add_left k n)
  have hfalls := finite_falls (f := fun n => f (n + k)) fun n => (hat n).1
  have hlate : {n | lowers (n + k)}.Finite := hfalls.subset fun n hn => (hat n).2 hn
  refine ((Set.finite_lt_nat k).union (hlate.image (· + k))).subset fun n hn => ?_
  by_cases hnk : n < k
  · exact .inl hnk
  · refine .inr ⟨n - k, ?_, by simp only; omega⟩
    change lowers (n - k + k)
    rwa [Nat.sub_add_cancel (by omega)]

theorem EndlessRun.finite_lowering (h : EndlessRun step states labels) (lowers : L → Prop) (μ : S → α)
    (hμ : ∀ s l s', step s l = some s' → μ s' ≤ μ s ∧ (lowers l → μ s' < μ s)) :
    {n | lowers (labels n)}.Finite :=
  finite_lowering_from (f := μ ∘ states) 0 fun n _ => hμ _ _ _ (h.next n)

theorem EndlessRun.finite_lowering_of_resets (h : EndlessRun step states labels) (lowers resets : L → Prop)
    (μ : S → α) (hμ : ∀ s l s', ¬resets l → step s l = some s' → μ s' ≤ μ s ∧ (lowers l → μ s' < μ s))
    (hresets : {n | resets (labels n)}.Finite) : {n | lowers (labels n)}.Finite := by
  -- after the last step that resets the measure, no step raises it
  obtain ⟨k, hk⟩ := hresets.bddAbove
  refine finite_lowering_from (f := μ ∘ states) (k + 1) fun n hn => hμ _ _ _ (fun hresets => ?_) (h.next n)
  have hle : n ≤ k := hk hresets
  omega

/-- Where some step that may be taken lowers the measure until the work is done, such
steps lead there. -/
theorem exists_exec_done {done : S → Prop} {may : S → L → Prop} (μ : S → α)
    (hprogress : ∀ s, ¬done s → ∃ l s', may s l ∧ step s l = some s' ∧ μ s' < μ s) (s : S) :
    ∃ ls t, exec step s ls = some t ∧ Along step may s ls ∧ done t := by
  induction s using (InvImage.wf μ wellFounded_lt).induction with
  | _ s ih =>
    by_cases hd : done s
    · exact ⟨[], s, rfl, trivial, hd⟩
    · obtain ⟨l, s', hmay, hstep, hlt⟩ := hprogress s hd
      obtain ⟨ls, t, hrun, halong, ht⟩ := ih s' hlt
      refine ⟨l :: ls, t, (exec_cons_eq_some step).mpr ⟨s', hstep, hrun⟩, ⟨hmay, ?_⟩, ht⟩
      intro u hu
      obtain rfl : s' = u := by simpa [hstep] using hu
      exact halong

end Measure

end MoveitPlanning.Foundation
