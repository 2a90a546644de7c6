import Mathlib.Data.List.Nodup
import Mathlib.Data.List.Induction
import MoveitPlanning.Foundation.Run

/-! Calls that overlap. A log tells when calls are made, when they take effect and when
they are answered. A log is linearizable when some order of its calls, among them all that
have been answered, explains every answer as that of an object which serves one call after
another, and no call comes after one that was made only when it had been answered.
`linearizes_of_effects` is the rule for programs whose calls each take effect at one
moment: the order of the effects is such an order when each answer is the right one after
the requests with earlier effects. -/

namespace MoveitPlanning.Foundation

/-- An object that serves one call after another. A call asks for a request, and also tells
what is met in serving it. -/
structure SequentialObject (σ R C A : Type*) where
  init : σ
  apply : σ → C → σ
  request : C → Option R
  answer : σ → C → Option A

inductive CallEvent (ι R A : Type*)
  | invoke (call : ι) (request : R)
  | effect (call : ι) (request : R)
  | response (call : ι) (answer : A)
  deriving DecidableEq

variable {ι σ R C A : Type*}

namespace CallEvent

def call : CallEvent ι R A → ι
  | invoke i _ => i
  | effect i _ => i
  | response i _ => i

def effect? : CallEvent ι R A → Option (ι × R)
  | effect i r => some (i, r)
  | _ => none

end CallEvent

/-- The calls in the order of their effects. -/
def effects (log : List (CallEvent ι R A)) : List (ι × R) := log.filterMap CallEvent.effect?

@[simp] theorem effects_nil : effects ([] : List (CallEvent ι R A)) = [] := rfl

@[simp] theorem effects_invoke (i : ι) (r : R) (log : List (CallEvent ι R A)) :
    effects (.invoke i r :: log) = effects log := rfl

@[simp] theorem effects_effect (i : ι) (r : R) (log : List (CallEvent ι R A)) :
    effects (.effect i r :: log) = (i, r) :: effects log := rfl

@[simp] theorem effects_response (i : ι) (a : A) (log : List (CallEvent ι R A)) :
    effects (.response i a :: log) = effects log := rfl

theorem effects_append (log rest : List (CallEvent ι R A)) : effects (log ++ rest) = effects log ++ effects rest :=
  List.filterMap_append

theorem mem_effects {log : List (CallEvent ι R A)} {i : ι} {r : R} : (i, r) ∈ effects log ↔ .effect i r ∈ log := by
  rw [effects, List.mem_filterMap]
  constructor
  · rintro ⟨e, hmem, he⟩
    cases e with
    | effect j q =>
      cases he
      exact hmem
    | _ => cases he
  · intro hmem
    exact ⟨_, hmem, rfl⟩

/-- Call `i` is answered before call `j` is made. -/
def Precedes (log : List (CallEvent ι R A)) (i j : ι) : Prop :=
  ∃ a r, List.Sublist [.response i a, .invoke j r] log

/-- The calls, served in this order, are answered as in the log. -/
def Legal (object : SequentialObject σ R C A) (log : List (CallEvent ι R A)) : σ → List (ι × C) → Prop
  | _, [] => True
  | s, (i, c) :: order =>
    (∀ a, .response i a ∈ log → object.answer s c = some a) ∧ Legal object log (object.apply s c) order

structure Linearizes (object : SequentialObject σ R C A) (log : List (CallEvent ι R A)) (order : List (ι × C)) :
    Prop where
  nodup : (order.map Prod.fst).Nodup
  asked : ∀ i c, (i, c) ∈ order → ∃ r, object.request c = some r ∧ .invoke i r ∈ log
  served : ∀ i a, .response i a ∈ log → i ∈ order.map Prod.fst
  legal : Legal object log object.init order
  realTime : ∀ i j, Precedes log i j → j ∈ order.map Prod.fst → List.Sublist [i, j] (order.map Prod.fst)

/-! ### Logs of calls with one effect each -/

/-- What a log holds of one call. -/
inductive CallEvents (i : ι) : List (CallEvent ι R A) → Prop
  | absent : CallEvents i []
  | invoked (r : R) : CallEvents i [.invoke i r]
  | effected (r : R) : CallEvents i [.invoke i r, .effect i r]
  | answered (r : R) (a : A) : CallEvents i [.invoke i r, .effect i r, .response i a]

namespace CallEvents
variable {i : ι} {xs ys : List (CallEvent ι R A)} {r : R} {a : A}

theorem length_effects_le (h : CallEvents i xs) : (effects xs).length ≤ 1 := by
  cases h <;> simp

theorem effect_before (h : CallEvents i (xs ++ .response i a :: ys)) : ∃ r, .effect i r ∈ xs := by
  generalize hlog : xs ++ .response i a :: ys = log at h
  cases h with
  | absent => simp at hlog
  | answered r a =>
    refine ⟨r, ?_⟩
    rcases xs with _ | ⟨e, _ | ⟨e', xs⟩⟩ <;> simp_all
  | _ => rcases xs with _ | ⟨e, _ | ⟨e', xs⟩⟩ <;> simp at hlog

theorem nothing_before (h : CallEvents i (xs ++ .invoke i r :: ys)) : xs = [] := by
  generalize hlog : xs ++ .invoke i r :: ys = log at h
  cases h <;> rcases xs with _ | ⟨e, _ | ⟨e', _ | ⟨e'', xs⟩⟩⟩ <;> simp_all

theorem request_eq {r' : R} (h : CallEvents i xs) (hr : .invoke i r ∈ xs) (hr' : .invoke i r' ∈ xs) : r = r' := by
  cases h <;> simp_all

theorem invoke_of_effect (h : CallEvents i xs) (hr : .effect i r ∈ xs) : .invoke i r ∈ xs := by
  cases h <;> simp_all

end CallEvents

theorem Precedes.split {log : List (CallEvent ι R A)} {i j : ι} (h : Precedes log i j) :
    ∃ before mid after a r, log = before ++ .response i a :: (mid ++ .invoke j r :: after) := by
  obtain ⟨a, r, hsub⟩ := h
  obtain ⟨front, rest, rfl, hresponse, hrest⟩ := List.cons_sublist_iff.mp hsub
  obtain ⟨before, mid, rfl⟩ := List.append_of_mem hresponse
  obtain ⟨mid', after, rfl⟩ := List.append_of_mem (List.singleton_sublist.mp hrest)
  exact ⟨before, mid ++ mid', after, a, r, by simp⟩

section Log
variable [DecidableEq ι]

def eventsOf (log : List (CallEvent ι R A)) (i : ι) : List (CallEvent ι R A) := log.filter fun e => e.call = i

theorem mem_eventsOf {log : List (CallEvent ι R A)} {e : CallEvent ι R A} : e ∈ eventsOf log e.call ↔ e ∈ log := by
  simp [eventsOf]

theorem eventsOf_append (log rest : List (CallEvent ι R A)) (i : ι) :
    eventsOf (log ++ rest) i = eventsOf log i ++ eventsOf rest i :=
  List.filter_append ..

theorem eventsOf_cons_self {e : CallEvent ι R A} {i : ι} (h : e.call = i) (log : List (CallEvent ι R A)) :
    eventsOf (e :: log) i = e :: eventsOf log i :=
  List.filter_cons_of_pos (by simpa using h)

theorem eventsOf_cons_ne {e : CallEvent ι R A} {i : ι} (h : e.call ≠ i) (log : List (CallEvent ι R A)) :
    eventsOf (e :: log) i = eventsOf log i :=
  List.filter_cons_of_neg (by simpa using h)

theorem count_effects (log : List (CallEvent ι R A)) (i : ι) :
    ((effects log).map Prod.fst).count i = (effects (eventsOf log i)).length := by
  induction log with
  | nil => rfl
  | cons e log ih =>
    by_cases hi : e.call = i
    · rw [eventsOf_cons_self hi]
      cases e with
      | effect j r =>
        obtain rfl : j = i := hi
        simpa using ih
      | _ => exact ih
    · rw [eventsOf_cons_ne hi]
      cases e with
      | effect j r =>
        have hj : j ≠ i := hi
        simpa [List.count_cons, hj] using ih
      | _ => exact ih

/-- Every call is made, takes effect and is answered at most once and in this order. -/
def Atomic (log : List (CallEvent ι R A)) : Prop := ∀ i, CallEvents i (eventsOf log i)

namespace Atomic
variable {log : List (CallEvent ι R A)}

theorem effects_nodup (h : Atomic log) : ((effects log).map Prod.fst).Nodup := by
  rw [List.nodup_iff_count_le_one]
  intro i
  rw [count_effects]
  exact (h i).length_effects_le

theorem request_eq {i : ι} {r r' : R} (h : Atomic log) (hr : .invoke i r ∈ log) (hr' : .invoke i r' ∈ log) :
    r = r' :=
  (h i).request_eq (mem_eventsOf.mpr hr) (mem_eventsOf.mpr hr')

theorem invoke_of_effect {i : ι} {r : R} (h : Atomic log) (hr : .effect i r ∈ log) : .invoke i r ∈ log :=
  mem_eventsOf.mp ((h i).invoke_of_effect (mem_eventsOf.mpr hr))

theorem effect_before {before after : List (CallEvent ι R A)} {i : ι} {a : A}
    (h : Atomic (before ++ .response i a :: after)) : ∃ r, .effect i r ∈ before := by
  have hi := h i
  rw [eventsOf_append, eventsOf_cons_self (i := i) rfl] at hi
  obtain ⟨r, hr⟩ := hi.effect_before
  exact ⟨r, (List.mem_filter.mp hr).1⟩

theorem effect_after {before after : List (CallEvent ι R A)} {i : ι} {r r' : R}
    (h : Atomic (before ++ .invoke i r :: after)) (hr : .effect i r' ∈ before ++ .invoke i r :: after) :
    .effect i r' ∈ after := by
  have hi := h i
  rw [eventsOf_append, eventsOf_cons_self (i := i) rfl] at hi
  have hnone : eventsOf before i = [] := hi.nothing_before
  have hbefore : .effect i r' ∉ before := by
    intro hmem
    have hself : .effect i r' ∈ eventsOf before i := mem_eventsOf.mpr hmem
    rw [hnone] at hself
    cases hself
  simpa [hbefore] using hr

theorem effect_of_response {i : ι} {a : A} (h : Atomic log) (ha : .response i a ∈ log) :
    i ∈ (effects log).map Prod.fst := by
  obtain ⟨before, after, rfl⟩ := List.append_of_mem ha
  obtain ⟨r, hr⟩ := h.effect_before
  exact List.mem_map.mpr ⟨(i, r), mem_effects.mpr (List.mem_append_left _ hr), rfl⟩

/-- A call that was answered before another one was made takes effect before it. -/
theorem effects_of_precedes {i j : ι} (h : Atomic log) (hij : Precedes log i j)
    (hj : j ∈ (effects log).map Prod.fst) : List.Sublist [i, j] ((effects log).map Prod.fst) := by
  obtain ⟨before, mid, after, a, q, rfl⟩ := hij.split
  obtain ⟨r, hr⟩ := h.effect_before
  obtain ⟨call, hr', rfl⟩ := List.mem_map.mp hj
  have hassoc : before ++ .response i a :: (mid ++ .invoke call.1 q :: after) =
      (before ++ .response i a :: mid) ++ .invoke call.1 q :: after := by simp
  have hafter : .effect call.1 call.2 ∈ after := by
    rw [hassoc] at h hr'
    exact h.effect_after (mem_effects.mp hr')
  have hi : List.Sublist [i] ((effects before).map Prod.fst) :=
    List.singleton_sublist.mpr (List.mem_map.mpr ⟨(i, r), mem_effects.mpr hr, rfl⟩)
  have hj : List.Sublist [call.1] ((effects (mid ++ .invoke call.1 q :: after)).map Prod.fst) := by
    apply List.singleton_sublist.mpr
    refine List.mem_map.mpr ⟨call, mem_effects.mpr ?_, rfl⟩
    simp [hafter]
  rw [effects_append, effects_response, List.map_append]
  exact hi.append hj

end Atomic

/-! ### The order of the effects -/

section Order
variable {object : SequentialObject σ R C A} {log : List (CallEvent ι R A)}

omit [DecidableEq ι] in
theorem legal_append {s : σ} {order rest : List (ι × C)} : Legal object log s (order ++ rest) ↔
    Legal object log s order ∧ Legal object log ((order.map Prod.snd).foldl object.apply s) rest := by
  induction order generalizing s with
  | nil => simp [Legal]
  | cons call order ih =>
    rw [List.cons_append, Legal, Legal, ih, List.map_cons, List.foldl_cons, and_assoc]

/-- The order of the effects explains the answers, when each is right after the requests with
earlier effects, whatever their calls have met. -/
theorem linearizes_of_effects (hatomic : Atomic log)
    (hright : ∀ before i r after, effects log = before ++ (i, r) :: after → ∃ c, object.request c = some r ∧
      ∀ a, .response i a ∈ log → ∀ calls : List C, calls.map object.request = before.map (fun call => some call.2) →
        object.answer (calls.foldl object.apply object.init) c = some a) :
    ∃ order : List (ι × C), Linearizes object log order ∧
      order.map (fun call => object.request call.2) = (effects log).map fun call => some call.2 := by
  have hprefix : ∀ done rest, effects log = done ++ rest → ∃ order : List (ι × C),
      order.map (fun call => (call.1, object.request call.2)) = done.map (fun call => (call.1, some call.2)) ∧
        Legal object log object.init order := by
    intro done
    induction done using List.reverseRecOn with
    | nil =>
      intro rest _
      exact ⟨[], rfl, trivial⟩
    | append_singleton done call ih =>
      intro rest hsplit
      obtain ⟨i, r⟩ := call
      rw [List.append_assoc, List.singleton_append] at hsplit
      obtain ⟨order, hcalls, hlegal⟩ := ih _ hsplit
      obtain ⟨c, hc, hanswer⟩ := hright done i r rest hsplit
      refine ⟨order ++ [(i, c)], by simp [hcalls, hc], legal_append.mpr ⟨hlegal, ?_, trivial⟩⟩
      intro a ha
      apply hanswer a ha
      simpa [Function.comp_def] using congrArg (List.map Prod.snd) hcalls
  obtain ⟨order, hcalls, hlegal⟩ := hprefix (effects log) [] (by simp)
  have hfst : order.map Prod.fst = (effects log).map Prod.fst := by
    simpa [Function.comp_def] using congrArg (List.map Prod.fst) hcalls
  have hsnd : order.map (fun call => object.request call.2) = (effects log).map fun call => some call.2 := by
    simpa [Function.comp_def] using congrArg (List.map Prod.snd) hcalls
  refine ⟨order, ⟨?_, ?_, ?_, hlegal, ?_⟩, hsnd⟩
  · rw [hfst]
    exact hatomic.effects_nodup
  · intro i c hmem
    have hpair : (i, object.request c) ∈ (effects log).map fun call => (call.1, some call.2) := by
      rw [← hcalls]
      exact List.mem_map.mpr ⟨(i, c), hmem, rfl⟩
    obtain ⟨⟨j, r⟩, heffect, hr⟩ := List.mem_map.mp hpair
    obtain ⟨hj, hc⟩ := Prod.mk.inj hr
    subst hj
    exact ⟨r, hc.symm, hatomic.invoke_of_effect (mem_effects.mp heffect)⟩
  · intro i a ha
    rw [hfst]
    exact hatomic.effect_of_response ha
  · intro i j hij hj
    rw [hfst] at hj ⊢
    exact hatomic.effects_of_precedes hij hj

end Order

end Log

section Between
variable {object : SequentialObject σ R C A} {log : List (CallEvent ι R A)} {order before mid after : List (ι × C)}
  {i j k : ι} {a : A} {c d : C}

theorem not_sublist_swap {l : List ι} (h : l.Nodup) (hij : List.Sublist [i, j] l) : ¬List.Sublist [j, i] l := by
  intro hji
  obtain ⟨before, after, rfl, hi, hj⟩ := List.cons_sublist_iff.mp hij
  obtain ⟨before', after', hsplit, hj', hi'⟩ := List.cons_sublist_iff.mp hji
  rw [List.singleton_sublist] at hj hi'
  have hdisjoint := List.disjoint_of_nodup_append h
  rw [hsplit] at h
  have hdisjoint' := List.disjoint_of_nodup_append h
  rcases List.append_eq_append_iff.mp hsplit with ⟨mid, rfl, rfl⟩ | ⟨mid, rfl, rfl⟩
  · exact hdisjoint' (List.mem_append_left _ hi) hi'
  · exact hdisjoint (List.mem_append_left _ hj') hj

theorem sublist_of_split {x y : ι × C} (hx : x ∈ before) (hy : y ∈ after) :
    List.Sublist [x.1, y.1] ((before ++ after).map Prod.fst) := by
  have hsub : List.Sublist ([x] ++ [y]) (before ++ after) :=
    (List.singleton_sublist.mpr hx).append (List.singleton_sublist.mpr hy)
  exact hsub.map Prod.fst

namespace Linearizes

/-- A call that is answered has its place in the order, and the answer of that place. -/
theorem place (h : Linearizes object log order) (hj : .response j a ∈ log) :
    ∃ before d after, order = before ++ (j, d) :: after ∧
      object.answer ((before.map Prod.snd).foldl object.apply object.init) d = some a := by
  have hlegal := h.legal
  obtain ⟨⟨_, d⟩, hmem, rfl⟩ := List.mem_map.mp (h.served j a hj)
  obtain ⟨before, after, rfl⟩ := List.append_of_mem hmem
  rw [legal_append] at hlegal
  exact ⟨before, d, after, rfl, hlegal.2.1 a hj⟩

/-- No call after another one in the order was answered before that one was made. -/
theorem not_precedes (h : Linearizes object log (before ++ (j, d) :: after)) {x : ι × C} (hx : x ∈ after) :
    ¬Precedes log x.1 j := by
  intro hprecedes
  have hsplit : before ++ (j, d) :: after = (before ++ [(j, d)]) ++ after := by simp
  have hsub := h.realTime _ _ hprecedes (by simp)
  have hnodup := h.nodup
  rw [hsplit] at hsub hnodup
  exact not_sublist_swap hnodup (sublist_of_split (x := (j, d)) (by simp) hx) hsub

theorem not_precedes_before (h : Linearizes object log (before ++ (j, d) :: after)) {x : ι × C}
    (hx : x ∈ before) : ¬Precedes log j x.1 := by
  intro hprecedes
  have hmem : x.1 ∈ (before ++ (j, d) :: after).map Prod.fst :=
    List.mem_map.mpr ⟨x, List.mem_append_left _ hx, rfl⟩
  have hsub := h.realTime _ _ hprecedes hmem
  exact not_sublist_swap h.nodup (sublist_of_split (y := (j, d)) hx (by simp)) hsub

/-- A call made only after the answer of another one has that one before it. -/
theorem mem_before (h : Linearizes object log (before ++ (j, d) :: after)) (hij : Precedes log i j) :
    ∃ c, (i, c) ∈ before := by
  have hsub := h.realTime i j hij (by simp)
  have hi : i ∈ (before ++ (j, d) :: after).map Prod.fst := hsub.subset (by simp)
  obtain ⟨⟨_, c⟩, hmem, rfl⟩ := List.mem_map.mp hi
  refine ⟨c, ?_⟩
  rcases List.mem_append.mp hmem with hbefore | hrest
  · exact hbefore
  · rcases List.mem_cons.mp hrest with heq | hafter
    · cases heq
      exact absurd hsub (not_sublist_swap h.nodup hsub)
    · exact absurd hij (h.not_precedes hafter)

end Linearizes

end Between

end MoveitPlanning.Foundation
