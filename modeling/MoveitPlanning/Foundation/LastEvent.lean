import Mathlib.Data.List.Induction
import MoveitPlanning.Foundation.Presence

/-! The last value in a log of events. An event may set a value, or reset what was set
before it; the value of a log is the last one set since the last reset. When each value
follows the last one before it in a transitive order, then any two values without a
reset between them are in that order. -/

namespace MoveitPlanning.Foundation

variable {E V : Type*} (sets : E → Option V) (resets : E → Prop) [DecidablePred resets]

/-- One more event after a log with the value `last`. -/
def nextSet (last : Option V) (e : E) : Option V := if resets e then none else (sets e).or last

/-- The last value set since the last reset. -/
def lastSet (log : List E) : Option V := log.foldl (nextSet sets resets) none

@[simp] theorem lastSet_nil : lastSet sets resets [] = none := rfl

theorem lastSet_concat (log : List E) (e : E) :
    lastSet sets resets (log ++ [e]) = nextSet sets resets (lastSet sets resets log) e := by
  rw [lastSet, List.foldl_append, List.foldl_cons, List.foldl_nil, lastSet]

variable {sets resets}

/-- An event that neither sets nor resets leaves the value as it is. -/
theorem lastSet_concat_of_none {log : List E} {e : E} (hsets : sets e = none) (hresets : ¬resets e) :
    lastSet sets resets (log ++ [e]) = lastSet sets resets log := by
  rw [lastSet_concat, nextSet, if_neg hresets, hsets, Option.none_or]

theorem lastSet_append_of_none {log rest : List E} (h : ∀ e ∈ rest, sets e = none ∧ ¬resets e) :
    lastSet sets resets (log ++ rest) = lastSet sets resets log := by
  induction rest generalizing log with
  | nil => rw [List.append_nil]
  | cons e rest ih =>
    rw [← List.singleton_append, ← List.append_assoc, ih fun x hx => h x (by simp [hx])]
    exact lastSet_concat_of_none (h e (by simp)).1 (h e (by simp)).2

/-- The value of a log is that of one of its events, after which nothing is set or reset. -/
theorem lastSet_eq_some_iff {log : List E} {v : V} : lastSet sets resets log = some v ↔
    ∃ before e after, log = before ++ e :: after ∧ sets e = some v ∧ ¬resets e ∧
      ∀ x ∈ after, sets x = none ∧ ¬resets x := by
  constructor
  · intro h
    induction log using List.reverseRecOn with
    | nil => cases h
    | append_singleton log e ih =>
      rw [lastSet_concat, nextSet] at h
      split_ifs at h with hresets
      cases hsets : sets e with
      | some w =>
        rw [hsets, Option.some_or] at h
        exact ⟨log, e, [], rfl, by rw [hsets, h], hresets, by simp⟩
      | none =>
        rw [hsets, Option.none_or] at h
        obtain ⟨before, e', after, rfl, hset, hreset, hafter⟩ := ih h
        refine ⟨before, e', after ++ [e], by simp, hset, hreset, fun x hx => ?_⟩
        rcases List.mem_append.mp hx with hx | hx
        · exact hafter x hx
        · rw [List.mem_singleton.mp hx]
          exact ⟨hsets, hresets⟩
  · rintro ⟨before, e, after, rfl, hsets, hresets, hafter⟩
    rw [← List.singleton_append, ← List.append_assoc, lastSet_append_of_none hafter, lastSet_concat,
      nextSet, if_neg hresets, hsets, Option.some_or]

/-! ### Logs in which each value follows the last -/

variable (sets resets) (follows : V → V → Prop)

/-- Each value follows the last one before it. -/
def Chained (log : List E) : Prop :=
  ∀ before e after, log = before ++ e :: after → ∀ v, sets e = some v →
    ∀ u, lastSet sets resets before = some u → follows u v

variable {sets resets follows}

theorem chained_nil : Chained sets resets follows [] := by
  intro before e after hlog
  simp at hlog

theorem Chained.concat {log : List E} {e : E} (h : Chained sets resets follows log)
    (he : ∀ v, sets e = some v → ∀ u, lastSet sets resets log = some u → follows u v) :
    Chained sets resets follows (log ++ [e]) := by
  intro before e' after hsplit
  rcases append_singleton_eq.mp hsplit with ⟨-, rfl, rfl⟩ | ⟨rest, -, hrest⟩
  · exact he
  · exact h before e' rest hrest

theorem Chained.of_append {log rest : List E} (h : Chained sets resets follows (log ++ rest)) :
    Chained sets resets follows log := fun before e after hsplit =>
  h before e (after ++ rest) (by rw [hsplit, List.append_assoc, List.cons_append])

/-- After a value has been set and while it is not reset, the last value is that one or
follows it. -/
theorem Chained.last_follows (htrans : ∀ u v w, follows u v → follows v w → follows u w) {before after : List E}
    {e : E} {u : V} (h : Chained sets resets follows (before ++ e :: after)) (hsets : sets e = some u)
    (hresets : ∀ x ∈ e :: after, ¬resets x) :
    ∃ w, lastSet sets resets (before ++ e :: after) = some w ∧ (w = u ∨ follows u w) := by
  induction after using List.reverseRecOn with
  | nil =>
    refine ⟨u, ?_, .inl rfl⟩
    rw [lastSet_concat, nextSet, if_neg (hresets e (by simp)), hsets, Option.some_or]
  | append_singleton after x ih =>
    have hlog : before ++ e :: (after ++ [x]) = (before ++ e :: after) ++ [x] := by simp
    rw [hlog] at h ⊢
    obtain ⟨w, hw, hfollows⟩ := ih h.of_append fun y hy => hresets y (by
      rcases List.mem_cons.mp hy with rfl | hy
      · simp
      · simp [hy])
    rw [lastSet_concat, nextSet, if_neg (hresets x (by simp)), hw]
    cases hx : sets x with
    | none => exact ⟨w, rfl, hfollows⟩
    | some v =>
      have hwv : follows w v := h _ x [] rfl v hx w hw
      refine ⟨v, rfl, .inr ?_⟩
      rcases hfollows with rfl | huw
      · exact hwv
      · exact htrans u w v huw hwv

theorem Chained.follows_of_not_reset (htrans : ∀ u v w, follows u v → follows v w → follows u w)
    {before between after : List E} {e e' : E} {u v : V}
    (h : Chained sets resets follows (before ++ e :: (between ++ e' :: after))) (hu : sets e = some u)
    (hv : sets e' = some v) (hresets : ∀ x ∈ e :: between, ¬resets x) : follows u v := by
  have hlog : before ++ e :: (between ++ e' :: after) = (before ++ e :: between) ++ e' :: after := by simp
  rw [hlog] at h
  obtain ⟨w, hw, rfl | huw⟩ := h.of_append.last_follows htrans hu hresets
  · exact h _ e' after rfl v hv w hw
  · exact htrans u w v huw (h _ e' after rfl v hv w hw)

end MoveitPlanning.Foundation
