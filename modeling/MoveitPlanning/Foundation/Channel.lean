import Mathlib.Order.Interval.Finset.Nat

/-! A reliable channel without order. Messages are numbered as they are sent; each is in
flight until it is delivered, once, and any one in flight may be the next. The channel
carries the proof that a message is in exactly one of these places, so what has been
sent and is not in flight has arrived. -/

namespace MoveitPlanning.Foundation

variable {M : Type*}

structure Channel (M : Type*) where
  sent : List M
  inFlight : Finset ℕ
  /-- the numbers of the messages that have arrived, in the order of their arrival -/
  delivered : List ℕ
  covered : ∀ k, k < sent.length ↔ k ∈ inFlight ∨ k ∈ delivered
  disjoint : ∀ k ∈ inFlight, k ∉ delivered

namespace Channel

def empty : Channel M := ⟨[], ∅, [], by simp, by simp⟩

def send (c : Channel M) (ms : List M) : Channel M where
  sent := c.sent ++ ms
  inFlight := c.inFlight ∪ Finset.Ico c.sent.length (c.sent.length + ms.length)
  delivered := c.delivered
  covered k := by
    rw [List.length_append, Finset.mem_union, Finset.mem_Ico, or_right_comm, ← c.covered k]
    omega
  disjoint k hk := by
    intro hd
    have hlt := (c.covered k).mpr (.inr hd)
    rcases Finset.mem_union.mp hk with hk | hk
    · exact c.disjoint k hk hd
    · exact absurd (Finset.mem_Ico.mp hk).1 (by omega)

/-- The arrival of message `k`. -/
def deliver (c : Channel M) (k : ℕ) : Option (Channel M) :=
  if hk : k ∈ c.inFlight then
    some {
      sent := c.sent
      inFlight := c.inFlight.erase k
      delivered := c.delivered ++ [k]
      covered := fun j => by
        rw [c.covered j, Finset.mem_erase, List.mem_append, List.mem_singleton]
        by_cases hj : j = k
        · simp [hj, hk]
        · simp [hj]
      disjoint := fun j hj => by
        rw [Finset.mem_erase] at hj
        rw [List.mem_append, List.mem_singleton, not_or]
        exact ⟨c.disjoint j hj.2, hj.1⟩ }
  else none

/-- What has arrived, in the order of its arrival. -/
def received (c : Channel M) : List M := c.delivered.filterMap fun k => c.sent[k]?

theorem mem_delivered {c : Channel M} {k : ℕ} (hk : k < c.sent.length) (hf : k ∉ c.inFlight) :
    k ∈ c.delivered := ((c.covered k).mp hk).resolve_left hf

theorem deliver_eq_some {c c' : Channel M} {k : ℕ} (h : c.deliver k = some c') :
    c'.sent = c.sent ∧ c'.delivered = c.delivered ++ [k] := by
  unfold deliver at h
  split at h
  · obtain rfl := Option.some.inj h
    exact ⟨rfl, rfl⟩
  · cases h

@[simp] theorem send_delivered (c : Channel M) (ms : List M) : (c.send ms).delivered = c.delivered := rfl

@[simp] theorem send_sent (c : Channel M) (ms : List M) : (c.send ms).sent = c.sent ++ ms := rfl

end Channel

end MoveitPlanning.Foundation
