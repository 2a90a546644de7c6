import Mathlib.Data.List.Basic

/-! Threads that write to one cell and agree on what they write, each as often and in
whatever order it likes. The cell holds the agreed value once a thread has written, so
it does not matter how the threads are mixed, nor how many of them there are. -/

namespace MoveitPlanning.Foundation

variable {V : Type*}

/-- Each thread has only the agreed value to write, and when none has any write left the
cell has it, or what it held at first if there was nothing to write. -/
structure Settles (agreed first : Option V) (threads : List (List V)) (value : Option V) : Prop where
  agree : ∀ todo ∈ threads, ∀ v ∈ todo, agreed = some v
  value : (∀ todo ∈ threads, todo = []) → value = agreed.or first

variable {writes todo : List V} {agreed first value : Option V} {threads : List (List V)} {v : V} {i : ℕ}

theorem settles_start (hquiet : ∀ todo ∈ threads, todo = []) (hi : i < threads.length)
    (hagree : ∀ v ∈ writes, agreed = some v) (hnone : writes = [] → agreed = none) :
    Settles agreed first (threads.set i writes) first where
  agree rest hrest v hv := by
    rcases List.mem_or_eq_of_mem_set hrest with hrest | rfl
    · rw [hquiet rest hrest] at hv
      cases hv
    · exact hagree v hv
  value hdone := by rw [hnone (hdone writes (List.mem_set hi writes)), Option.none_or]

theorem Settles.start (h : Settles agreed first threads value) (hi : threads[i]? = some [])
    (hagree : ∀ v ∈ writes, agreed = some v) : Settles agreed first (threads.set i writes) value where
  agree rest hrest v hv := by
    rcases List.mem_or_eq_of_mem_set hrest with hrest | rfl
    · exact h.agree rest hrest v hv
    · exact hagree v hv
  value hdone := by
    obtain ⟨hlt, hget⟩ := List.getElem?_eq_some_iff.mp hi
    have hnil : writes = [] := hdone writes (List.mem_set hlt writes)
    refine h.value fun rest hrest => hdone rest ?_
    rwa [hnil, ← hget, List.set_getElem_self]

theorem Settles.write (h : Settles agreed first threads value) (hi : threads[i]? = some (v :: todo)) :
    Settles agreed first (threads.set i todo) (some v) := by
  have hagree := h.agree _ (List.mem_of_getElem? hi)
  refine ⟨fun rest hrest => ?_, fun _ => ?_⟩
  · rcases List.mem_or_eq_of_mem_set hrest with hrest | rfl
    · exact h.agree rest hrest
    · exact fun w hw => hagree w (List.mem_cons_of_mem _ hw)
  · rw [hagree v List.mem_cons_self, Option.some_or]

theorem Settles.append (h : Settles agreed first threads value) : Settles agreed first (threads ++ [[]]) value where
  agree rest hrest v hv := by
    rcases List.mem_append.mp hrest with hrest | hrest
    · exact h.agree rest hrest v hv
    · rw [List.mem_singleton.mp hrest] at hv
      cases hv
  value hdone := h.value fun rest hrest => hdone rest (List.mem_append_left _ hrest)

end MoveitPlanning.Foundation
