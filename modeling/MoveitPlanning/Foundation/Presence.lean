import Mathlib.Data.List.Basic

/-! What a log of events leaves present. An event may add a key, remove it, or need it
to be there; a key is present once it has been added and as long as it is not removed,
and a log is sound when every event finds the keys it needs. Logs grow at the end, so
each notion is described by what one more event does to it. -/

namespace MoveitPlanning.Foundation

variable {E K : Type*} (adds removes needs : E → K → Prop)

/-- Some event has added the key, and none has removed it since. -/
def Present (log : List E) (k : K) : Prop :=
  ∃ before e after, log = before ++ e :: after ∧ adds e k ∧ ∀ e' ∈ after, ¬removes e' k

/-- Every event finds what it needs. -/
def Sound (log : List E) : Prop :=
  ∀ before e after, log = before ++ e :: after → ∀ k, needs e k → Present adds removes before k

variable {adds removes needs}

theorem append_singleton_eq {log before after : List E} {e last : E} :
    log ++ [last] = before ++ e :: after ↔
      (after = [] ∧ last = e ∧ log = before) ∨ ∃ rest, after = rest ++ [last] ∧ log = before ++ e :: rest := by
  constructor
  · intro h
    rcases List.eq_nil_or_concat after with rfl | ⟨rest, x, rfl⟩
    · obtain ⟨hlog, hlast⟩ := List.append_inj' h rfl
      exact .inl ⟨rfl, List.singleton_inj.mp hlast, hlog⟩
    · have h' : log ++ [last] = (before ++ e :: rest) ++ [x] := by simpa using h
      obtain ⟨hlog, hlast⟩ := List.append_inj' h' rfl
      obtain rfl := List.singleton_inj.mp hlast
      exact .inr ⟨rest, by simp, hlog⟩
  · rintro (⟨rfl, rfl, rfl⟩ | ⟨rest, rfl, rfl⟩)
    · rfl
    · simp

theorem present_concat {log : List E} {e : E} {k : K} :
    Present adds removes (log ++ [e]) k ↔ adds e k ∨ Present adds removes log k ∧ ¬removes e k := by
  constructor
  · rintro ⟨before, e', after, hlog, hadds, hafter⟩
    rcases append_singleton_eq.mp hlog with ⟨-, rfl, -⟩ | ⟨rest, rfl, rfl⟩
    · exact .inl hadds
    · exact .inr ⟨⟨before, e', rest, rfl, hadds, fun x hx => hafter x (by simp [hx])⟩, hafter e (by simp)⟩
  · rintro (hadds | ⟨⟨before, e', after, rfl, hadds, hafter⟩, hremoves⟩)
    · exact ⟨log, e, [], rfl, hadds, by simp⟩
    · refine ⟨before, e', after ++ [e], by simp, hadds, fun x hx => ?_⟩
      rcases List.mem_append.mp hx with hx | hx
      · exact hafter x hx
      · rwa [List.mem_singleton.mp hx]

theorem not_present_nil (k : K) : ¬Present adds removes [] k := by
  rintro ⟨before, e, after, hlog, -⟩
  simp at hlog

theorem sound_nil : Sound adds removes needs [] := by
  intro before e after hlog
  simp at hlog

theorem sound_concat {log : List E} {e : E} :
    Sound adds removes needs (log ++ [e]) ↔
      Sound adds removes needs log ∧ ∀ k, needs e k → Present adds removes log k := by
  constructor
  · intro h
    refine ⟨fun before e' after hlog => h before e' (after ++ [e]) (by simp [hlog]), ?_⟩
    exact h log e [] rfl
  · rintro ⟨hlog, he⟩ before e' after hsplit
    rcases append_singleton_eq.mp hsplit with ⟨-, rfl, rfl⟩ | ⟨rest, -, hrest⟩
    · exact he
    · exact hlog before e' rest hrest

end MoveitPlanning.Foundation
