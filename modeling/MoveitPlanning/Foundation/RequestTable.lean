import Mathlib.Data.Finset.Card
import Mathlib.Data.List.Dedup
import MoveitPlanning.Foundation.Run

/-! A client of a service that several threads share. Requests are numbered as they are
sent, and a table holds the promises of those that are pending. A thread sends a request,
waits for its promise, and removes the request from the table when the wait ends without a
response; another thread receives the responses, and sets the promise of a request while
it is pending. In every interleaving a caller gets the first response to its own request,
or gives up before any has come (`CallersInv.result`), and only requests of callers under
way are pending (`CallersInv.pending_card_le`). The table stands for what `rclcpp` documents
of `Client` (`async_send_request`, `remove_pending_request` and the handling of responses),
whose code is not part of the repository; the steps of a caller are its own. -/

namespace MoveitPlanning.Foundation

variable {Q V : Type*}

structure RequestTable (V : Type*) where
  /-- the promise of each request, by its number -/
  promises : List (Option V)
  pending : Finset ℕ
  unset : ∀ k ∈ pending, promises[k]? = some none

namespace RequestTable

def empty : RequestTable V := ⟨[], ∅, by simp⟩

def send (t : RequestTable V) : RequestTable V where
  promises := t.promises ++ [none]
  pending := insert t.promises.length t.pending
  unset k hk := by
    rcases Finset.mem_insert.mp hk with rfl | hk
    · simp
    · have hlt := (List.getElem?_eq_some_iff.mp (t.unset k hk)).1
      rw [List.getElem?_append_left hlt]
      exact t.unset k hk

/-- A response to a request that is not pending is dropped. -/
def receive (t : RequestTable V) (k : ℕ) (v : V) : RequestTable V where
  promises := if k ∈ t.pending then t.promises.set k (some v) else t.promises
  pending := t.pending.erase k
  unset j hj := by
    obtain ⟨hne, hj⟩ := Finset.mem_erase.mp hj
    split_ifs
    · rw [List.getElem?_set_ne hne.symm]
      exact t.unset j hj
    · exact t.unset j hj

def remove (t : RequestTable V) (k : ℕ) : RequestTable V where
  promises := t.promises
  pending := t.pending.erase k
  unset j hj := t.unset j (Finset.mem_erase.mp hj).2

end RequestTable

/-! ### Callers -/

inductive CallerPc (V : Type*)
  | called
  | waiting (request : ℕ)
  /-- the wait has ended without a response -/
  | abandoning (request : ℕ)
  | returned (request : Option ℕ) (response : Option V)
  deriving DecidableEq

namespace CallerPc

/-- The request that was sent. -/
def request? : CallerPc V → Option ℕ
  | called => none
  | waiting k => some k
  | abandoning k => some k
  | returned k _ => k

/-- The request that the caller still has to wait for or to remove. -/
def holds? : CallerPc V → Option ℕ
  | waiting k => some k
  | abandoning k => some k
  | _ => none

end CallerPc

inductive CallerLabel
  /-- there is no service -/
  | unavailable
  | send
  | ready
  | timeOut
  | remove
  deriving DecidableEq

def callerStep (t : RequestTable V) : CallerPc V → CallerLabel → Option (CallerPc V × RequestTable V)
  | .called, .unavailable => some (.returned none none, t)
  | .called, .send => some (.waiting t.promises.length, t.send)
  | .waiting k, .ready => (t.promises[k]?.bind id).map fun v => (.returned (some k) (some v), t)
  | .waiting k, .timeOut => if (t.promises[k]?.bind id).isNone then some (.abandoning k, t) else none
  | .abandoning k, .remove => some (.returned (some k) none, t.remove k)
  | _, _ => none

/-- A caller, with what it asks for. -/
structure Caller (Q V : Type*) where
  query : Q
  pc : CallerPc V
  deriving DecidableEq

structure ClientState (Q V : Type*) where
  table : RequestTable V
  callers : List (Caller Q V)

def ClientState.empty : ClientState Q V := ⟨.empty, []⟩

inductive ClientLabel (Q V : Type*)
  | call (query : Q)
  | caller (number : ℕ) (label : CallerLabel)
  /-- a response to a request that was sent -/
  | receive (request : ℕ) (response : V)

def clientStep (s : ClientState Q V) : ClientLabel Q V → Option (ClientState Q V)
  | .call query => some { s with callers := s.callers ++ [⟨query, .called⟩] }
  | .caller c label => s.callers[c]?.bind fun caller =>
    (callerStep s.table caller.pc label).map fun r => ⟨r.2, s.callers.set c ⟨caller.query, r.1⟩⟩
  | .receive k v => if k < s.table.promises.length then some { s with table := s.table.receive k v } else none

/-- The first response to the request. -/
def firstResponse (k : ℕ) (log : List (ClientLabel Q V)) : Option V := log.findSome? fun
  | .receive request v => if request = k then some v else none
  | _ => none

theorem firstResponse_receive (k : ℕ) (log : List (ClientLabel Q V)) (request : ℕ) (v : V) :
    firstResponse k (log ++ [.receive request v]) =
      (firstResponse k log).or (if request = k then some v else none) := by
  simp [firstResponse, List.findSome?_append]

theorem firstResponse_call (k : ℕ) (log : List (ClientLabel Q V)) (query : Q) :
    firstResponse k (log ++ [.call query]) = firstResponse k log := by
  simp [firstResponse, List.findSome?_append]

theorem firstResponse_caller (k : ℕ) (log : List (ClientLabel Q V)) (c : ℕ) (label : CallerLabel) :
    firstResponse k (log ++ [.caller c label]) = firstResponse k log := by
  simp [firstResponse, List.findSome?_append]

/-- The wait of the caller has ended before any response to the request had come. -/
def GaveUp (log : List (ClientLabel Q V)) (c k : ℕ) : Prop :=
  ∃ before after, log = before ++ .caller c .timeOut :: after ∧ firstResponse k before = none

theorem GaveUp.concat {log : List (ClientLabel Q V)} {c k : ℕ} (h : GaveUp log c k) (l : ClientLabel Q V) :
    GaveUp (log ++ [l]) c k := by
  obtain ⟨before, after, rfl, hnone⟩ := h
  exact ⟨before, after ++ [l], by simp, hnone⟩

/-! ### The invariant -/

/-- What is known of caller `c` when it has come here. -/
def CallerPc.Explained (table : RequestTable V) (log : List (ClientLabel Q V)) (c : ℕ) : CallerPc V → Prop
  | called => True
  | waiting k => table.promises[k]? = some (firstResponse k log) ∧ (firstResponse k log = none → k ∈ table.pending)
  | abandoning k => GaveUp log c k
  | returned (some k) (some v) => firstResponse k log = some v
  | returned (some k) none => GaveUp log c k
  | returned none response => response = none

/-- Steps that receive no response and leave the promise and the place in the table. -/
theorem CallerPc.Explained.concat {table table' : RequestTable V} {log : List (ClientLabel Q V)} {c : ℕ}
    {pc : CallerPc V} {l : ClientLabel Q V} (h : pc.Explained table log c)
    (hlog : ∀ k, firstResponse k (log ++ [l]) = firstResponse k log)
    (htable : ∀ k, pc = waiting k → table'.promises[k]? = table.promises[k]? ∧
      (k ∈ table.pending → k ∈ table'.pending)) : pc.Explained table' (log ++ [l]) c := by
  cases pc with
  | called => trivial
  | waiting k =>
    obtain ⟨hpromise, hpending⟩ := h
    obtain ⟨hsame, hkept⟩ := htable k rfl
    rw [CallerPc.Explained, hlog, hsame]
    exact ⟨hpromise, fun hnone => hkept (hpending hnone)⟩
  | abandoning k => exact GaveUp.concat h l
  | returned request response =>
    cases request with
    | none => exact h
    | some k =>
      cases response with
      | none => exact GaveUp.concat h l
      | some v => exact (hlog k).trans h

structure CallersInv (log : List (ClientLabel Q V)) (s : ClientState Q V) : Prop where
  sent : ∀ (c : ℕ) (caller : Caller Q V) (k : ℕ), s.callers[c]? = some caller → caller.pc.request? = some k →
    k < s.table.promises.length
  own : ∀ (c d : ℕ) (caller caller' : Caller Q V) (k : ℕ), s.callers[c]? = some caller → s.callers[d]? = some caller' →
    caller.pc.request? = some k → caller'.pc.request? = some k → c = d
  held : ∀ k ∈ s.table.pending, ∃ (c : ℕ) (caller : Caller Q V), s.callers[c]? = some caller ∧
    caller.pc.holds? = some k
  unsent : ∀ k, s.table.promises.length ≤ k → firstResponse k log = none
  explained : ∀ (c : ℕ) (caller : Caller Q V), s.callers[c]? = some caller → caller.pc.Explained s.table log c

theorem callersInv_empty : CallersInv ([] : List (ClientLabel Q V)) .empty where
  sent c caller k hc := by simp [ClientState.empty] at hc
  own c d caller caller' k hc := by simp [ClientState.empty] at hc
  held k hk := by simp [ClientState.empty, RequestTable.empty] at hk
  unsent k _ := rfl
  explained c caller hc := by simp [ClientState.empty] at hc

section Steps
variable {log : List (ClientLabel Q V)} {s : ClientState Q V}

theorem CallersInv.call (h : CallersInv log s) (query : Q) :
    CallersInv (log ++ [.call query]) { s with callers := s.callers ++ [⟨query, .called⟩] } where
  sent c caller k hc hk := by
    rcases getElem?_append_singleton hc with hold | ⟨-, rfl⟩
    · exact h.sent c caller k hold hk
    · cases hk
  own c d caller caller' k hc hd hk hk' := by
    rcases getElem?_append_singleton hc with hold | ⟨-, rfl⟩
    · rcases getElem?_append_singleton hd with hold' | ⟨-, rfl⟩
      · exact h.own c d caller caller' k hold hold' hk hk'
      · cases hk'
    · cases hk
  held k hk := by
    obtain ⟨c, caller, hc, hholds⟩ := h.held k hk
    refine ⟨c, caller, ?_, hholds⟩
    rw [List.getElem?_append_left (List.getElem?_eq_some_iff.mp hc).1]
    exact hc
  unsent k hk := by
    rw [firstResponse_call]
    exact h.unsent k hk
  explained c caller hc := by
    rcases getElem?_append_singleton hc with hold | ⟨-, rfl⟩
    · exact (h.explained c caller hold).concat (fun k => firstResponse_call k log query) fun _ _ => ⟨rfl, id⟩
    · trivial

section Caller
variable {c : ℕ} {query : Q} {pc pc' : CallerPc V} {table' : RequestTable V}

/-- A step of one caller, in terms of what it does to the caller's request and to the table. -/
theorem CallersInv.update (h : CallersInv log s) (hc : s.callers[c]? = some ⟨query, pc⟩) {l : ClientLabel Q V}
    (hlog : ∀ k, firstResponse k (log ++ [l]) = firstResponse k log)
    (hlength : s.table.promises.length ≤ table'.promises.length)
    (hrequest : ∀ k, pc'.request? = some k → k < table'.promises.length ∧
      (pc.request? = some k ∨ s.table.promises.length ≤ k))
    (hpending : ∀ k ∈ table'.pending, k ∈ s.table.pending ∧ pc.holds? ≠ some k ∨ pc'.holds? = some k)
    (hkeep : ∀ k, k < s.table.promises.length → pc.request? ≠ some k →
      table'.promises[k]? = s.table.promises[k]? ∧ (k ∈ s.table.pending → k ∈ table'.pending))
    (hpc' : pc'.Explained table' (log ++ [l]) c) :
    CallersInv (log ++ [l]) ⟨table', s.callers.set c ⟨query, pc'⟩⟩ where
  sent d caller k hd hk := by
    rcases getElem?_set_eq_some hd with ⟨rfl, rfl⟩ | ⟨-, hold⟩
    · exact (hrequest k hk).1
    · exact lt_of_lt_of_le (h.sent d caller k hold hk) hlength
  own d e caller caller' k hd he hk hk' := by
    -- a request of another caller is neither that of this one nor new
    have hother : ∀ (d : ℕ) (caller : Caller Q V), d ≠ c → s.callers[d]? = some caller → caller.pc.request? = some k →
        pc'.request? ≠ some k := by
      intro d caller hdc hold hk hself
      rcases (hrequest k hself).2 with hbefore | hnew
      · exact hdc (h.own d c caller ⟨query, pc⟩ k hold hc hk hbefore)
      · exact absurd (h.sent d caller k hold hk) (not_lt.mpr hnew)
    rcases getElem?_set_eq_some hd with ⟨rfl, rfl⟩ | ⟨hdc, hold⟩
    · rcases getElem?_set_eq_some he with ⟨rfl, rfl⟩ | ⟨hec, hold'⟩
      · rfl
      · exact absurd hk (hother e caller' hec hold' hk')
    · rcases getElem?_set_eq_some he with ⟨rfl, rfl⟩ | ⟨hec, hold'⟩
      · exact absurd hk' (hother d caller hdc hold hk)
      · exact h.own d e caller caller' k hold hold' hk hk'
  held k hk := by
    have hlt : c < s.callers.length := (List.getElem?_eq_some_iff.mp hc).1
    rcases hpending k hk with ⟨hbefore, hnot⟩ | hself
    · obtain ⟨d, caller, hd, hholds⟩ := h.held k hbefore
      have hdc : d ≠ c := by
        rintro rfl
        rw [hc] at hd
        cases hd
        exact hnot hholds
      exact ⟨d, caller, by rw [List.getElem?_set_ne hdc.symm, hd], hholds⟩
    · exact ⟨c, ⟨query, pc'⟩, List.getElem?_set_self hlt, hself⟩
  unsent k hk := by
    rw [hlog]
    exact h.unsent k (le_trans hlength hk)
  explained d caller hd := by
    rcases getElem?_set_eq_some hd with ⟨rfl, rfl⟩ | ⟨hdc, hold⟩
    · exact hpc'
    · apply (h.explained d caller hold).concat hlog
      intro k hk
      have hrequest' : caller.pc.request? = some k := by rw [hk, CallerPc.request?]
      apply hkeep k (h.sent d caller k hold hrequest')
      intro hself
      exact hdc (h.own d c caller ⟨query, pc⟩ k hold hc hrequest' hself)

theorem promise_of_waiting (h : CallersInv log s) {k : ℕ} (hc : s.callers[c]? = some ⟨query, .waiting k⟩) :
    s.table.promises[k]?.bind id = firstResponse k log := by
  obtain ⟨hpromise, -⟩ := h.explained c _ hc
  rw [hpromise, Option.bind_some, id]

theorem CallersInv.caller (h : CallersInv log s) (hc : s.callers[c]? = some ⟨query, pc⟩) {label : CallerLabel}
    (hstep : callerStep s.table pc label = some (pc', table')) :
    CallersInv (log ++ [.caller c label]) ⟨table', s.callers.set c ⟨query, pc'⟩⟩ := by
  have hlog : ∀ k, firstResponse k (log ++ [.caller c label]) = firstResponse k log :=
    fun k => firstResponse_caller k log c label
  cases pc with
  | called =>
    cases label with
    | unavailable =>
      cases hstep
      apply h.update hc hlog le_rfl
      · intro k hk
        cases hk
      · intro k hk
        exact .inl ⟨hk, by simp [CallerPc.holds?]⟩
      · intro k _ _
        exact ⟨rfl, id⟩
      · rfl
    | send =>
      cases hstep
      apply h.update hc hlog
      · simp [RequestTable.send]
      · intro k hk
        obtain rfl : s.table.promises.length = k := Option.some.inj hk
        exact ⟨by simp [RequestTable.send], .inr le_rfl⟩
      · intro k hk
        rcases Finset.mem_insert.mp hk with rfl | hk
        · exact .inr rfl
        · exact .inl ⟨hk, by simp [CallerPc.holds?]⟩
      · intro k hk _
        exact ⟨List.getElem?_append_left hk, fun hpending => Finset.mem_insert_of_mem hpending⟩
      · rw [CallerPc.Explained, hlog, h.unsent _ le_rfl]
        exact ⟨List.getElem?_concat_length, fun _ => Finset.mem_insert_self _ _⟩
    | _ => cases hstep
  | waiting k =>
    cases label with
    | ready =>
      obtain ⟨v, hv, heq⟩ := Option.map_eq_some_iff.mp hstep
      cases heq
      rw [promise_of_waiting h hc] at hv
      apply h.update hc hlog le_rfl
      · intro j hj
        obtain rfl : k = j := Option.some.inj hj
        exact ⟨h.sent c _ k hc rfl, .inl rfl⟩
      · intro j hj
        refine .inl ⟨hj, ?_⟩
        rintro ⟨⟩
        obtain ⟨hpromise, -⟩ := h.explained c _ hc
        rw [s.table.unset k hj, hv] at hpromise
        cases hpromise
      · intro j _ _
        exact ⟨rfl, id⟩
      · exact (hlog k).trans hv
    | timeOut =>
      obtain ⟨hnone, heq⟩ := Option.ite_none_right_eq_some.mp hstep
      cases heq
      rw [promise_of_waiting h hc, Option.isNone_iff_eq_none] at hnone
      apply h.update hc hlog le_rfl
      · intro j hj
        obtain rfl : k = j := Option.some.inj hj
        exact ⟨h.sent c _ k hc rfl, .inl rfl⟩
      · intro j hj
        by_cases hjk : j = k
        · exact .inr (by rw [hjk, CallerPc.holds?])
        · exact .inl ⟨hj, by simpa [CallerPc.holds?] using Ne.symm hjk⟩
      · intro j _ _
        exact ⟨rfl, id⟩
      · exact ⟨log, [], rfl, hnone⟩
    | _ => cases hstep
  | abandoning k =>
    cases label with
    | remove =>
      cases hstep
      apply h.update hc hlog
      · exact le_refl s.table.promises.length
      · intro j hj
        obtain rfl : k = j := Option.some.inj hj
        exact ⟨h.sent c _ k hc rfl, .inl rfl⟩
      · intro j hj
        obtain ⟨hne, hj⟩ := Finset.mem_erase.mp hj
        exact .inl ⟨hj, by simpa [CallerPc.holds?] using hne.symm⟩
      · intro j _ hj
        refine ⟨rfl, fun hpending => Finset.mem_erase.mpr ⟨?_, hpending⟩⟩
        rintro rfl
        exact hj rfl
      · exact GaveUp.concat (h.explained c _ hc) _
    | _ => cases hstep
  | returned request response => cases label <;> cases hstep

end Caller

theorem explained_receive_waiting {table : RequestTable V} {c j : ℕ}
    (h : CallerPc.Explained table log c (.waiting j)) (k : ℕ) (v : V) :
    CallerPc.Explained (table.receive k v) (log ++ [.receive k v]) c (.waiting j) := by
  obtain ⟨hpromise, hpending⟩ := h
  rw [CallerPc.Explained, firstResponse_receive]
  by_cases hjk : k = j
  · subst hjk
    rw [if_pos rfl]
    cases hfirst : firstResponse k log with
    | none =>
      have hmem := hpending hfirst
      have hlt := (List.getElem?_eq_some_iff.mp hpromise).1
      simp [RequestTable.receive, hmem, hlt]
    | some w =>
      have hnot : k ∉ table.pending := by
        intro hmem
        rw [table.unset k hmem, hfirst] at hpromise
        cases hpromise
      rw [hfirst] at hpromise
      simp [RequestTable.receive, hnot, hpromise]
  · rw [if_neg hjk, Option.or_none]
    constructor
    · simp only [RequestTable.receive]
      split_ifs
      · rw [List.getElem?_set_ne hjk, hpromise]
      · exact hpromise
    · intro hnone
      exact Finset.mem_erase.mpr ⟨Ne.symm hjk, hpending hnone⟩

theorem CallersInv.receive (h : CallersInv log s) {k : ℕ} (hk : k < s.table.promises.length) (v : V) :
    CallersInv (log ++ [.receive k v]) { s with table := s.table.receive k v } where
  sent c caller j hc hj := by
    have hlt := h.sent c caller j hc hj
    simp only [RequestTable.receive]
    split_ifs
    · rwa [List.length_set]
    · exact hlt
  own := h.own
  held j hj := h.held j (Finset.mem_erase.mp hj).2
  unsent j hj := by
    have hle : s.table.promises.length ≤ j := by
      simp only [RequestTable.receive] at hj
      split_ifs at hj
      · rwa [List.length_set] at hj
      · exact hj
    have hne : k ≠ j := by omega
    rw [firstResponse_receive, h.unsent j hle, if_neg hne, Option.none_or]
  explained c caller hc := by
    have hexplained := h.explained c caller hc
    cases hpc : caller.pc with
    | called => trivial
    | waiting j =>
      rw [hpc] at hexplained
      exact explained_receive_waiting hexplained k v
    | abandoning j =>
      rw [hpc] at hexplained
      exact GaveUp.concat hexplained _
    | returned request response =>
      rw [hpc] at hexplained
      cases request with
      | none => exact hexplained
      | some j =>
        cases response with
        | none => exact GaveUp.concat hexplained _
        | some w =>
          have hfirst : firstResponse j log = some w := hexplained
          rw [CallerPc.Explained, firstResponse_receive, hfirst, Option.some_or]

end Steps

/-! ### Runs -/

theorem callersInv_step {log : List (ClientLabel Q V)} {s t : ClientState Q V} {l : ClientLabel Q V}
    (h : CallersInv log s) (hstep : clientStep s l = some t) : CallersInv (log ++ [l]) t := by
  cases l with
  | call query =>
    cases hstep
    exact h.call query
  | caller c label =>
    obtain ⟨⟨query, pc⟩, hc, hstep⟩ := Option.bind_eq_some_iff.mp hstep
    obtain ⟨⟨pc', table'⟩, hcaller, heq⟩ := Option.map_eq_some_iff.mp hstep
    cases heq
    exact h.caller hc hcaller
  | receive k v =>
    obtain ⟨hk, heq⟩ := Option.ite_none_right_eq_some.mp hstep
    cases heq
    exact h.receive hk v

theorem callersInv_of_run {log : List (ClientLabel Q V)} {s : ClientState Q V}
    (h : exec clientStep .empty log = some s) : CallersInv log s := by
  have hinv := log_invariant (I := CallersInv) (fun _ _ _ _ hi hstep => callersInv_step hi hstep) h callersInv_empty
  rwa [List.nil_append] at hinv

section Results
variable {log : List (ClientLabel Q V)} {s : ClientState Q V}

/-- A caller returns with the first response to a request of its own, or without one because
it gave up before any had come, or there was no service. -/
theorem CallersInv.result (h : CallersInv log s) {c : ℕ} {query : Q} {request : Option ℕ} {response : Option V}
    (hc : s.callers[c]? = some ⟨query, .returned request response⟩) :
    request = none ∧ response = none ∨ ∃ k, request = some k ∧
      (∀ (d : ℕ) (caller : Caller Q V), s.callers[d]? = some caller → caller.pc.request? = some k → d = c) ∧
      ((∃ v, response = some v ∧ firstResponse k log = some v) ∨ response = none ∧ GaveUp log c k) := by
  have hexplained := h.explained c _ hc
  cases request with
  | none => exact .inl ⟨rfl, hexplained⟩
  | some k =>
    refine .inr ⟨k, rfl, ?_, ?_⟩
    · intro d caller hd hk
      exact h.own d c caller _ k hd hc hk rfl
    · cases response with
      | none => exact .inr ⟨rfl, hexplained⟩
      | some v => exact .inl ⟨v, rfl, hexplained⟩

theorem CallersInv.pending_card_le (h : CallersInv log s) :
    s.table.pending.card ≤ s.callers.countP fun caller => caller.pc.holds?.isSome := by
  have hsub : s.table.pending ⊆ (s.callers.filterMap fun caller => caller.pc.holds?).toFinset := by
    intro k hk
    obtain ⟨c, caller, hc, hholds⟩ := h.held k hk
    rw [List.mem_toFinset, List.mem_filterMap]
    exact ⟨caller, List.mem_of_getElem? hc, hholds⟩
  calc s.table.pending.card
      ≤ (s.callers.filterMap fun caller => caller.pc.holds?).toFinset.card := Finset.card_le_card hsub
    _ ≤ (s.callers.filterMap fun caller => caller.pc.holds?).length := List.toFinset_card_le _
    _ = s.callers.countP fun caller => caller.pc.holds?.isSome := List.length_filterMap_eq_countP ..

end Results

end MoveitPlanning.Foundation
