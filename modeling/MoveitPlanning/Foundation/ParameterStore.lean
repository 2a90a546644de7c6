import Mathlib.Data.List.Nodup
import MoveitPlanning.Foundation.HashMap

/-! Parameters that a program declares and that anyone may then set. A declaration takes the
override of its name, if there is one, and fails when that is of another kind, unless the
parameter is dynamically typed. Later a value of another kind is refused, and only a
dynamically typed parameter may be undeclared. What a lookup finds after any requests is
found in the requests of that name alone (`lookup_setAll`). This is what `rclcpp` documents
of the parameters of a node, whose code is not part of the repository. -/

namespace MoveitPlanning.Foundation

variable {K V κ : Type*} [DecidableEq K] [DecidableEq κ] {kind : V → κ}

/-- A declared parameter. Without dynamic typing its value stays of the declared kind. -/
structure Parameter (kind : V → κ) where
  declared : κ
  dynamicTyping : Bool
  value : V
  typed : dynamicTyping = true ∨ kind value = declared

/-- What has been declared. -/
abbrev ParameterStore (K : Type*) (kind : V → κ) := HashMap K (Parameter kind)

structure Declaration (K V : Type*) where
  name : K
  default : V
  dynamicTyping : Bool
  deriving DecidableEq

namespace Declaration

variable (kind) in
/-- The value may be given to the parameter. -/
def Accepts (d : Declaration K V) (v : V) : Prop := d.dynamicTyping = true ∨ kind v = kind d.default

instance (d : Declaration K V) (v : V) : Decidable (d.Accepts kind v) :=
  inferInstanceAs (Decidable (_ ∨ _))

def parameter (d : Declaration K V) (v : V) (h : d.Accepts kind v) : Parameter kind :=
  ⟨kind d.default, d.dynamicTyping, v, h⟩

/-- The value that a declaration starts with. -/
def initial (overrides : K → Option V) (d : Declaration K V) : V := (overrides d.name).getD d.default

end Declaration

section Declare
variable (overrides : K → Option V)

/-- A declaration; a name may be declared once. -/
def declare (store : ParameterStore K kind) (d : Declaration K V) : Option (ParameterStore K kind) :=
  if d.name ∈ store then none
  else if h : d.Accepts kind (d.initial overrides) then some (store.insert d.name (d.parameter _ h))
  else none

def declareAll : ParameterStore K kind → List (Declaration K V) → Option (ParameterStore K kind)
  | store, [] => some store
  | store, d :: ds => (declare overrides store d).bind fun store' => declareAll store' ds

end Declare

/-- A value for a declared parameter. -/
def Parameter.assign (p : Parameter kind) (v : V) : Parameter kind :=
  if h : p.dynamicTyping = true ∨ kind v = p.declared then ⟨p.declared, p.dynamicTyping, v, h⟩ else p

namespace ParameterStore

/-- A request to set a parameter, or to undeclare it. -/
def set (store : ParameterStore K kind) (name : K) (request : Option V) : ParameterStore K kind :=
  match store.lookup name, request with
  | none, _ => store
  | some p, some v => store.insert name (p.assign v)
  | some p, none => if p.dynamicTyping then store.erase name else store

def setAll (store : ParameterStore K kind) : List (K × Option V) → ParameterStore K kind
  | [] => store
  | (name, request) :: requests => setAll (store.set name request) requests

end ParameterStore

/-! ### Declarations -/

section Declared
variable {overrides : K → Option V} {store store' : ParameterStore K kind} {d : Declaration K V}
  {ds : List (Declaration K V)}

theorem declare_eq_some_iff : declare overrides store d = some store' ↔
    d.name ∉ store ∧ ∃ h : d.Accepts kind (d.initial overrides), store' = store.insert d.name (d.parameter _ h) := by
  unfold declare
  split_ifs with hmem haccepts
  · simp [hmem]
  · simp [hmem, haccepts, eq_comm]
  · simp [haccepts]

/-- Distinct names are all declared exactly when every override is accepted. -/
theorem declareAll_isSome_iff (hnodup : (ds.map Declaration.name).Nodup) (hnew : ∀ d ∈ ds, d.name ∉ store) :
    (declareAll overrides store ds).isSome ↔ ∀ d ∈ ds, d.Accepts kind (d.initial overrides) := by
  induction ds generalizing store with
  | nil => simp [declareAll]
  | cons d ds ih =>
    obtain ⟨hfirst, hrest⟩ := List.nodup_cons.mp hnodup
    rw [declareAll, declare, if_neg (hnew d List.mem_cons_self), List.forall_mem_cons]
    split_ifs with haccepts
    · rw [Option.bind_some, ih hrest]
      · exact (and_iff_right haccepts).symm
      · intro e he
        rw [Finmap.mem_insert, not_or]
        refine ⟨?_, hnew e (List.mem_cons_of_mem _ he)⟩
        intro hsame
        exact hfirst (hsame ▸ List.mem_map_of_mem he)
    · simp [haccepts]

theorem lookup_declareAll_of_not_mem (h : declareAll overrides store ds = some store') {name : K}
    (hname : name ∉ ds.map Declaration.name) : store'.lookup name = store.lookup name := by
  induction ds generalizing store with
  | nil =>
    cases h
    rfl
  | cons d ds ih =>
    rw [List.map_cons, List.mem_cons, not_or] at hname
    obtain ⟨mid, hdeclare, h⟩ := Option.bind_eq_some_iff.mp h
    obtain ⟨-, haccepts, rfl⟩ := declare_eq_some_iff.mp hdeclare
    rw [ih h hname.2, HashMap.lookup_insert_eq, if_neg hname.1]

theorem lookup_declareAll (hnodup : (ds.map Declaration.name).Nodup) (h : declareAll overrides store ds = some store')
    (hd : d ∈ ds) : ∃ haccepts : d.Accepts kind (d.initial overrides),
      store'.lookup d.name = some (d.parameter _ haccepts) := by
  induction ds generalizing store with
  | nil => cases hd
  | cons e ds ih =>
    obtain ⟨hfirst, hrest⟩ := List.nodup_cons.mp hnodup
    obtain ⟨mid, hdeclare, h⟩ := Option.bind_eq_some_iff.mp h
    obtain ⟨-, haccepts, rfl⟩ := declare_eq_some_iff.mp hdeclare
    rcases List.mem_cons.mp hd with rfl | hd
    · refine ⟨haccepts, ?_⟩
      rw [lookup_declareAll_of_not_mem h hfirst, HashMap.lookup_insert_eq, if_pos rfl]
    · exact ih hrest h hd

end Declared

/-! ### Requests -/

namespace Declaration

variable (kind) in
/-- The values for the parameter that are accepted, in the order of the requests. -/
def accepted (d : Declaration K V) (requests : List (K × Option V)) : List V :=
  requests.filterMap fun r => if r.1 = d.name then r.2.filter fun v => decide (d.Accepts kind v) else none

variable (kind) in
/-- The value of the parameter after the requests, if it is still declared. -/
def valueAfter [DecidableEq V] (d : Declaration K V) (v : V) (requests : List (K × Option V)) : Option V :=
  if d.dynamicTyping = true ∧ (d.name, none) ∈ requests then none
  else some ((d.accepted kind requests).getLast?.getD v)

end Declaration

section Requests
variable {store : ParameterStore K kind} {d : Declaration K V} {requests : List (K × Option V)}

theorem accepted_cons (name : K) (request : Option V) : d.accepted kind ((name, request) :: requests) =
    (if name = d.name then request.filter fun v => decide (d.Accepts kind v) else none).toList ++
      d.accepted kind requests := by
  rw [Declaration.accepted, List.filterMap_cons]
  cases hfirst : (if name = d.name then request.filter fun v => decide (d.Accepts kind v) else none) with
  | none => rfl
  | some v => rfl

theorem lookup_set (store : ParameterStore K kind) (name other : K) (request : Option V) :
    (store.set name request).lookup other =
      if other = name then ((store.lookup name).bind fun p => request.elim (if p.dynamicTyping then none else some p)
        fun v => some (p.assign v)) else store.lookup other := by
  unfold ParameterStore.set
  cases hstore : store.lookup name with
  | none =>
    split_ifs with hsame
    · rw [hsame, hstore]
      rfl
    · rfl
  | some p =>
    cases request with
    | none =>
      by_cases hsame : other = name
      · subst hsame
        by_cases htyping : p.dynamicTyping = true
        · simp [htyping]
        · simp [htyping, hstore]
      · by_cases htyping : p.dynamicTyping = true
        · simp [htyping, hsame, Finmap.lookup_erase_ne hsame]
        · simp [htyping, hsame]
    | some v => exact HashMap.lookup_insert_eq _ _ _ _

theorem setAll_append (requests later : List (K × Option V)) :
    store.setAll (requests ++ later) = (store.setAll requests).setAll later := by
  induction requests generalizing store with
  | nil => rfl
  | cons r requests ih => exact ih

theorem accepted_of_dynamicTyping (htyping : d.dynamicTyping = true) :
    d.accepted kind requests = requests.filterMap fun r => if r.1 = d.name then r.2 else none := by
  refine List.filterMap_congr fun r _ => ?_
  have haccepts : ∀ v, d.Accepts kind v := fun v => .inl htyping
  obtain ⟨name, _ | v⟩ := r
  · simp
  · simp [Option.filter_some, haccepts]

theorem lookup_setAll_none {name : K} (h : store.lookup name = none) :
    (store.setAll requests).lookup name = none := by
  induction requests generalizing store with
  | nil => exact h
  | cons r requests ih =>
    refine ih ?_
    rw [lookup_set]
    split_ifs with hsame
    · rw [← hsame, h]
      rfl
    · exact h

omit [DecidableEq K] in
theorem assign_parameter {v w : V} (hv : d.Accepts kind v) : (d.parameter v hv).assign w =
    if h : d.Accepts kind w then d.parameter w h else d.parameter v hv := rfl

theorem lookup_setAll [DecidableEq V] {v : V} (hv : d.Accepts kind v)
    (h : store.lookup d.name = some (d.parameter v hv)) :
    ((store.setAll requests).lookup d.name).map Parameter.value = d.valueAfter kind v requests := by
  induction requests generalizing store v with
  | nil => simp [ParameterStore.setAll, h, Declaration.valueAfter, Declaration.accepted, Declaration.parameter]
  | cons r requests ih =>
    obtain ⟨name, request⟩ := r
    rw [ParameterStore.setAll]
    by_cases hname : d.name = name
    · subst hname
      have hset := lookup_set store d.name d.name request
      rw [if_pos rfl, h, Option.bind_some] at hset
      cases request with
      | none =>
        by_cases htyping : d.dynamicTyping = true
        · have hnone : (store.set d.name none).lookup d.name = none := by
            rw [hset]
            simp [Declaration.parameter, htyping]
          rw [lookup_setAll_none hnone]
          simp [Declaration.valueAfter, htyping]
        · have hsame : (store.set d.name none).lookup d.name = some (d.parameter v hv) := by
            rw [hset]
            simp [Declaration.parameter, htyping]
          rw [ih hv hsame]
          simp [Declaration.valueAfter, accepted_cons, htyping]
      | some w =>
        rw [Option.elim_some, assign_parameter] at hset
        by_cases hw : d.Accepts kind w
        · rw [dif_pos hw] at hset
          rw [ih hw hset]
          simp [Declaration.valueAfter, accepted_cons, Option.filter_some, hw, List.getLast?_cons]
        · rw [dif_neg hw] at hset
          rw [ih hv hset]
          simp [Declaration.valueAfter, accepted_cons, Option.filter_some, hw]
    · have hset := lookup_set store name d.name request
      rw [if_neg hname, h] at hset
      rw [ih hv hset]
      have hother : name ≠ d.name := fun hsame => hname hsame.symm
      simp [Declaration.valueAfter, accepted_cons, hname, hother]

end Requests

/-! ### Settings -/

/-- The requests for the settings that are present. -/
def present (settings : List (K × Option V)) : List (K × Option V) :=
  settings.filter fun setting => setting.2.isSome

section Settings
variable {d : Declaration K V} {settings : List (K × Option V)}

theorem accepted_of_not_mem (hname : d.name ∉ settings.map Prod.fst) : d.accepted kind settings = [] := by
  rw [Declaration.accepted, List.filterMap_eq_nil_iff]
  intro r hr
  rw [if_neg]
  rintro hsame
  exact hname (hsame ▸ List.mem_map_of_mem hr)

theorem accepted_present (settings : List (K × Option V)) :
    d.accepted kind (present settings) = d.accepted kind settings := by
  rw [Declaration.accepted, present, List.filterMap_filter]
  refine List.filterMap_congr fun r _ => ?_
  obtain ⟨name, _ | v⟩ := r
  · simp
  · simp

theorem accepted_of_mem {setting : Option V} (hnodup : (settings.map Prod.fst).Nodup)
    (hmem : (d.name, setting) ∈ settings) (haccepts : ∀ v ∈ setting, d.Accepts kind v) :
    d.accepted kind settings = setting.toList := by
  induction settings with
  | nil => cases hmem
  | cons r settings ih =>
    obtain ⟨hfirst, hrest⟩ := List.nodup_cons.mp hnodup
    obtain ⟨name, request⟩ := r
    rw [accepted_cons]
    rcases List.mem_cons.mp hmem with hsame | hlater
    · obtain ⟨rfl, rfl⟩ := Prod.mk.inj hsame
      rw [accepted_of_not_mem hfirst, if_pos rfl, List.append_nil]
      cases setting with
      | none => rfl
      | some v => simp [Option.filter_some, haccepts v rfl]
    · have hne : name ≠ d.name := by
        intro hsame
        exact hfirst (List.mem_map.mpr ⟨_, hlater, hsame.symm⟩)
      rw [if_neg hne, ih hrest hlater]
      rfl

/-- A parameter has the value of the last layer that has one: requests, settings, overrides,
default. -/
theorem value_of_layers [DecidableEq V] {overrides : K → Option V} {ds : List (Declaration K V)}
    {declared : ParameterStore K kind} {setting : Option V} (hds : (ds.map Declaration.name).Nodup)
    (h : declareAll overrides ∅ ds = some declared) (hd : d ∈ ds)
    (hsetting : d.accepted kind settings = setting.toList) (requests : List (K × Option V)) :
    ((declared.setAll (present settings ++ requests)).lookup d.name).map Parameter.value =
      d.valueAfter kind ((setting.or (overrides d.name)).getD d.default) requests := by
  obtain ⟨hinitial, hlookup⟩ := lookup_declareAll hds h hd
  have hset : (d.name, none) ∉ present settings := by simp [present]
  have haccepted : d.accepted kind (present settings ++ requests) = setting.toList ++ d.accepted kind requests := by
    rw [← hsetting, ← accepted_present settings]
    exact List.filterMap_append
  rw [lookup_setAll hinitial hlookup]
  simp only [Declaration.valueAfter, haccepted, List.mem_append, or_iff_right hset, List.getLast?_append]
  cases setting with
  | none => simp [Declaration.initial]
  | some v =>
    cases (d.accepted kind requests).getLast? with
    | none => simp
    | some w => simp

end Settings

end MoveitPlanning.Foundation
