import EngineBindings.Plan.Generation
import EngineBindings.Proofs.Attempt

/-! What a plan that was returned says about the method it was made from.

One lemma for every planning function: the owner, the method and the reason that a result
carries, and the decision that it follows from. Everything else about plans is derived from
these; nothing later opens a planning function of a single method again. -/
namespace EngineBindings

open Attempt Text

namespace Member

/-- The method that a member was planned from. -/
def method : Member → MethodDef
  | bound b => b.method
  | overridable t => t.method

end Member

/-- What becomes of a method that a binding was planned for. -/
def MethodBinding.settled (b : MethodBinding) : Outcome :=
  match b.outcome with
  | .ok binding => .kept (.bound binding)
  | .error diagnostic => .skipped diagnostic

namespace Registry

variable {r : Registry} {flags : Flags} {c : ClassDef} {m : MethodDef}

/-! ### Arguments and results -/

/-- A slot that an argument was just given, and has no default yet. -/
structure Fresh (r : Registry) (use : TypeUse) (a : ArgumentDef) (slot : ArgSlot) : Prop where
  target : r.argumentTarget a use = .ok slot.target
  default : slot.default = none

theorem fresh_of_argSlot {use : TypeUse} {a : ArgumentDef} {slot : ArgSlot}
    (h : r.argSlot use a = .ok slot) : r.Fresh use a slot := by
  unfold argSlot at h
  obtain ⟨name, _, h⟩ := bind_eq_ok.mp h
  obtain ⟨target, htarget, h⟩ := bind_eq_ok.mp h
  dsimp only at h
  split at h
  · split at h
    · split at h <;> (cases h; exact ⟨htarget, rfl⟩)
    · cases h
      exact ⟨htarget, rfl⟩
  · split at h <;> (cases h; exact ⟨htarget, rfl⟩)

theorem target_of_returnPlan {use : TypeUse} {type : TypeRef} {ret : ReturnPlan}
    (h : r.returnPlan use m type = .ok ret) : r.target type m.returnTag use = .ok ret.target := by
  unfold returnPlan at h
  obtain ⟨target, htarget, h⟩ := bind_eq_ok.mp h
  obtain ⟨zero, _, h⟩ := bind_eq_ok.mp h
  dsimp only at h
  rw [htarget]
  split at h
  · cases h
    rfl
  · cases h
    rfl
  · obtain ⟨storage, _, h⟩ := bind_eq_ok.mp h
    cases h
    rfl
  · cases h
    rfl
  · split at h
    · cases h
      rfl
    · split at h <;> (cases h; rfl)

/-! ### Calls into the engine -/

/-- The way back of a method's result, if the method has one. -/
def resultPlan (r : Registry) (use : TypeUse) (m : MethodDef) : Except Fault (Option ReturnPlan) :=
  match m.result? with
  | some type => (r.returnPlan use m type).map some
  | none => .ok none

/-- A call is planned without its parts where the signature cannot cross the interface, and with
all of them elsewhere. -/
theorem planCall_eq (owner : Name) (exposedName handleName : String) (isPrivate : Bool)
    (kind : BindingKind) (use : TypeUse) :
    r.planCall owner m exposedName handleName isPrivate kind use =
      match signatureObstacle m with
      | some reason =>
        .ok ⟨owner, m, exposedName, handleName, isPrivate, kind, [], none, some reason, []⟩
      | none => do
        let args ← r.argSlots use m.arguments
        let ret ← r.resultPlan use m
        return ⟨owner, m, exposedName, handleName, isPrivate, kind, args, ret, none,
          r.callRequirements owner args ret⟩ := by
  unfold planCall resultPlan
  cases hs : signatureObstacle m with
  | some reason => rfl
  | none =>
    cases hm : m.result? with
    | none => rfl
    | some type => rfl

/-- What a planned call carries over from the request for it. -/
structure Carries (owner : Name) (m : MethodDef) (exposedName : String) (b : MethodBinding) :
    Prop where
  owner : b.owner = owner
  method : b.method = m
  exposedName : b.exposedName = exposedName
  unsupported : b.unsupported = signatureObstacle m

theorem carries_of_planCall {owner : Name} {exposedName handleName : String} {isPrivate : Bool}
    {kind : BindingKind} {use : TypeUse} {b : MethodBinding}
    (h : r.planCall owner m exposedName handleName isPrivate kind use = .ok b) :
    Carries owner m exposedName b := by
  rw [planCall_eq] at h
  cases hs : signatureObstacle m with
  | some reason =>
    rw [hs] at h
    cases h
    exact ⟨rfl, rfl, rfl, hs.symm⟩
  | none =>
    rw [hs] at h
    obtain ⟨args, _, h⟩ := bind_eq_ok.mp h
    obtain ⟨ret, _, h⟩ := bind_eq_ok.mp h
    cases h
    exact ⟨rfl, rfl, rfl, hs.symm⟩

theorem carries_of_bindMethod {referenced : List Name} {b : MethodBinding}
    (h : r.bindMethod c m referenced = .ok b) :
    ∃ exposed, accessorName m referenced = .ok exposed ∧ Carries c.name m exposed b := by
  obtain ⟨exposed, hexposed, h⟩ := bind_eq_ok.mp h
  exact ⟨exposed, mapError_eq_ok.mp hexposed, carries_of_planCall h⟩

theorem carries_of_bindUtility {u : UtilityDef} {b : MethodBinding}
    (h : r.bindUtility u = .ok b) :
    ∃ exposed, u.name.sanitize = .ok exposed ∧ Carries "utility" u.asMethod exposed b := by
  obtain ⟨exposed, hexposed, h⟩ := bind_eq_ok.mp h
  exact ⟨exposed, mapError_eq_ok.mp hexposed, carries_of_planCall h⟩

theorem carries_of_bindBuiltin {v : BuiltinDef} {b : MethodBinding}
    (h : r.bindBuiltin v m = .ok b) :
    ∃ exposed, m.name.sanitize = .ok exposed ∧ Carries v.name m exposed b := by
  obtain ⟨exposed, hexposed, h⟩ := bind_eq_ok.mp h
  exact ⟨exposed, mapError_eq_ok.mp hexposed, carries_of_planCall h⟩

/-- The plan of a method of a class, of a utility function or of a method of a builtin. -/
inductive Binds (r : Registry) : TypeUse → MethodBinding → Prop
  | method {c : ClassDef} {m : MethodDef} {referenced : List Name} {b : MethodBinding}
      (h : r.bindMethod c m referenced = .ok b) : Binds r .member b
  | utility {u : UtilityDef} {b : MethodBinding} (h : r.bindUtility u = .ok b) : Binds r .builtin b
  | builtin {v : BuiltinDef} {m : MethodDef} {b : MethodBinding} (h : r.bindBuiltin v m = .ok b) :
      Binds r .builtin b

/-- The parts of a binding that is supported are planned for its method's signature. -/
structure Supports (r : Registry) (use : TypeUse) (b : MethodBinding) : Prop where
  args : r.argSlots use b.method.arguments = .ok b.args
  ret : r.resultPlan use b.method = .ok b.ret

theorem supports_of_planCall {owner : Name} {exposedName handleName : String} {isPrivate : Bool}
    {kind : BindingKind} {use : TypeUse} {b : MethodBinding}
    (h : r.planCall owner m exposedName handleName isPrivate kind use = .ok b)
    (supported : b.unsupported = none) : r.Supports use b := by
  rw [planCall_eq] at h
  cases hs : signatureObstacle m with
  | some reason =>
    rw [hs] at h
    cases h
    cases supported
  | none =>
    rw [hs] at h
    obtain ⟨args, hargs, h⟩ := bind_eq_ok.mp h
    obtain ⟨ret, hret, h⟩ := bind_eq_ok.mp h
    cases h
    exact ⟨hargs, hret⟩

theorem Binds.supports {use : TypeUse} {b : MethodBinding} (h : r.Binds use b)
    (supported : b.unsupported = none) : r.Supports use b := by
  cases h with
  | method h =>
    obtain ⟨_, _, h⟩ := bind_eq_ok.mp h
    exact supports_of_planCall h supported
  | utility h =>
    obtain ⟨_, _, h⟩ := bind_eq_ok.mp h
    exact supports_of_planCall h supported
  | builtin h =>
    obtain ⟨_, _, h⟩ := bind_eq_ok.mp h
    exact supports_of_planCall h supported

/-- A binding is a diagnostic exactly where its method's signature has an obstacle. -/
theorem Carries.outcome {owner : Name} {exposedName : String} {b : MethodBinding}
    (h : Carries owner m exposedName b) :
    b.outcome = match signatureObstacle m with
      | some reason => .error ⟨owner, m.name, reason⟩
      | none => .ok b := by
  have unsupported := h.unsupported
  unfold MethodBinding.outcome
  cases hreason : signatureObstacle m with
  | none => simp only [unsupported, hreason]
  | some reason => simp only [unsupported, hreason, h.owner, h.method]

/-! ### Virtual methods -/

theorem acceptVirtual_eq_ok {x : Except Diagnostic Trampoline} :
    r.acceptVirtual c m = .ok x ↔
      (∃ reason, r.rejection m = .ok (some reason) ∧ x = .error ⟨c.name, m.name, reason⟩) ∨
        r.rejection m = .ok none ∧ ∃ t, r.trampoline c m = .ok t ∧ x = .ok t := by
  unfold acceptVirtual
  rw [bind_eq_ok]
  constructor
  · rintro ⟨found, hfound, h⟩
    cases found with
    | some reason => exact .inl ⟨reason, hfound, (pure_eq_ok.mp h).symm⟩
    | none =>
      obtain ⟨t, ht, h⟩ := map_eq_ok.mp h
      exact .inr ⟨hfound, t, ht, h.symm⟩
  · rintro (⟨reason, hfound, rfl⟩ | ⟨hfound, t, ht, rfl⟩)
    · exact ⟨some reason, hfound, rfl⟩
    · exact ⟨none, hfound, map_eq_ok.mpr ⟨t, ht, rfl⟩⟩

/-- What a trampoline carries over from its method. -/
structure Answers (c : ClassDef) (m : MethodDef) (t : Trampoline) : Prop where
  owner : t.owner = c.name
  method : t.method = m
  exposedName : m.name.sanitize = .ok t.exposedName
  proxyName : t.proxyName = "_" ++ c.name.display ++ "_proxy_" ++ m.name.display

theorem answers_of_trampoline {t : Trampoline} (h : r.trampoline c m = .ok t) : Answers c m t := by
  unfold trampoline at h
  obtain ⟨⟨args, ret⟩, _, h⟩ := bind_eq_ok.mp h
  obtain ⟨exposed, hexposed, h⟩ := bind_eq_ok.mp h
  rw [← pure_eq_ok.mp h]
  exact ⟨rfl, rfl, mapError_eq_ok.mp hexposed, rfl⟩

theorem answers_of_acceptVirtual {t : Trampoline} (h : r.acceptVirtual c m = .ok (.ok t)) :
    Answers c m t := by
  rcases acceptVirtual_eq_ok.mp h with ⟨_, _, hx⟩ | ⟨_, t', ht, hx⟩
  · cases hx
  · cases hx
    exact answers_of_trampoline ht

/-! ### Methods of a class -/

theorem planMethod_of_bound (hb : m.hash.isSome) (referenced : List Name) :
    r.planMethod flags c referenced m = (r.bindMethod c m referenced).map (·.settled) := by
  unfold planMethod
  rw [if_pos hb]
  cases r.bindMethod c m referenced with
  | error e => rfl
  | ok b =>
    show (match b.outcome with
      | .ok binding => pure (Outcome.kept (.bound binding))
      | .error diagnostic => pure (.skipped diagnostic)) = Except.ok b.settled
    unfold MethodBinding.settled
    cases b.outcome <;> rfl

theorem planMethod_of_virtual (hb : m.hash = none) (hv : flags.virtuals = true)
    (referenced : List Name) :
    r.planMethod flags c referenced m = do
      match ← r.acceptVirtual c m with
      | .ok trampoline => return .kept (.overridable trampoline)
      | .error diagnostic => return .skipped diagnostic := by
  unfold planMethod
  rw [hb, hv]
  rfl

theorem planMethod_of_disabled (hb : m.hash = none) (hv : flags.virtuals = false)
    (referenced : List Name) : r.planMethod flags c referenced m = .ok .omitted := by
  unfold planMethod
  rw [hb, hv]
  rfl

/-- A member is the binding of a bound method or the trampoline of a virtual one. -/
theorem member_of_planMethod {referenced : List Name} {o : Outcome} {x : Member}
    (h : r.planMethod flags c referenced m = .ok o) (ho : o.member? = some x) :
    (∃ b, r.bindMethod c m referenced = .ok b ∧ x = .bound b) ∨
      ∃ t, r.acceptVirtual c m = .ok (.ok t) ∧ x = .overridable t := by
  by_cases hb : m.hash.isSome
  · rw [planMethod_of_bound hb] at h
    obtain ⟨b, hbind, rfl⟩ := map_eq_ok.mp h
    obtain ⟨_, _, carries⟩ := carries_of_bindMethod hbind
    rw [MethodBinding.settled, carries.outcome] at ho
    cases hs : signatureObstacle m with
    | some reason =>
      rw [hs] at ho
      cases ho
    | none =>
      rw [hs] at ho
      cases ho
      exact .inl ⟨b, hbind, rfl⟩
  · have hn : m.hash = none := by simpa using hb
    cases hv : flags.virtuals with
    | false =>
      rw [planMethod_of_disabled hn hv] at h
      cases h
      cases ho
    | true =>
      rw [planMethod_of_virtual hn hv] at h
      obtain ⟨found, hfound, h⟩ := bind_eq_ok.mp h
      cases found with
      | error d =>
        cases h
        cases ho
      | ok t =>
        cases h
        cases ho
        exact .inr ⟨t, hfound, rfl⟩

/-! ### Properties of a class -/

theorem propertyAccessors_of_acceptProperty {check : Option EmittableCheck} {p : PropertyDef}
    {x : Except String (MethodDef × MethodDef)} (h : acceptProperty c check p = .ok x) :
    propertyAccessors c check p = .ok x := by
  obtain ⟨y, hy, h⟩ := bind_eq_ok.mp h
  cases y with
  | error reason =>
    cases h
    exact hy
  | ok accessors =>
    obtain ⟨names, _, h⟩ := bind_eq_ok.mp h
    cases h
    exact hy

/-- Every checked property stands beside what its checks have found. -/
theorem checked_of_mapM {check : Option EmittableCheck}
    {checked : List (PropertyDef × Except String (MethodDef × MethodDef))}
    (h : (c.properties.mapM fun p => return (p, ← acceptProperty c check p)) = .ok checked) :
    List.Forall₂ (fun p x => x.1 = p ∧ propertyAccessors c check p = .ok x.2) c.properties
      checked := by
  refine (mapM_eq_ok.mp h).imp fun p x hx => ?_
  obtain ⟨found, hfound, hx⟩ := bind_eq_ok.mp hx
  cases hx
  exact ⟨rfl, propertyAccessors_of_acceptProperty hfound⟩

/-! ### Classes -/

/-- The plan of a class from what was planned for its parts. -/
def classPlan (c : ClassDef) (s : PropertySet) (outcomes : List Outcome)
    (dispatch : DispatchTable) : ClassPlan :=
  { dispatch
    cls := c
    members := outcomes.filterMap Outcome.member?
    properties := s.accessors
    diagnostics := s.diagnostics ++ outcomes.filterMap Outcome.diagnostic? }

theorem planClass_eq_ok {p : ClassPlan} :
    r.planClass flags c = .ok p ↔ ∃ s outcomes dispatch, r.planProperties flags c = .ok s ∧
      c.methods.mapM (r.planMethod flags c s.referenced) = .ok outcomes ∧
      DispatchTable.ofTrampolines c ((outcomes.filterMap Outcome.member?).filterMap
        Member.trampoline?) = .ok dispatch ∧ p = classPlan c s outcomes dispatch := by
  unfold planClass
  simp only [bind_eq_ok, mapError_eq_ok, pure_eq_ok]
  constructor
  · rintro ⟨s, hs, outcomes, houtcomes, dispatch, hdispatch, rfl⟩
    exact ⟨s, outcomes, dispatch, hs, houtcomes, hdispatch, rfl⟩
  · rintro ⟨s, outcomes, dispatch, hs, houtcomes, hdispatch, rfl⟩
    exact ⟨s, hs, outcomes, houtcomes, dispatch, hdispatch, rfl⟩

/-- Every member of a class was planned from one of its methods. -/
theorem member_of_planClass {p : ClassPlan} {x : Member} (h : r.planClass flags c = .ok p)
    (hx : x ∈ p.members) : ∃ m ∈ c.methods,
      (∃ b referenced, r.bindMethod c m referenced = .ok b ∧ x = .bound b) ∨
        ∃ t, r.acceptVirtual c m = .ok (.ok t) ∧ x = .overridable t := by
  obtain ⟨s, outcomes, dispatch, _, houtcomes, _, rfl⟩ := planClass_eq_ok.mp h
  obtain ⟨o, ho, hmember⟩ := List.mem_filterMap.mp hx
  obtain ⟨m, hm, hplan⟩ := exists_left (mapM_eq_ok.mp houtcomes) ho
  refine ⟨m, hm, ?_⟩
  rcases member_of_planMethod hplan hmember with ⟨b, hbind, rfl⟩ | accepted
  · exact .inl ⟨b, s.referenced, hbind, rfl⟩
  · exact .inr accepted

theorem acceptVirtual_of_virtual {p : ClassPlan} {t : Trampoline}
    (h : r.planClass flags c = .ok p) (ht : t ∈ p.virtuals) :
    ∃ m ∈ c.methods, r.acceptVirtual c m = .ok (.ok t) := by
  obtain ⟨x, hx, htrampoline⟩ := List.mem_filterMap.mp ht
  obtain ⟨m, hm, ⟨b, _, _, rfl⟩ | ⟨t', haccept, rfl⟩⟩ := member_of_planClass h hx
  · cases htrampoline
  · cases htrampoline
    exact ⟨m, hm, haccept⟩

/-! ### Generations -/

/-- A binding that is not left out is the planned one. -/
theorem eq_of_outcome {b binding : MethodBinding} (h : b.outcome = .ok binding) : binding = b := by
  unfold MethodBinding.outcome at h
  split at h
  · cases h
  · exact (Except.ok.inj h).symm

/-- A builtin's binding that is kept is the planned one. -/
theorem bindBuiltin_of_mem {v : BuiltinDef} {p : BuiltinPlan} (h : r.planBuiltin v = .ok p) :
    ∀ b ∈ p.bindings, ∃ m ∈ v.methods, r.bindBuiltin v m = .ok b := by
  obtain ⟨_, _, h⟩ := bind_eq_ok.mp h
  obtain ⟨results, hresults, h⟩ := bind_eq_ok.mp h
  cases h
  intro b hb
  obtain ⟨result, hresult, hok⟩ := List.mem_filterMap.mp hb
  obtain ⟨m, hm, hplan⟩ := exists_left (mapM_eq_ok.mp hresults) hresult
  obtain ⟨planned, hbind, hplan⟩ := bind_eq_ok.mp hplan
  cases houtcome : planned.outcome with
  | error d =>
    rw [houtcome] at hplan
    cases hplan
    cases hok
  | ok binding =>
    rw [houtcome] at hplan
    dsimp only at hplan
    split at hplan
    · cases hplan
      cases hok
    · cases hplan
      cases hok
      rw [eq_of_outcome houtcome]
      exact ⟨m, hm, hbind⟩

theorem mem_of_successes {bindings : List MethodBinding} {b : MethodBinding}
    (h : b ∈ successes (bindings.map MethodBinding.outcome)) : b ∈ bindings := by
  obtain ⟨outcome, houtcome, hok⟩ := List.mem_filterMap.mp h
  obtain ⟨planned, hplanned, rfl⟩ := List.mem_map.mp houtcome
  cases hout : planned.outcome with
  | error d =>
    rw [hout] at hok
    cases hok
  | ok binding =>
    rw [hout] at hok
    cases hok
    rwa [eq_of_outcome hout]

/-- A utility function's binding that is kept is the planned one. -/
theorem bindUtility_of_mem {bindings : List MethodBinding}
    (h : r.utilities.mapM r.bindUtility = .ok bindings) :
    ∀ b ∈ successes (bindings.map MethodBinding.outcome), ∃ u ∈ r.utilities,
      r.bindUtility u = .ok b :=
  fun _ hb => exists_left (mapM_eq_ok.mp h) (mem_of_successes hb)

/-- What the parts of a generation were planned from. -/
structure Generates (r : Registry) (flags : Flags) (g : Generation) : Prop where
  registry : g.registry = r
  plans : List.Forall₂ (fun c p => r.planClass flags c = .ok p) r.classes g.plans
  utilities : ∀ b ∈ g.utilities, ∃ u ∈ r.utilities, r.bindUtility u = .ok b
  builtins : List.Forall₂ (fun v p => r.planBuiltin v = .ok p) r.plannedBuiltins g.builtins

theorem generates_of_generate {g : Generation} (h : r.generate flags = .ok g) :
    r.Generates flags g := by
  obtain ⟨plans, hplans, h⟩ := bind_eq_ok.mp h
  obtain ⟨utilities, hutilities, h⟩ := bind_eq_ok.mp h
  obtain ⟨builtins, hbuiltins, h⟩ := bind_eq_ok.mp h
  cases h
  exact ⟨rfl, mapM_eq_ok.mp hplans, bindUtility_of_mem hutilities, mapM_eq_ok.mp hbuiltins⟩

end Registry

end EngineBindings
