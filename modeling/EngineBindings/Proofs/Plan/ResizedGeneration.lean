import EngineBindings.Proofs.Plan.ResizedBinding

/-! Generations in two build configurations.

Every class is planned to the same members in the same order, since a method is hidden, bound, left
out or switched off for reasons that no width enters. The builtins that are planned are those with a
size, and sizes are given for the same names. -/
namespace EngineBindings

open Attempt

/-! ### Properties

Which accessors can serve a property is decided by their signatures and by whether they are emitted,
and both are the same whatever the widths. So are the index that a property passes and the value
that it sets: an index is a bare number wherever it is a whole number of some width. -/

/-- Two plans of a property that differ in the width of its values alone. -/
structure PropertyAccessor.Resized (p p' : PropertyAccessor) : Prop where
  target : p.target.Resized p'.target
  others : p' = { p with target := p'.target }

/-- Two sets of properties of which each two differ in the width of their values alone. -/
structure PropertySet.Resized (s s' : PropertySet) : Prop where
  accessors : List.Forall₂ PropertyAccessor.Resized s.accessors s'.accessors
  diagnostics : s'.diagnostics = s.diagnostics
  referenced : s'.referenced = s.referenced

/-! ### Accessors -/

/-- Two checks that find the same wherever both find something. -/
def EmittableCheck.Alike (check check' : EmittableCheck) : Prop :=
  ∀ m, Paired Eq (check m) (check' m)

section Checked

variable {check check' : EmittableCheck} (h : check.Alike check')
include h

theorem unemitted_alike (methods : List MethodDef) :
    Paired Eq (unemitted check methods) (unemitted check' methods) := by
  induction methods with
  | nil => exact .ok rfl
  | cons m rest ih =>
    rw [unemitted, unemitted]
    refine (h m).bind fun reason _ hreason => ?_
    obtain rfl := hreason
    cases reason with
    | some reason => exact .ok rfl
    | none => exact ih

theorem propertyAccessors_alike (c : ClassDef) (p : PropertyDef) :
    Paired Eq (propertyAccessors c (some check) p) (propertyAccessors c (some check') p) := by
  unfold propertyAccessors
  refine Paired.bind_same fun found _ => ?_
  cases found with
  | error reason => exact .ok rfl
  | ok getter =>
    dsimp only
    split
    · exact .ok rfl
    · split
      · exact .ok rfl
      · refine (unemitted_alike h _).bind fun reason _ hreason => ?_
        obtain rfl := hreason
        exact .of_eq rfl

theorem Registry.acceptProperty_alike (c : ClassDef) (p : PropertyDef) :
    Paired Eq (Registry.acceptProperty c (some check) p)
      (Registry.acceptProperty c (some check') p) := by
  refine (propertyAccessors_alike h c p).bind fun found _ hfound => ?_
  obtain rfl := hfound
  exact .of_eq rfl

end Checked

namespace Registry.Resized

variable {r r' : Registry} (h : Resized r r')
include h

/-! ### Indices and values -/

theorem propertyIndex (p : PropertyDef) (getter : MethodDef) :
    Paired Eq (r.propertyIndex p getter) (r'.propertyIndex p getter) := by
  unfold Registry.propertyIndex
  split
  · refine (h.argumentTarget _ .member).bind fun t t' ht => ?_
    cases ht with
    | typedArray he spelling =>
      exact .ok (by rw [(Target.Resized.typedArray he spelling).requirements]; rfl)
    | same | int | float | object | pointer => exact .of_eq rfl
  · exact .ok rfl

theorem propertyValue {target target' : Target} (ht : target.Resized target') (setter : MethodDef) :
    Paired Eq (r.propertyValue target setter) (r'.propertyValue target' setter) := by
  unfold Registry.propertyValue
  rw [ht.source]
  split
  · exact .ok rfl
  · refine (h.argumentTarget _ .member).bind fun t t' hvalue => ?_
    cases hvalue <;> exact .of_eq rfl

theorem propertyAccessor (c : ClassDef) (referenced : List Name) (p : PropertyDef)
    (getter setter : MethodDef) :
    Paired PropertyAccessor.Resized (r.propertyAccessor c referenced p getter setter)
      (r'.propertyAccessor c referenced p getter setter) := by
  unfold Registry.propertyAccessor
  refine (h.resultTarget getter .member).bind fun t t' ht => ?_
  refine (h.propertyIndex p getter).bind fun index _ hindex => ?_
  refine (h.propertyValue ht setter).bind fun value _ hvalue => ?_
  obtain rfl := hindex
  obtain rfl := hvalue
  dsimp only
  rw [ht.requirements]
  exact Paired.bind_same fun _ _ => Paired.bind_same fun _ _ => Paired.bind_same fun _ _ =>
    .ok ⟨ht, rfl⟩

theorem properties {check check' : EmittableCheck} (hcheck : check.Alike check') (c : ClassDef) :
    Paired PropertySet.Resized (r.properties c (some check)) (r'.properties c (some check')) := by
  unfold Registry.properties
  have outcomes : Paired Eq
      (c.properties.mapM fun p => return (p, ← acceptProperty c (some check) p))
      (c.properties.mapM fun p => return (p, ← acceptProperty c (some check') p)) := by
    refine Paired.mapM_eq fun p _ => (acceptProperty_alike hcheck c p).bind fun found _ hfound => ?_
    obtain rfl := hfound
    exact .ok rfl
  refine outcomes.bind fun found _ hfound => ?_
  obtain rfl := hfound
  dsimp only
  refine (Paired.mapM_same fun entry _ => h.propertyAccessor _ _ _ _ _).bind
    fun _ _ haccessors => ?_
  exact .ok ⟨haccessors, rfl, rfl⟩

end Registry.Resized

/-! ### Results and reasons -/

section Results

variable {α β ε : Type} {R : α → β → Prop} {xs : List (Except ε α)} {ys : List (Except ε β)}
  (h : List.Forall₂ (ResultRel R) xs ys)
include h

theorem successes_related : List.Forall₂ R (successes xs) (successes ys) := by
  refine List.rel_filterMap (fun x y hxy => ?_) h
  cases hxy with
  | error e => exact .none
  | ok hab => exact .some hab

theorem failures_related : failures ys = failures xs := by
  refine filterMap_eq_filterMap h fun x _ y hxy => ?_
  cases hxy <;> rfl

end Results

theorem MethodBinding.Resized.outcome {b b' : MethodBinding} (h : b.Resized b') :
    ResultRel MethodBinding.Resized b.outcome b'.outcome := by
  unfold MethodBinding.outcome
  rw [h.unsupported, h.owner, h.method]
  split
  · exact .error _
  · exact .ok h

/-! ### What differs in widths alone -/

/-- Two members that differ in widths and in the sizes of slots alone. -/
inductive Member.Resized : Member → Member → Prop
  | bound {b b' : MethodBinding} (h : b.Resized b') : Resized (.bound b) (.bound b')
  | overridable {t t' : Trampoline} (h : t.Resized t') :
    Resized (.overridable t) (.overridable t')

/-- Two outcomes that differ in widths alone: members that do, the same diagnostic, or nothing. -/
inductive Outcome.Resized : Outcome → Outcome → Prop
  | kept {x x' : Member} (h : x.Resized x') : Resized (.kept x) (.kept x')
  | skipped (d : Diagnostic) : Resized (.skipped d) (.skipped d)
  | omitted : Resized .omitted .omitted

/-- Two plans of a class that differ in widths alone. -/
structure ClassPlan.Resized (p p' : ClassPlan) : Prop where
  cls : p'.cls = p.cls
  properties : List.Forall₂ PropertyAccessor.Resized p.properties p'.properties
  members : List.Forall₂ Member.Resized p.members p'.members
  dispatch : p.dispatch.Resized p'.dispatch
  diagnostics : p'.diagnostics = p.diagnostics

/-- Two plans of a builtin that differ in widths alone. -/
structure BuiltinPlan.Resized (p p' : BuiltinPlan) : Prop where
  builtin : p'.builtin = p.builtin
  bindings : List.Forall₂ MethodBinding.Resized p.bindings p'.bindings
  diagnostics : p'.diagnostics = p.diagnostics

/-- Two generations that differ in widths alone. -/
structure Generation.Resized (g g' : Generation) : Prop where
  plans : List.Forall₂ ClassPlan.Resized g.plans g'.plans
  utilities : List.Forall₂ MethodBinding.Resized g.utilities g'.utilities
  diagnostics : g'.diagnostics = g.diagnostics
  builtins : List.Forall₂ BuiltinPlan.Resized g.builtins g'.builtins

namespace Outcome

variable {outcomes outcomes' : List Outcome} (h : List.Forall₂ Outcome.Resized outcomes outcomes')
include h

theorem members_resized : List.Forall₂ Member.Resized (outcomes.filterMap member?)
    (outcomes'.filterMap member?) := by
  refine List.rel_filterMap (fun o o' ho => ?_) h
  cases ho with
  | kept hx => exact .some hx
  | skipped | omitted => exact .none

theorem diagnostics_resized : outcomes'.filterMap diagnostic? = outcomes.filterMap diagnostic? := by
  refine filterMap_eq_filterMap h fun o _ o' ho => ?_
  cases ho <;> rfl

end Outcome

theorem Member.trampolines_resized {members members' : List Member}
    (h : List.Forall₂ Member.Resized members members') :
    List.Forall₂ Trampoline.Resized (members.filterMap trampoline?)
      (members'.filterMap trampoline?) := by
  refine List.rel_filterMap (fun x x' hx => ?_) h
  cases hx with
  | bound => exact .none
  | overridable ht => exact .some ht

namespace Registry.Resized

variable {r r' : Registry} (h : Resized r r')
include h

/-! ### Classes -/

theorem emittable (flags : Flags) : (r.emittable flags).Alike (r'.emittable flags) := by
  intro m
  unfold Registry.emittable
  split
  · exact .ok rfl
  · split
    · exact h.rejection m
    · exact .ok rfl

theorem planMethod (flags : Flags) (c : ClassDef) (referenced : List Name) (m : MethodDef) :
    Paired Outcome.Resized (r.planMethod flags c referenced m)
      (r'.planMethod flags c referenced m) := by
  unfold Registry.planMethod
  split
  · refine (h.bindMethod c m referenced).bind fun b b' hb => ?_
    have outcome := hb.outcome
    generalize b.outcome = o, b'.outcome = o' at outcome ⊢
    cases outcome with
    | error d => exact .ok (.skipped d)
    | ok hb => exact .ok (.kept (.bound hb))
  · split
    · refine (h.acceptVirtual c m).bind fun o o' ho => ?_
      cases ho with
      | error d => exact .ok (.skipped d)
      | ok ht => exact .ok (.kept (.overridable ht))
    · exact .ok .omitted

theorem planProperties (flags : Flags) (c : ClassDef) :
    Paired PropertySet.Resized (r.planProperties flags c) (r'.planProperties flags c) := by
  unfold Registry.planProperties
  split
  · exact h.properties (h.emittable flags) c
  · exact .ok ⟨.nil, rfl, rfl⟩

theorem planClass (flags : Flags) (c : ClassDef) :
    Paired ClassPlan.Resized (r.planClass flags c) (r'.planClass flags c) := by
  refine (h.planProperties flags c).bind fun s s' hs => ?_
  rw [hs.referenced]
  refine (Paired.mapM_same fun m _ => h.planMethod flags c s.referenced m).bind
    fun outcomes outcomes' houtcomes => ?_
  have members := Outcome.members_resized houtcomes
  refine (ofTrampolines_resized c (Member.trampolines_resized members)).mapError.bind
    fun dispatch dispatch' hdispatch => .ok ?_
  refine ⟨rfl, hs.accessors, members, hdispatch, ?_⟩
  dsimp only
  rw [hs.diagnostics, Outcome.diagnostics_resized houtcomes]

/-! ### Builtins -/

theorem planBuiltinMethod (v : BuiltinDef) (m : MethodDef) :
    Paired (ResultRel MethodBinding.Resized) (r.planBuiltinMethod v m)
      (r'.planBuiltinMethod v m) := by
  refine (h.bindBuiltin v m).bind fun b b' hb => ?_
  have outcome := hb.outcome
  generalize b.outcome = o, b'.outcome = o' at outcome ⊢
  cases outcome with
  | error d => exact .ok (.error d)
  | ok hb =>
    dsimp only
    rw [hb.exposedName]
    split
    · exact .ok (.error _)
    · exact .ok (.ok hb)

theorem planBuiltin (v : BuiltinDef) :
    Paired BuiltinPlan.Resized (r.planBuiltin v) (r'.planBuiltin v) := by
  refine Paired.bind_same fun _ _ => ?_
  refine (Paired.mapM_same fun m _ => h.planBuiltinMethod v m).bind fun _ _ hresults => .ok ?_
  exact ⟨rfl, successes_related hresults, failures_related hresults⟩

theorem plannedBuiltins : r'.plannedBuiltins = r.plannedBuiltins := by
  unfold Registry.plannedBuiltins
  rw [h.builtins]
  simp only [h.sized]

/-! ### Generations -/

theorem generate (flags : Flags) :
    Paired Generation.Resized (r.generate flags) (r'.generate flags) := by
  unfold Registry.generate
  rw [h.classes, h.utilities, h.plannedBuiltins]
  refine (Paired.mapM_same fun c _ => h.planClass flags c).bind fun plans plans' hplans => ?_
  refine (Paired.mapM_same fun u _ => h.bindUtility u).bind
    fun utilities utilities' hutilities => ?_
  refine (Paired.mapM_same fun v _ => h.planBuiltin v).bind fun builtins builtins' hbuiltins => ?_
  have outcomes : List.Forall₂ (ResultRel MethodBinding.Resized)
      (utilities.map MethodBinding.outcome) (utilities'.map MethodBinding.outcome) :=
    List.rel_map (fun _ _ hb => hb.outcome) hutilities
  refine .ok ⟨hplans, successes_related outcomes, ?_, hbuiltins⟩
  dsimp only
  rw [failures_related outcomes, List.flatMap_def, List.flatMap_def, List.flatMap_def,
    List.flatMap_def, map_eq_map hplans fun _ _ _ hp => hp.diagnostics,
    map_eq_map hbuiltins fun _ _ _ hp => hp.diagnostics]

end Registry.Resized

end EngineBindings
