import EngineBindings.Proofs.Plan.Accessor

/-! How many arguments an accessor takes, and how many its property passes.

A member has a parameter for every argument of its method. Those of a bound member that may be left
out are the last ones, as far back as every argument has a usable default
(`optional_of_argSlots`). A property passes its index, if both it and the getter know of one, and
the value. Synthesis bounds what the accessors take from above alone, so the two need not agree;
`getter_fits_iff` and `setter_fits_iff` say when they do. -/
namespace EngineBindings

open Attempt Code Text

/-! ### Parameters of members -/

/-- A parameter of an emitted callable. -/
structure Parameter where
  text : String
  isOptional : Bool

/-- The parameter of an argument. -/
def ArgSlot.parameter (a : ArgSlot) : Parameter :=
  ⟨a.signature, a.default.isSome⟩

/-- The parameter of an argument that is read from a slot. -/
def TrampolineArg.parameter (a : TrampolineArg) : Parameter :=
  ⟨a.name ++ ": " ++ a.target.annotation, false⟩

namespace Member

/-- The parameters of a member, apart from the object that it is called on. -/
def parameters : Member → List Parameter
  | bound b => b.args.map ArgSlot.parameter
  | overridable t => t.args.map TrampolineArg.parameter

/-- The parameter for the object that a member is called on, if there is one. -/
def receiver : Member → List String
  | bound b => if b.hasReceiver then ["self"] else []
  | overridable _ => ["self"]

/-- The emitted parameter list holds these parameters and nothing else. -/
theorem parameterList_eq (x : Member) :
    x.parameterList = join ", " (x.receiver ++ x.parameters.map (·.text)) := by
  cases x with
  | overridable t => simp [parameterList, Trampoline.parameterList, receiver, parameters,
      Function.comp_def, TrampolineArg.parameter]
  | bound b =>
    have texts : (b.args.map ArgSlot.parameter).map (·.text) = b.args.map ArgSlot.signature := by
      simp [Function.comp_def, ArgSlot.parameter]
    rw [parameterList, MethodBinding.parameterList, receiver, parameters, texts]
    cases b.hasReceiver <;> rfl

/-- How many arguments a call of a member has to give. -/
def required (x : Member) : Nat :=
  x.parameters.countP (!·.isOptional)

/-- A member can be called with a number of arguments. -/
def Takes (x : Member) (n : Nat) : Prop :=
  x.required ≤ n ∧ n ≤ x.parameters.length

/-- The call of a member on the object at hand. -/
def call (x : Member) (arguments : List Expr) : Expr :=
  .invoke (.attr (.name "self") x.exposedName) arguments

end Member

theorem Code.Arguments.ofList_injective : Function.Injective Arguments.ofList := by
  intro xs
  induction xs with
  | nil =>
    intro ys h
    cases ys with
    | nil => rfl
    | cons y ys => cases h
  | cons x xs ih =>
    intro ys h
    cases ys with
    | nil => cases h
    | cons y ys =>
      rw [Arguments.ofList, Arguments.ofList] at h
      injection h with _ hvalue hrest
      rw [hvalue, ih hrest]

/-- A body does nothing but call a member that was planned from a method, and gives it as many
arguments as it takes. -/
def ClassPlan.Fits (p : ClassPlan) (m : MethodDef) (body : List Stmt) : Prop :=
  ∃ x ∈ p.members, x.method = m ∧ ∃ arguments,
    (body = [.result (x.call arguments)] ∨ body = [.exec (x.call arguments)]) ∧
      x.Takes arguments.length

namespace Registry

variable {r : Registry} {flags : Flags} {c : ClassDef} {m : MethodDef}

/-! ### Arguments that may be left out -/

/-- An argument has a default that can stand in a parameter list. -/
def hasDefault (r : Registry) (a : ArgumentDef) : Bool :=
  ((r.argumentTarget a .member).bind (defaultLiteral a)).toOption.join.isSome

/-- How many arguments of a method have to be given: all of a virtual method, and of a bound one
those up to the last without a default. -/
def requiredCount (r : Registry) (m : MethodDef) : Nat :=
  if m.hash.isSome then (m.arguments.reverse.dropWhile r.hasDefault).length
  else m.arguments.length

/-- Defaults are given from the end on, up to the first argument without one. -/
theorem optional_of_attachDefaults {pairs : List (ArgumentDef × ArgSlot)} {slots : List ArgSlot}
    (fresh : ∀ entry ∈ pairs, r.Fresh .member entry.1 entry.2)
    (h : attachDefaults pairs = .ok slots) :
    slots.map (·.default.isSome) =
      List.replicate ((pairs.map (·.1)).takeWhile r.hasDefault).length true ++
        List.replicate ((pairs.map (·.1)).dropWhile r.hasDefault).length false := by
  induction pairs generalizing slots with
  | nil =>
    cases h
    rfl
  | cons entry rest ih =>
    obtain ⟨a, slot⟩ := entry
    obtain ⟨head, tail⟩ := List.forall_mem_cons.mp fresh
    obtain ⟨found, hfound, h⟩ := bind_eq_ok.mp h
    have hdefault : r.hasDefault a = found.isSome := by
      rw [hasDefault, head.target]
      show (defaultLiteral a slot.target).toOption.join.isSome = _
      rw [hfound]
      rfl
    cases found with
    | none =>
      cases h
      have hrest : rest.map (fun entry => entry.2.default.isSome) =
          List.replicate rest.length false := by
        apply List.map_eq_replicate_iff.mpr
        intro entry hentry
        rw [(tail entry hentry).default]
        rfl
      have hslot : slot.default = none := head.default
      simp [hdefault, hslot, hrest, Function.comp_def, List.replicate_succ]
    | some literal =>
      obtain ⟨others, hothers, h⟩ := bind_eq_ok.mp h
      cases h
      simp [hdefault, ih tail hothers, List.replicate_succ]

/-- The arguments of a bound method that may be left out are the last ones. -/
theorem optional_of_argSlots {args : List ArgumentDef} {slots : List ArgSlot}
    (h : r.argSlots .member args = .ok slots) :
    slots.map (·.default.isSome) =
      List.replicate (args.reverse.dropWhile r.hasDefault).length false ++
        List.replicate (args.reverse.takeWhile r.hasDefault).length true := by
  obtain ⟨bare, hbare, h⟩ := bind_eq_ok.mp h
  obtain ⟨attached, hattached, h⟩ := bind_eq_ok.mp h
  cases h
  have planned := List.forall₂_iff_zip.mp (mapM_eq_ok.mp hbare)
  have fresh : ∀ entry ∈ (args.zip bare).reverse, r.Fresh .member entry.1 entry.2 := by
    intro entry hentry
    exact fresh_of_argSlot (planned.2 (List.mem_reverse.mp hentry))
  have hargs : (args.zip bare).reverse.map (·.1) = args.reverse := by
    rw [List.map_reverse, List.map_fst_zip (Nat.le_of_eq planned.1)]
  have shape := optional_of_attachDefaults fresh hattached
  rw [hargs] at shape
  rw [List.map_reverse, shape, List.reverse_append, List.reverse_replicate, List.reverse_replicate]

theorem length_of_trampolineSlots {args : List TrampolineArg}
    {ret : Option (Target × List Stmt × Expr)} (h : r.trampolineSlots m = .ok (args, ret)) :
    args.length = m.arguments.length := by
  obtain ⟨loads, hloads, h⟩ := bind_eq_ok.mp h
  have hlength := (mapM_eq_ok.mp hloads).length_eq
  rw [List.length_zipIdx] at hlength
  cases hm : m.result? with
  | none =>
    rw [hm] at h
    cases h
    exact hlength.symm
  | some type =>
    rw [hm] at h
    obtain ⟨target, _, h⟩ := bind_eq_ok.mp h
    obtain ⟨store, _, h⟩ := bind_eq_ok.mp h
    obtain ⟨default, _, h⟩ := bind_eq_ok.mp h
    cases h
    exact hlength.symm

/-! ### Parameters and arguments -/

/-- The parameters of a member are its method's arguments, those that have to be given first. -/
structure Parametrizes (r : Registry) (x : Member) : Prop where
  length : x.parameters.length = x.method.arguments.length
  optional : ∃ n, x.parameters.map (·.isOptional) =
    List.replicate (r.requiredCount x.method) false ++ List.replicate n true

theorem Parametrizes.required {x : Member} (h : r.Parametrizes x) :
    x.required = r.requiredCount x.method := by
  obtain ⟨n, optional⟩ := h.optional
  have count : x.required = (x.parameters.map (·.isOptional)).count false := by
    simp [Member.required, List.count_eq_countP, List.countP_map, Function.comp_def]
  rw [count, optional, List.count_append, List.count_replicate_self, List.count_replicate]
  simp

theorem parametrizes_bound {b : MethodBinding} (hb : b.method.hash.isSome)
    (h : r.argSlots .member b.method.arguments = .ok b.args) : r.Parametrizes (.bound b) := by
  have optional := optional_of_argSlots h
  constructor
  case length =>
    have total := congrArg List.length optional
    have whole := congrArg List.length
      (List.takeWhile_append_dropWhile (p := r.hasDefault) (l := b.method.arguments.reverse))
    simp only [List.length_map, List.length_append, List.length_replicate, List.length_reverse]
      at total whole
    show (b.args.map ArgSlot.parameter).length = b.method.arguments.length
    rw [List.length_map]
    omega
  case optional =>
    have count : r.requiredCount b.method =
        (b.method.arguments.reverse.dropWhile r.hasDefault).length := if_pos hb
    refine ⟨(b.method.arguments.reverse.takeWhile r.hasDefault).length, ?_⟩
    show (b.args.map ArgSlot.parameter).map (·.isOptional) =
      List.replicate (r.requiredCount b.method) false ++ _
    rw [List.map_map, count]
    exact optional

theorem parametrizes_overridable {t : Trampoline} (hb : ¬t.method.hash.isSome)
    (h : t.args.length = t.method.arguments.length) : r.Parametrizes (.overridable t) := by
  constructor
  case length =>
    show (t.args.map TrampolineArg.parameter).length = t.method.arguments.length
    rw [List.length_map, h]
  case optional =>
    have count : r.requiredCount t.method = t.method.arguments.length := if_neg hb
    refine ⟨0, ?_⟩
    show (t.args.map TrampolineArg.parameter).map (·.isOptional) =
      List.replicate (r.requiredCount t.method) false ++ List.replicate 0 true
    rw [List.map_map, count, ← h, List.replicate_zero, List.append_nil]
    exact List.map_const' ..

theorem parametrizes_of_planMethod {referenced : List Name} {o : Outcome} {x : Member}
    (h : r.planMethod flags c referenced m = .ok o) (ho : o.member? = some x) :
    r.Parametrizes x := by
  by_cases hb : m.hash.isSome
  · rw [planMethod_of_bound hb] at h
    obtain ⟨b, hbind, rfl⟩ := map_eq_ok.mp h
    obtain ⟨exposed, _, hcall⟩ := bind_eq_ok.mp hbind
    have carries := carries_of_planCall hcall
    rw [MethodBinding.settled, carries.outcome] at ho
    rw [planCall_eq] at hcall
    cases hs : signatureObstacle m with
    | some reason =>
      rw [hs] at ho
      cases ho
    | none =>
      rw [hs] at ho hcall
      cases ho
      obtain ⟨args, hargs, hcall⟩ := bind_eq_ok.mp hcall
      obtain ⟨ret, _, hcall⟩ := bind_eq_ok.mp hcall
      cases hcall
      exact parametrizes_bound hb hargs
  · have hn : m.hash = none := by simpa using hb
    cases hv : flags.virtuals with
    | false =>
      rw [planMethod_of_disabled hn hv] at h
      cases h
      cases ho
    | true =>
      rw [planMethod_of_virtual hn hv] at h
      obtain ⟨found, hfound, h⟩ := bind_eq_ok.mp h
      rcases acceptVirtual_eq_ok.mp hfound with ⟨_, _, rfl⟩ | ⟨_, t, ht, rfl⟩
      · cases h
        cases ho
      · cases h
        cases ho
        obtain ⟨⟨args, ret⟩, hslots, hrest⟩ := bind_eq_ok.mp ht
        obtain ⟨exposed, _, hrest⟩ := bind_eq_ok.mp hrest
        cases hrest
        exact parametrizes_overridable hb (length_of_trampolineSlots hslots)

theorem parametrizes_of_planClass {p : ClassPlan} (h : r.planClass flags c = .ok p) :
    ∀ x ∈ p.members, r.Parametrizes x := by
  obtain ⟨s, outcomes, dispatch, _, houtcomes, _, rfl⟩ := planClass_eq_ok.mp h
  intro x hx
  obtain ⟨o, ho, hmember⟩ := List.mem_filterMap.mp hx
  obtain ⟨m, _, hplan⟩ := exists_left (mapM_eq_ok.mp houtcomes) ho
  exact parametrizes_of_planMethod hplan hmember

/-- What a member takes is decided by the method that it was planned from. -/
theorem Parametrizes.takes_iff {x : Member} (h : r.Parametrizes x) {n : Nat} :
    x.Takes n ↔ r.requiredCount x.method ≤ n ∧ n ≤ x.method.arguments.length := by
  rw [Member.Takes, h.required, h.length]

/-- A property passes an index exactly where it has one and its getter takes one. -/
theorem isSome_index_of_propertyAccessor {referenced : List Name} {p : PropertyDef}
    {getter setter : MethodDef} {a : PropertyAccessor}
    (h : r.propertyAccessor c referenced p getter setter = .ok a) :
    a.index.isSome = true ↔ p.index.isSome ∧ getter.arguments ≠ [] := by
  unfold propertyAccessor at h
  obtain ⟨target, _, h⟩ := bind_eq_ok.mp h
  obtain ⟨index, hindex, h⟩ := bind_eq_ok.mp h
  obtain ⟨⟨value, requires⟩, _, h⟩ := bind_eq_ok.mp h
  obtain ⟨exposed, _, h⟩ := bind_eq_ok.mp h
  obtain ⟨getterName, _, h⟩ := bind_eq_ok.mp h
  obtain ⟨setterName, _, h⟩ := bind_eq_ok.mp h
  rw [← pure_eq_ok.mp h]
  show (index.map (·.1)).isSome = true ↔ _
  cases hnumber : p.index with
  | none =>
    rw [propertyIndex, hnumber] at hindex
    cases hindex
    simp
  | some number =>
    cases harguments : getter.arguments with
    | nil =>
      simp only [propertyIndex, hnumber, harguments] at hindex
      cases hindex
      simp
    | cons a rest =>
      simp only [propertyIndex, hnumber, harguments] at hindex
      obtain ⟨target, _, hindex⟩ := bind_eq_ok.mp hindex
      split at hindex <;> (cases hindex; simp)

/-! ### Calls of accessors -/

/-- What synthesis bounds. -/
theorem bounds_of_arityObstacle {getter setter : MethodDef}
    (h : arityObstacle getter setter = none) :
    getter.arguments.length ≤ 1 ∧ setter.arguments.length ≤ 2 := by
  unfold arityObstacle at h
  dsimp only at h
  split at h
  · cases h
  · split at h
    · cases h
    · omega

theorem requiredCount_le : r.requiredCount m ≤ m.arguments.length := by
  unfold requiredCount
  split
  · exact Nat.le_trans (List.dropWhile_sublist _).length_le (Nat.le_of_eq List.length_reverse)
  · exact Nat.le_refl _

/-- A call of a planned method fits just where its arguments are no fewer than the method
requires and no more than it declares. -/
theorem fits_iff {p : ClassPlan} (plans : ∀ x ∈ p.members, r.Parametrizes x) {name : String}
    (emits : p.Emits m name) {arguments : List Expr} {body : List Stmt}
    (hbody : body = [.result (.invoke (.attr (.name "self") name) arguments)] ∨
      body = [.exec (.invoke (.attr (.name "self") name) arguments)]) :
    p.Fits m body ↔
      r.requiredCount m ≤ arguments.length ∧ arguments.length ≤ m.arguments.length := by
  constructor
  · rintro ⟨x, hx, rfl, others, hcall, htakes⟩
    have same : x.call others = .invoke (.attr (.name "self") name) arguments := by
      rcases hbody with rfl | rfl <;> rcases hcall with hcall | hcall <;> simpa using hcall.symm
    rw [Arguments.ofList_injective (Expr.call.inj same).2] at htakes
    exact (plans x hx).takes_iff.mp htakes
  · intro hcount
    obtain ⟨x, hx, rfl, rfl⟩ := emits
    exact ⟨x, hx, rfl, arguments, hbody, (plans x hx).takes_iff.mpr hcount⟩

/-- A property's index is there for the getter's parameter, or the getter needs no argument. -/
def SuitsGetter (r : Registry) (a : PropertyAccessor) : Prop :=
  a.property.index.isSome ∨ r.requiredCount a.getter = 0

/-- The setter takes the index and the value where an index is passed. Elsewhere it takes the
value, and need not be given anything else. -/
def SuitsSetter (r : Registry) (a : PropertyAccessor) : Prop :=
  if a.property.index.isSome ∧ a.getter.arguments ≠ [] then a.setter.arguments.length = 2
  else a.setter.arguments ≠ [] ∧ r.requiredCount a.setter ≤ 1

section Accessor

variable {p : ClassPlan} {a : PropertyAccessor}

instance : Decidable (r.SuitsGetter a) :=
  inferInstanceAs (Decidable (_ ∨ _))

instance : Decidable (r.SuitsSetter a) :=
  inferInstanceAs (Decidable (if a.property.index.isSome ∧ a.getter.arguments ≠ [] then
    a.setter.arguments.length = 2 else a.setter.arguments ≠ [] ∧ r.requiredCount a.setter ≤ 1))

theorem getter_fits_iff (h : r.planClass flags c = .ok p) (ha : a ∈ p.properties) :
    p.Fits a.getter a.getterBody ↔ r.SuitsGetter a := by
  obtain ⟨referenced, accessors⟩ := plansAccessors_of_planClass h
  obtain ⟨served, getterName, _, planned⟩ := accessors.properties a ha
  have emitted := accessors.emits _ served.getter_mem served.getterEmitted _ getterName
  have fits : p.Fits a.getter a.getterBody ↔ _ :=
    fits_iff (parametrizes_of_planClass h) emitted (.inl rfl)
  have hindex := isSome_index_of_propertyAccessor planned
  have bound := (bounds_of_arityObstacle served.arity).1
  have required : r.requiredCount a.getter ≤ a.getter.arguments.length := requiredCount_le
  rw [fits, SuitsGetter]
  cases hpassed : a.index with
  | some index =>
    obtain ⟨given, harguments⟩ := hindex.mp (by rw [hpassed]; rfl)
    have positive := List.length_pos_iff.mpr harguments
    rw [Option.toList_some, List.length_singleton]
    exact ⟨fun _ => .inl given, fun _ => by omega⟩
  | none =>
    rw [Option.toList_none, List.length_nil]
    constructor
    · intro hcount
      exact .inr (by omega)
    · rintro (given | hnone)
      · -- An index that is there and is not passed: the getter has no parameter for it.
        have harguments : a.getter.arguments = [] := by
          by_contra hne
          rw [hpassed] at hindex
          exact absurd (hindex.mpr ⟨given, hne⟩) (by simp)
        rw [harguments] at required ⊢
        exact ⟨required, Nat.le_refl _⟩
      · omega

theorem setter_fits_iff (h : r.planClass flags c = .ok p) (ha : a ∈ p.properties) :
    p.Fits a.setter a.setterBody ↔ r.SuitsSetter a := by
  obtain ⟨referenced, accessors⟩ := plansAccessors_of_planClass h
  obtain ⟨served, _, setterName, planned⟩ := accessors.properties a ha
  have emitted := accessors.emits _ served.setter_mem served.setterEmitted _ setterName
  have fits : p.Fits a.setter a.setterBody ↔ _ :=
    fits_iff (parametrizes_of_planClass h) emitted (.inr rfl)
  have hindex := isSome_index_of_propertyAccessor planned
  have bound := (bounds_of_arityObstacle served.arity).2
  have required : r.requiredCount a.setter ≤ a.setter.arguments.length := requiredCount_le
  rw [fits, SuitsSetter, List.length_append, List.length_singleton]
  cases hpassed : a.index with
  | some index =>
    rw [if_pos (hindex.mp (by rw [hpassed]; rfl)), Option.toList_some, List.length_singleton]
    omega
  | none =>
    rw [hpassed] at hindex
    rw [if_neg (mt hindex.mpr (by simp)), Option.toList_none, List.length_nil,
      ← List.length_pos_iff]
    omega

end Accessor

/-- The getter of a planned property is called with as many arguments as it takes just where it
suits the property, and so is the setter. -/
theorem accessor_calls_fit_iff {p : ClassPlan} (h : r.planClass flags c = .ok p) :
    ∀ a ∈ p.properties, (p.Fits a.getter a.getterBody ↔ r.SuitsGetter a) ∧
      (p.Fits a.setter a.setterBody ↔ r.SuitsSetter a) := by
  intro a ha
  exact ⟨getter_fits_iff h ha, setter_fits_iff h ha⟩

/-- The accessors of a lamp, shared and virtual ones alike, are called as they can be. -/
theorem accessor_calls_fit_lamp :
    ∃ p, (ofClasses [lamp]).planClass {} lamp = .ok p ∧ p.properties.length = 3 ∧
      ∀ a ∈ p.properties, p.Fits a.getter a.getterBody ∧ p.Fits a.setter a.setterBody := by
  have returns : ((ofClasses [lamp]).planClass {} lamp).toOption.any (fun p : ClassPlan =>
      p.properties.length == 3 && p.properties.all fun a =>
        decide ((ofClasses [lamp]).SuitsGetter a ∧ (ofClasses [lamp]).SuitsSetter a)) := by rfl
  obtain ⟨p, hp, hfacts⟩ := exists_eq_ok_of_any returns
  obtain ⟨hlength, hsuits⟩ := Bool.and_eq_true_iff.mp hfacts
  refine ⟨p, hp, by simpa using hlength, fun a ha => ?_⟩
  obtain ⟨getter, setter⟩ := of_decide_eq_true (List.all_eq_true.mp hsuits a ha)
  obtain ⟨getterFits, setterFits⟩ := accessor_calls_fit_iff hp a ha
  exact ⟨getterFits.mpr getter, setterFits.mpr setter⟩

/-- A clock whose time is set by a method without arguments. -/
def clock : ClassDef :=
  .declaring "Clock" none
    [{ name := "get_time", returnType := some (.primitive .int), hash := some 1 },
     { name := "reset", hash := some 2 }]
    [⟨"time", .str "int", .str "get_time", some (.str "reset"), none⟩]

/-- A clock's time is a property all the same, and setting it passes a value that the setter does
not take. -/
theorem clock_setter_unfit :
    ∃ p, (ofClasses [clock]).planClass {} clock = .ok p ∧
      ∃ a ∈ p.properties, ¬p.Fits a.setter a.setterBody := by
  have returns : ((ofClasses [clock]).planClass {} clock).toOption.any
      (fun p : ClassPlan => p.properties.any fun a => a.setter.arguments.isEmpty) := by rfl
  obtain ⟨p, hp, hsome⟩ := exists_eq_ok_of_any returns
  obtain ⟨a, ha, hempty⟩ := List.any_eq_true.mp hsome
  refine ⟨p, hp, a, ha, ?_⟩
  rw [setter_fits_iff hp ha, SuitsSetter, List.isEmpty_iff.mp hempty]
  simp

end Registry

end EngineBindings
