import EngineBindings.Layout.Value
import EngineBindings.Proofs.Plan.Accessor
import EngineBindings.Proofs.Registry.Reordered
import EngineBindings.Proofs.Target.Needs

/-! Plans look at a registry through a few look-ups alone.

Registries that agree on them (`Registry.Alike`) plan the same for every declaration, up to how the
handle of a returned object is wrapped, which depends on the classes that have subclasses
(`wrappedBy`); what a class declares besides its name and its parent does not show in the plan of
another one. The registries have to agree about the owners of enumerations only as far as the types
of a declaration refer to them (`MethodDef.Within`). The lemmas follow the planning functions from
the names of types up to whole classes, one lemma for each function that asks a registry for
something; in each, the functions that it calls are the same already. -/
namespace EngineBindings

open Attempt Code

/-! ### What declarations ask for -/

section Within

variable (asked : String → Prop)

/-- A type that refers to enumerations of some names alone. -/
def TypeRef.Within (type : TypeRef) : Prop :=
  ∀ name ∈ type.leaf.enumeration?, asked name

/-- A method whose types refer to enumerations of some names alone. -/
def MethodDef.Within (m : MethodDef) : Prop :=
  ∀ type ∈ m.types, type.Within asked

/-- A class whose methods refer to enumerations of some names alone. -/
def ClassDef.Within (c : ClassDef) : Prop :=
  ∀ m ∈ c.methods, m.Within asked

end Within

variable {asked : String → Prop}

theorem MethodDef.Within.argument {m : MethodDef} (h : m.Within asked) :
    ∀ a ∈ m.arguments, a.type.Within asked :=
  fun _ ha => h _ (List.mem_append_left _ (List.mem_map_of_mem ha))

theorem MethodDef.Within.result {m : MethodDef} (h : m.Within asked) {type : TypeRef}
    (hm : m.result? = some type) : type.Within asked :=
  h type (List.mem_append_right _ (by rw [hm]; exact List.mem_singleton_self type))

theorem ClassDef.Within.method {c : ClassDef} (h : c.Within asked) {name : Name} {m : MethodDef}
    (hm : c.method? name = some m) : m.Within asked :=
  h m (List.mem_of_find?_eq_some hm)

namespace Registry

/-- Two registries that answer alike whatever planning asks them, as far as enumerations are `asked`
for, and apart from which classes have subclasses. -/
structure Alike (asked : String → Prop) (r r' : Registry) : Prop where
  profile : r'.profile = r.profile
  builtins : r'.builtins = r.builtins
  sizes : r'.sizes = r.sizes
  offsets : r'.offsets = r.offsets
  hasClass : ∀ name, asked name →
    (r'.class? (Text.splitOwner name).1).isSome = (r.class? (Text.splitOwner name).1).isSome
  enum? : r'.enum? = r.enum?

theorem Agrees.alike {r r' : Registry} (h : Agrees r r') : Alike (fun _ => True) r r' :=
  ⟨h.profile, h.builtins, h.sizes, h.offsets, fun name _ => by rw [h.class?], h.enum?⟩

end Registry

/-! ### Wrapping -/

/-- The value of a returned handle. -/
def handleValue : Expr :=
  .attr (.name resultName) "value"

/-- The object of a returned handle, looked up among the objects of all classes. -/
def lookedUp : Expr :=
  .choose (.apply "lookup_object" [handleValue]) handleValue .none

/-- The object of a returned handle, constructed as one of a given class. -/
def constructed (name : String) : Expr :=
  .choose (.call (.name name) (.cons (some "native_handle") handleValue .nil)) handleValue .none

namespace Registry

/-- The object of a returned handle: looked up where the class has subclasses. -/
def wrapping (r : Registry) (name : String) : Expr :=
  if r.hasSubclasses name then lookedUp else constructed name

end Registry

/-- A result with its handle wrapped as in another registry. -/
def ReturnPlan.wrappedBy (r : Registry) (ret : ReturnPlan) : ReturnPlan :=
  match ret.target with
  | .object name _ => { ret with unwrapped := r.wrapping name }
  | _ => ret

@[simp] theorem ReturnPlan.target_wrappedBy (r : Registry) (ret : ReturnPlan) :
    (ret.wrappedBy r).target = ret.target := by
  unfold wrappedBy
  split <;> rfl

/-- A binding returns an object of a class. -/
def MethodBinding.Returns (b : MethodBinding) (name : String) : Prop :=
  ∃ ret width, b.ret = some ret ∧ ret.target = .object name width

/-- A binding with its result wrapped as in another registry. -/
def MethodBinding.wrappedBy (r : Registry) (b : MethodBinding) : MethodBinding :=
  { b with
    ret := b.ret.map (·.wrappedBy r)
    requires := r.callRequirements b.owner b.args b.ret }

/-- A member with its result wrapped as in another registry. -/
def Member.wrappedBy (r : Registry) : Member → Member
  | bound b => bound (b.wrappedBy r)
  | overridable t => overridable t

/-- What becomes of a method, with its result wrapped as in another registry. -/
def Outcome.wrappedBy (r : Registry) : Outcome → Outcome
  | kept member => kept (member.wrappedBy r)
  | skipped diagnostic => skipped diagnostic
  | omitted => omitted

/-- The plan of a class with results wrapped as in another registry. -/
def ClassPlan.wrappedBy (r : Registry) (p : ClassPlan) : ClassPlan :=
  { p with members := p.members.map (·.wrappedBy r) }

/-- The plan of a builtin with results wrapped as in another registry. -/
def BuiltinPlan.wrappedBy (r : Registry) (p : BuiltinPlan) : BuiltinPlan :=
  { p with bindings := p.bindings.map (·.wrappedBy r) }

section Outcomes

variable (r : Registry)

theorem MethodBinding.outcome_wrappedBy (b : MethodBinding) :
    (b.wrappedBy r).outcome = b.outcome.map (·.wrappedBy r) := by
  have same : (b.wrappedBy r).unsupported = b.unsupported := rfl
  unfold outcome
  rw [same]
  cases b.unsupported <;> rfl

theorem MethodBinding.settled_wrappedBy (b : MethodBinding) :
    (b.wrappedBy r).settled = b.settled.wrappedBy r := by
  unfold settled
  rw [outcome_wrappedBy]
  cases b.outcome <;> rfl

theorem Outcome.members_wrappedBy (outcomes : List Outcome) :
    (outcomes.map (·.wrappedBy r)).filterMap member? =
      (outcomes.filterMap member?).map (·.wrappedBy r) := by
  rw [List.filterMap_map, List.map_filterMap]
  congr 1
  funext o
  cases o <;> rfl

theorem Outcome.diagnostics_wrappedBy (outcomes : List Outcome) :
    (outcomes.map (·.wrappedBy r)).filterMap diagnostic? = outcomes.filterMap diagnostic? := by
  rw [List.filterMap_map]
  congr 1
  funext o
  cases o <;> rfl

theorem Member.trampolines_wrappedBy (members : List Member) :
    (members.map (·.wrappedBy r)).filterMap trampoline? = members.filterMap trampoline? := by
  rw [List.filterMap_map]
  congr 1
  funext x
  cases x <;> rfl

end Outcomes

section Results

variable {ε α β : Type} (results : List (Except ε α)) (f : α → β)

theorem successes_map : successes (results.map (·.map f)) = (successes results).map f := by
  rw [successes, successes, List.filterMap_map, List.map_filterMap]
  congr 1
  funext result
  cases result <;> rfl

theorem failures_map : failures (results.map (·.map f)) = failures results := by
  rw [failures, failures, List.filterMap_map]
  congr 1
  funext result
  cases result <;> rfl

end Results

/-! ### Checks of properties -/

section Checks

variable {c : ClassDef} {check check' : EmittableCheck}

theorem unemitted_congr {methods : List MethodDef} (same : ∀ m ∈ methods, check' m = check m) :
    unemitted check' methods = unemitted check methods := by
  induction methods with
  | nil => rfl
  | cons m rest ih =>
    obtain ⟨first, others⟩ := List.forall_mem_cons.mp same
    rw [unemitted, unemitted, first, ih others]

variable (same : ∀ m ∈ c.methods, check' m = check m)
include same

theorem propertyAccessors_congr (p : PropertyDef) :
    propertyAccessors c (some check') p = propertyAccessors c (some check) p := by
  unfold propertyAccessors
  cases hgetter : findGetter c p with
  | error => rfl
  | ok found =>
    cases found with
    | error => rfl
    | ok getter =>
      cases hsetter : findSetter c p with
      | error => rfl
      | ok setter =>
        obtain ⟨name, _, hname⟩ := method?_of_findSetter hsetter
        have accessors : ∀ m ∈ [getter, setter], check' m = check m := by
          rintro m (_ | ⟨_, _ | ⟨_, ⟨⟩⟩⟩)
          · exact same _ (List.mem_of_find?_eq_some (method?_of_findGetter hgetter))
          · exact same _ (List.mem_of_find?_eq_some hname)
        rw [ok_bind, ok_bind]
        dsimp only
        rw [unemitted_congr accessors]

theorem Registry.acceptProperty_congr (p : PropertyDef) :
    acceptProperty c (some check') p = acceptProperty c (some check) p := by
  rw [acceptProperty, acceptProperty, propertyAccessors_congr same]

end Checks

namespace Registry

variable {r r' : Registry}

/-- Whether a class has subclasses matters to the bindings that return an object of it. -/
theorem wrappedBy_congr {b : MethodBinding}
    (h : ∀ name, b.Returns name → r'.hasSubclasses name = r.hasSubclasses name) :
    b.wrappedBy r' = b.wrappedBy r := by
  unfold MethodBinding.wrappedBy callRequirements
  cases hret : b.ret with
  | none => rfl
  | some ret =>
    unfold ReturnPlan.wrappedBy wrapping
    cases htarget : ret.target with
    | object name width => simp only [Option.map_some, htarget, h name ⟨ret, width, hret, htarget⟩]
    | void | bool | int | float | string | variant | coreValue | «enum» | bitfield | typedArray
      | pointer => simp only [Option.map_some, htarget]

section Same

variable (h : r'.hasSubclasses = r.hasSubclasses)
include h

theorem binding_wrappedBy_congr : MethodBinding.wrappedBy r' = MethodBinding.wrappedBy r :=
  funext fun _ => wrappedBy_congr fun name _ => congrFun h name

theorem classPlan_wrappedBy_congr : ClassPlan.wrappedBy r' = ClassPlan.wrappedBy r := by
  have members : Member.wrappedBy r' = Member.wrappedBy r := by
    funext x
    cases x with
    | bound b => rw [Member.wrappedBy, Member.wrappedBy, binding_wrappedBy_congr h]
    | overridable => rfl
  funext p
  rw [ClassPlan.wrappedBy, ClassPlan.wrappedBy, members]

theorem builtinPlan_wrappedBy_congr : BuiltinPlan.wrappedBy r' = BuiltinPlan.wrappedBy r := by
  funext p
  rw [BuiltinPlan.wrappedBy, BuiltinPlan.wrappedBy, binding_wrappedBy_congr h]

end Same

theorem callRequirements_wrappedBy (r r' : Registry) (owner : Name) (args : List ArgSlot)
    (ret : Option ReturnPlan) :
    r'.callRequirements owner args (ret.map (·.wrappedBy r)) =
      r'.callRequirements owner args ret := by
  cases ret with
  | none => rfl
  | some ret => simp only [callRequirements, Option.map_some, ReturnPlan.target_wrappedBy]

namespace Alike

variable {r r' : Registry} {m : MethodDef} {c : ClassDef} {type : TypeRef} {flags : Flags}

theorem refl (asked : String → Prop) (r : Registry) : Alike asked r r :=
  ⟨rfl, rfl, rfl, rfl, fun _ _ => rfl, rfl⟩

variable (h : Alike asked r r')
include h

/-! ### Look-ups -/

theorem builtin? : r'.builtin? = r.builtin? := by
  funext name
  rw [Registry.builtin?, Registry.builtin?, h.builtins]

theorem sameNames : SameNames asked r r' :=
  ⟨h.hasClass, h.enum?, h.builtin?⟩

theorem size? : r'.size? = r.size? := by
  funext name
  rw [Registry.size?, Registry.size?, h.sizes]

theorem memberOffsets : r'.memberOffsets = r.memberOffsets := by
  funext name
  rw [Registry.memberOffsets, Registry.memberOffsets, h.offsets]

/-! ### Targets -/

theorem integerWidth : r'.integerWidth = r.integerWidth := by
  funext tag use
  unfold Registry.integerWidth
  rw [h.profile]

theorem floatWidth : r'.floatWidth = r.floatWidth := by
  funext tag use
  unfold Registry.floatWidth
  rw [h.profile]

theorem primitiveTarget : r'.primitiveTarget = r.primitiveTarget := by
  funext type tag use
  unfold Registry.primitiveTarget
  rw [h.integerWidth, h.floatWidth]

theorem target (within : type.Within asked) : r'.target type = r.target type := by
  induction type with
  | typedArray element ih =>
    funext tag use
    rw [Registry.target, Registry.target, ih within]
  | «enum» name | bitfield name =>
    have hname : asked name := within name rfl
    funext tag use
    rw [Registry.target, Registry.target, h.sameNames.enumHostName hname,
      h.sameNames.enumOwner? hname]
  | primitive | object | value | pointer | bare =>
    funext tag use
    simp only [Registry.target, h.primitiveTarget, h.sameNames.valueTarget, h.profile]

theorem argumentTarget {a : ArgumentDef} (within : a.type.Within asked) :
    r'.argumentTarget a = r.argumentTarget a := by
  funext use
  rw [Registry.argumentTarget, Registry.argumentTarget, h.target within]

theorem resultTarget (within : m.Within asked) : r'.resultTarget m = r.resultTarget m := by
  funext use
  unfold Registry.resultTarget
  split
  · next type hm => rw [h.target (within.result hm)]
  · rfl

theorem requireSize : r'.requireSize = r.requireSize := by
  funext name
  rw [Registry.requireSize, Registry.requireSize, h.size?, h.profile]

/-! ### Zero values -/

theorem defaultValue (within : type.Within asked) : r'.defaultValue type = r.defaultValue type := by
  cases type with
  | primitive type => cases type <;> rfl
  | «enum» name =>
    rw [Registry.defaultValue, Registry.defaultValue, h.sameNames.enumDefault (within name rfl)]
  | bitfield name =>
    rw [Registry.defaultValue, Registry.defaultValue, h.sameNames.enumHostName (within name rfl)]
  | typedArray element =>
    have inner : element.Within asked := within
    rw [Registry.defaultValue, Registry.defaultValue, h.target inner]
  | object | value | pointer | bare => rfl

theorem storage : r'.storage = r.storage := by
  funext name
  rw [Registry.storage, Registry.storage, h.requireSize]

/-! ### Bindings -/

theorem argSlot {a : ArgumentDef} (within : a.type.Within asked) (use : TypeUse) :
    r'.argSlot use a = r.argSlot use a := by
  rw [Registry.argSlot, Registry.argSlot, h.argumentTarget within, h.sameNames.needsCopy]

theorem argSlots (within : m.Within asked) (use : TypeUse) :
    r'.argSlots use m.arguments = r.argSlots use m.arguments := by
  rw [Registry.argSlots, Registry.argSlots,
    mapM_congr fun a ha => h.argSlot (within.argument a ha) use]

theorem returnPlan (within : type.Within asked) (use : TypeUse) (m : MethodDef) :
    r'.returnPlan use m type = (r.returnPlan use m type).map (·.wrappedBy r') := by
  rw [Registry.returnPlan, Registry.returnPlan, h.target within, h.defaultValue within, h.storage]
  cases r.target type m.returnTag use with
  | error => rfl
  | ok target =>
    cases r.defaultValue type with
    | error => rfl
    | ok zero =>
      cases target with
      | object name width =>
        -- whether the class has subclasses is all that differs
        cases hs : r'.hasSubclasses name <;>
          simp [ok_bind, hs, Except.map, pure, Except.pure, ReturnPlan.wrappedBy, wrapping,
            lookedUp, constructed, handleValue]
      | typedArray element spelling => cases r.storage "Array" <;> rfl
      | coreValue name isStruct => cases isStruct <;> rfl
      | void | bool | int | float | string | variant | «enum» | bitfield | pointer => rfl

theorem resultPlan (within : m.Within asked) (use : TypeUse) :
    r'.resultPlan use m = (r.resultPlan use m).map (·.map (·.wrappedBy r')) := by
  unfold Registry.resultPlan
  split
  · next type hm => rw [h.returnPlan (within.result hm), map_map, map_map]; rfl
  · rfl

theorem planCall (within : m.Within asked) (owner : Name) (exposedName handleName : String)
    (isPrivate : Bool) (kind : BindingKind) (use : TypeUse) :
    r'.planCall owner m exposedName handleName isPrivate kind use =
      (r.planCall owner m exposedName handleName isPrivate kind use).map (·.wrappedBy r') := by
  rw [planCall_eq, planCall_eq]
  cases signatureObstacle m with
  | some reason => rfl
  | none =>
    dsimp only
    rw [h.argSlots within, h.resultPlan within]
    cases r.argSlots use m.arguments with
    | error => rfl
    | ok args =>
      cases r.resultPlan use m with
      | error => rfl
      | ok ret =>
        show Except.ok _ = Except.ok _
        rw [callRequirements_wrappedBy]
        rfl

theorem bindMethod (within : m.Within asked) (c : ClassDef) (referenced : List Name) :
    r'.bindMethod c m referenced = (r.bindMethod c m referenced).map (·.wrappedBy r') := by
  simp only [Registry.bindMethod, h.planCall within, map_bind]

theorem bindUtility {u : UtilityDef} (within : u.asMethod.Within asked) :
    r'.bindUtility u = (r.bindUtility u).map (·.wrappedBy r') := by
  simp only [Registry.bindUtility, h.planCall within, map_bind]

theorem bindBuiltin (within : m.Within asked) (b : BuiltinDef) :
    r'.bindBuiltin b m = (r.bindBuiltin b m).map (·.wrappedBy r') := by
  simp only [Registry.bindBuiltin, h.planCall within, map_bind]

/-! ### Trampolines -/

theorem argumentsObstacle {args : List ArgumentDef} (within : ∀ a ∈ args, a.type.Within asked) :
    r'.argumentsObstacle args = r.argumentsObstacle args := by
  induction args with
  | nil => rfl
  | cons a rest ih =>
    obtain ⟨first, others⟩ := List.forall_mem_cons.mp within
    rw [Registry.argumentsObstacle, Registry.argumentsObstacle, h.argumentTarget first, ih others]

theorem rejection (within : m.Within asked) : r'.rejection m = r.rejection m := by
  rw [Registry.rejection, Registry.rejection, h.argumentsObstacle within.argument]

theorem loadArgument : r'.loadArgument = r.loadArgument := by
  funext name index target
  unfold Registry.loadArgument
  rw [h.requireSize]

theorem storeResult : r'.storeResult = r.storeResult := by
  funext target
  unfold Registry.storeResult
  rw [h.requireSize]

theorem trampolineArg {a : ArgumentDef} (within : a.type.Within asked) (index : Nat) :
    r'.trampolineArg a index = r.trampolineArg a index := by
  rw [Registry.trampolineArg, Registry.trampolineArg, h.argumentTarget within, h.loadArgument]

theorem trampolineSlots (within : m.Within asked) :
    r'.trampolineSlots m = r.trampolineSlots m := by
  have args : (m.arguments.zipIdx.mapM fun entry => r'.trampolineArg entry.1 entry.2) =
      m.arguments.zipIdx.mapM fun entry => r.trampolineArg entry.1 entry.2 :=
    mapM_congr fun entry hentry =>
      h.trampolineArg (within.argument _ (List.fst_mem_of_mem_zipIdx hentry)) _
  unfold Registry.trampolineSlots
  rw [args]
  congr 1
  funext args
  split
  · rfl
  · next type hm =>
    rw [h.target (within.result hm), h.storeResult, h.defaultValue (within.result hm)]

theorem trampoline (within : m.Within asked) (c : ClassDef) :
    r'.trampoline c m = r.trampoline c m := by
  rw [Registry.trampoline, Registry.trampoline, h.trampolineSlots within]

theorem acceptVirtual (within : m.Within asked) (c : ClassDef) :
    r'.acceptVirtual c m = r.acceptVirtual c m := by
  rw [Registry.acceptVirtual, Registry.acceptVirtual, h.rejection within, h.trampoline within]

/-! ### Properties -/

theorem propertyIndex {getter : MethodDef} (within : getter.Within asked) (p : PropertyDef) :
    r'.propertyIndex p getter = r.propertyIndex p getter := by
  unfold Registry.propertyIndex
  split
  · next index a rest _ hargs =>
    rw [h.argumentTarget (within.argument a (hargs ▸ List.mem_cons_self))]
  · rfl

theorem propertyValue {setter : MethodDef} (within : setter.Within asked) (target : Target) :
    r'.propertyValue target setter = r.propertyValue target setter := by
  unfold Registry.propertyValue
  split
  · rfl
  · next a ha => rw [h.argumentTarget (within.argument a (List.mem_of_getLast? ha))]

theorem propertyAccessor {getter setter : MethodDef} (hgetter : getter.Within asked)
    (hsetter : setter.Within asked) (c : ClassDef) (referenced : List Name) (p : PropertyDef) :
    r'.propertyAccessor c referenced p getter setter =
      r.propertyAccessor c referenced p getter setter := by
  simp only [Registry.propertyAccessor, h.resultTarget hgetter, h.propertyIndex hgetter,
    h.propertyValue hsetter]

theorem properties (within : c.Within asked) {check check' : EmittableCheck}
    (same : ∀ m ∈ c.methods, check' m = check m) :
    r'.properties c (some check') = r.properties c (some check) := by
  have sameChecks : (c.properties.mapM fun p => return (p, ← acceptProperty c (some check') p)) =
      c.properties.mapM fun p => return (p, ← acceptProperty c (some check) p) := by
    simp only [acceptProperty_congr same]
  unfold Registry.properties
  rw [sameChecks]
  cases hchecked : c.properties.mapM fun p => return (p, ← acceptProperty c (some check) p) with
  | error => rfl
  | ok checked =>
    rw [ok_bind, ok_bind]
    dsimp only
    rw [mapM_congr fun entry hentry => ?_]
    -- accepted properties are served by methods of the class
    obtain ⟨⟨p, found⟩, hx, hentry⟩ := List.mem_filterMap.mp hentry
    obtain ⟨_, _, rfl, hfound⟩ := exists_left (checked_of_mapM hchecked) hx
    cases found with
    | error => cases hentry
    | ok accessors =>
      cases hentry
      have served := served_of_propertyAccessors hfound
      exact h.propertyAccessor (within _ served.getter_mem) (within _ served.setter_mem) c _ p

/-! ### Classes and builtins -/

theorem emittable (within : m.Within asked) (flags : Flags) :
    r'.emittable flags m = r.emittable flags m := by
  rw [Registry.emittable, Registry.emittable, h.rejection within]

theorem planMethod (within : m.Within asked) (flags : Flags) (c : ClassDef)
    (referenced : List Name) :
    r'.planMethod flags c referenced m =
      (r.planMethod flags c referenced m).map (·.wrappedBy r') := by
  by_cases hb : m.hash.isSome
  · rw [planMethod_of_bound hb, planMethod_of_bound hb, h.bindMethod within, map_map, map_map]
    simp only [MethodBinding.settled_wrappedBy]
  · have hn : m.hash = none := by simpa using hb
    cases hv : flags.virtuals with
    | false =>
      rw [planMethod_of_disabled hn hv, planMethod_of_disabled hn hv]
      rfl
    | true =>
      rw [planMethod_of_virtual hn hv, planMethod_of_virtual hn hv, h.acceptVirtual within,
        map_bind]
      congr 1
      funext found
      cases found <;> rfl

theorem planProperties (within : c.Within asked) (flags : Flags) :
    r'.planProperties flags c = r.planProperties flags c := by
  rw [Registry.planProperties, Registry.planProperties,
    h.properties within fun m hm => h.emittable (within m hm) flags]

theorem planClass (within : c.Within asked) (flags : Flags) :
    r'.planClass flags c = (r.planClass flags c).map (·.wrappedBy r') := by
  unfold Registry.planClass
  rw [h.planProperties within, map_bind]
  congr 1
  funext s
  rw [mapM_congr fun m hm => h.planMethod (within m hm) flags c s.referenced, ← map_mapM]
  cases c.methods.mapM (r.planMethod flags c s.referenced) with
  | error => rfl
  | ok outcomes =>
    simp only [Except.map, ok_bind, Outcome.members_wrappedBy, Outcome.diagnostics_wrappedBy,
      Member.trampolines_wrappedBy]
    cases DispatchTable.ofTrampolines c
      ((outcomes.filterMap Outcome.member?).filterMap Member.trampoline?) <;> rfl

theorem planBuiltinMethod (within : m.Within asked) (b : BuiltinDef) :
    r'.planBuiltinMethod b m =
      (r.planBuiltinMethod b m).map (·.map (·.wrappedBy r')) := by
  unfold Registry.planBuiltinMethod
  rw [h.bindBuiltin within, map_bind]
  cases r.bindBuiltin b m with
  | error => rfl
  | ok binding =>
    simp only [Except.map, ok_bind, MethodBinding.outcome_wrappedBy]
    cases binding.outcome with
    | error => rfl
    | ok kept =>
      dsimp only [Except.map, MethodBinding.wrappedBy]
      split <;> rfl

theorem planBuiltin {b : BuiltinDef} (within : ∀ m ∈ b.methods, m.Within asked) :
    r'.planBuiltin b = (r.planBuiltin b).map (·.wrappedBy r') := by
  unfold Registry.planBuiltin
  rw [mapM_congr fun m hm => h.planBuiltinMethod (within m hm) b, ← map_mapM, map_bind]
  congr 1
  funext _
  cases b.methods.mapM (r.planBuiltinMethod b) with
  | error => rfl
  | ok results =>
    rw [Except.map, ok_bind, successes_map, failures_map]
    rfl

theorem plannedBuiltins : r'.plannedBuiltins = r.plannedBuiltins := by
  rw [Registry.plannedBuiltins, Registry.plannedBuiltins, h.builtins, h.size?]

/-! ### Layouts -/

theorem offsetField : r'.offsetField = r.offsetField := by
  funext owner m
  rw [Registry.offsetField, Registry.offsetField, h.size?]

theorem memberField : r'.memberField = r.memberField := by
  funext owner offset m
  rw [Registry.memberField, Registry.memberField, h.primitiveTarget, h.size?]

theorem sequentialFields : r'.sequentialFields = r.sequentialFields := by
  funext owner offset members
  induction members generalizing offset with
  | nil => rfl
  | cons m rest ih =>
    simp only [Registry.sequentialFields, h.memberField, ih]

theorem layoutFields : r'.layoutFields = r.layoutFields := by
  funext name
  rw [Registry.layoutFields, Registry.layoutFields, h.memberOffsets, h.builtin?,
    h.sequentialFields, h.offsetField]

theorem layout : r'.layout = r.layout := by
  funext name
  rw [Registry.layout, Registry.layout, h.size?, h.profile, h.layoutFields]

theorem placeLayout : r'.placeLayout = r.placeLayout := by
  funext fuel
  induction fuel with
  | zero => rfl
  | succ fuel ih =>
    funext p name
    rw [Registry.placeLayout, Registry.placeLayout, h.layout, ih]

theorem structLayouts : r'.structLayouts = r.structLayouts := by
  rw [Registry.structLayouts, Registry.structLayouts, Registry.sizedStructs,
    Registry.sizedStructs, h.builtins, h.size?, h.sizes, h.placeLayout]

theorem declarationFields : r'.declarationFields = r.declarationFields := by
  funext name
  rw [Registry.declarationFields, Registry.declarationFields, h.layout]

end Alike

/-! ### Registries with the same subclasses -/

section SameSubclasses

variable {r r' : Registry} (h : Alike (fun _ => True) r r')
  (subclasses : r'.hasSubclasses = r.hasSubclasses)
include h subclasses

theorem planClass_congr : r'.planClass = r.planClass := by
  funext flags c
  have within : c.Within fun _ => True := fun _ _ _ _ _ _ => trivial
  rw [h.planClass within, classPlan_wrappedBy_congr subclasses]
  exact ((Alike.refl _ r).planClass within flags).symm

theorem bindUtility_congr : r'.bindUtility = r.bindUtility := by
  funext u
  have within : u.asMethod.Within fun _ => True := fun _ _ _ _ => trivial
  rw [h.bindUtility within, binding_wrappedBy_congr subclasses]
  exact ((Alike.refl _ r).bindUtility within).symm

theorem planBuiltin_congr : r'.planBuiltin = r.planBuiltin := by
  funext b
  have within : ∀ m ∈ b.methods, m.Within fun _ => True := fun _ _ _ _ _ _ => trivial
  rw [h.planBuiltin within, builtinPlan_wrappedBy_congr subclasses]
  exact ((Alike.refl _ r).planBuiltin within).symm

end SameSubclasses

end Registry

end EngineBindings
