import EngineBindings.Plan.Property

/-! Plans of classes, builtins and the whole schema.

Classes are planned one by one against the registry. Properties come first, since they decide
which methods are hidden; then every method becomes a member or a diagnostic. Virtual methods
can be switched off, which omits them without a diagnostic, and so can properties. -/
namespace EngineBindings

open EngineBindings.Code EngineBindings.Text

/-- What is planned. -/
structure Flags where
  properties : Bool := true
  virtuals : Bool := true

/-- A method of an emitted class. -/
inductive Member where
  | bound (binding : MethodBinding)
  | overridable (trampoline : Trampoline)

namespace Member

/-- The symbols that a member imports. -/
def requires : Member → List Requirement
  | bound b => b.requires
  | overridable t => t.requires

/-- The parameters of a member. -/
def parameterList : Member → String
  | bound b => b.parameterList
  | overridable t => t.parameterList

/-- The type of a member's result. -/
def returnAnnotation : Member → String
  | bound b => b.returnAnnotation
  | overridable t => t.returnAnnotation

/-- The binding of a bound member. -/
def binding? : Member → Option MethodBinding
  | bound b => some b
  | overridable _ => none

/-- The trampoline of an overridable member. -/
def trampoline? : Member → Option Trampoline
  | bound _ => none
  | overridable t => some t

end Member

/-- The plan of a class. -/
structure ClassPlan where
  cls : ClassDef
  properties : List PropertyAccessor
  members : List Member
  dispatch : DispatchTable
  diagnostics : List Diagnostic

namespace ClassPlan

/-- The name of the class. -/
def name (p : ClassPlan) : Name := p.cls.name

/-- The name of its parent. -/
def parent (p : ClassPlan) : Option Name := p.cls.parent

/-- The bound members. -/
def bindings (p : ClassPlan) : List MethodBinding :=
  p.members.filterMap Member.binding?

/-- The overridable members. -/
def virtuals (p : ClassPlan) : List Trampoline :=
  p.members.filterMap Member.trampoline?

/-- The symbols that the members and properties import. -/
def requires (p : ClassPlan) : List Requirement :=
  p.members.flatMap Member.requires ++ p.properties.flatMap (·.requires)

/-- The other classes that the bodies of members refer to. -/
def classReferences (p : ClassPlan) : List String :=
  sortDistinct ((p.requires.filter fun q =>
    q.origin = .class && !q.isClass p.name && !p.parent.any q.isClass).map (·.symbol))

end ClassPlan

/-- The plan of a builtin's methods. -/
structure BuiltinPlan where
  builtin : BuiltinDef
  bindings : List MethodBinding
  diagnostics : List Diagnostic

namespace BuiltinPlan

/-- The name of the builtin. -/
def name (p : BuiltinPlan) : Name := p.builtin.name

/-- The class of emitted code that carries the methods; empty when there are none. -/
def holder (p : BuiltinPlan) : Name :=
  (p.bindings.head?.map (·.holder)).getD ""

/-- The symbols that the methods import. -/
def requires (p : BuiltinPlan) : List Requirement :=
  p.bindings.flatMap (·.requires)

end BuiltinPlan

/-- The plans of a whole schema. -/
structure Generation where
  registry : Registry
  plans : List ClassPlan
  utilities : List MethodBinding
  diagnostics : List Diagnostic
  builtins : List BuiltinPlan

namespace Generation

/-- The plan of a class by its name. -/
def plan? (g : Generation) (name : Name) : Option ClassPlan :=
  g.plans.find? (·.name.equals name)

/-- The dispatch tables of all classes. -/
def dispatchTables (g : Generation) : List DispatchTable :=
  g.plans.map (·.dispatch)

end Generation

/-- A planned method: a member or a diagnostic, or nothing where it is switched off. -/
inductive Outcome where
  | kept (member : Member)
  | skipped (diagnostic : Diagnostic)
  | omitted

namespace Outcome

/-- The member of an outcome. -/
def member? : Outcome → Option Member
  | kept member => some member
  | _ => none

/-- The diagnostic of an outcome. -/
def diagnostic? : Outcome → Option Diagnostic
  | skipped diagnostic => some diagnostic
  | _ => none

end Outcome

/-- Sorts a binding by whether it is bound. -/
def MethodBinding.outcome (b : MethodBinding) : Except Diagnostic MethodBinding :=
  match b.unsupported with
  | some reason => .error ⟨b.owner, b.method.name, reason⟩
  | none => .ok b

/-- The values of a list of results. -/
def successes (results : List (Except ε α)) : List α :=
  results.filterMap Except.toOption

/-- The errors of a list of results. -/
def failures (results : List (Except ε α)) : List ε :=
  results.filterMap fun result =>
    match result with
    | .error e => some e
    | .ok _ => none

namespace Registry

/-- Why a method of a class is not emitted, if it is not. -/
def emittable (r : Registry) (flags : Flags) : EmittableCheck := fun m =>
  if m.hash.isSome then .ok (signatureObstacle m)
  else if flags.virtuals then r.rejection m
  else .ok (some "virtual methods are disabled")

/-- What becomes of a method of a class. -/
def planMethod (r : Registry) (flags : Flags) (c : ClassDef) (referenced : List Name)
    (m : MethodDef) : Except Fault Outcome :=
  if m.hash.isSome then do
    match (← r.bindMethod c m referenced).outcome with
    | .ok binding => return .kept (.bound binding)
    | .error diagnostic => return .skipped diagnostic
  else if flags.virtuals then do
    match ← r.acceptVirtual c m with
    | .ok trampoline => return .kept (.overridable trampoline)
    | .error diagnostic => return .skipped diagnostic
  else .ok .omitted

/-- The properties of a class, none where they are switched off. -/
def planProperties (r : Registry) (flags : Flags) (c : ClassDef) : Except Fault PropertySet :=
  if flags.properties then r.properties c (some (r.emittable flags))
  else .ok ⟨[], [], []⟩

/-- The plan of a class. -/
def planClass (r : Registry) (flags : Flags) (c : ClassDef) : Except Fault ClassPlan := do
  let properties ← r.planProperties flags c
  let outcomes ← c.methods.mapM (r.planMethod flags c properties.referenced)
  let members := outcomes.filterMap Outcome.member?
  let dispatch ←
    (DispatchTable.ofTrampolines c (members.filterMap Member.trampoline?)).mapError .value
  return {
    members, dispatch
    cls := c
    properties := properties.accessors
    diagnostics := properties.diagnostics ++ outcomes.filterMap Outcome.diagnostic? }

/-- A binding of a builtin, or why it is left out. -/
def planBuiltinMethod (r : Registry) (b : BuiltinDef) (m : MethodDef) :
    Except Fault (Except Diagnostic MethodBinding) := do
  match (← r.bindBuiltin b m).outcome with
  | .error diagnostic => return .error diagnostic
  | .ok binding =>
    if b.members.any (·.name == (binding.exposedName : Name)) then
      return .error ⟨b.name, m.name, "name clashes with a struct field"⟩
    else return .ok binding

/-- The members of a builtin have names that methods can be compared with. -/
def checkMemberNames (b : BuiltinDef) : Except Fault Unit :=
  b.members.forM fun m => discard (m.name.keyed.mapError Fault.value)

/-- The plan of a builtin's methods. -/
def planBuiltin (r : Registry) (b : BuiltinDef) : Except Fault BuiltinPlan := do
  checkMemberNames b
  let results ← b.methods.mapM (r.planBuiltinMethod b)
  return ⟨b, successes results, failures results⟩

/-- The builtins whose methods are planned: those with a size and methods. -/
def plannedBuiltins (r : Registry) : List BuiltinDef :=
  r.builtins.filter fun b => !b.methods.isEmpty && (r.size? b.name).isSome

/-- The plans of every class in order of declaration, every utility function and the methods of
every sized builtin. -/
def generate (r : Registry) (flags : Flags) : Except Fault Generation := do
  let plans ← r.classes.mapM (r.planClass flags)
  let utilities := (← r.utilities.mapM r.bindUtility).map MethodBinding.outcome
  let builtins ← r.plannedBuiltins.mapM r.planBuiltin
  return {
    registry := r
    plans := plans
    utilities := successes utilities
    builtins := builtins
    diagnostics := plans.flatMap (·.diagnostics) ++ failures utilities ++
      builtins.flatMap (·.diagnostics) }

end Registry

end EngineBindings
