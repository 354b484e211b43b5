import EngineBindings.Journal.Basic
import EngineBindings.Plan.Generation
import EngineBindings.Schema.Decode

/-! What is reported while a registry is made and while its members are planned.

Reading a schema reports every virtual method whose hash is ignored, up to the first fault, and a
registry is reported by what it holds. Every planned call and every member that is left out is
reported where it comes up, again up to the first fault. -/
namespace EngineBindings.Journal

open EngineBindings.Schema

/-! ### Registries -/

/-- What is reported about one method: that its hash is ignored, if it is. -/
def methodEntries (owner : String) : Json → Journal
  | .obj fields =>
    match Json.find? fields "name" with
    | some name =>
      match flag fields "is_virtual", optional fields "hash" with
      | true, .null => []
      | true, _ =>
        [.debug .virtualHash "%s: ignoring compatibility hash of virtual method"
          [.text (owner ++ "." ++ name.display)]]
      | false, _ => []
    | none => []
  | _ => []

/-- What is reported about the methods of a class. -/
def classEntries (names : KnownNames) (value : Json) : Journal × Bool :=
  match value with
  | .obj fields =>
    match Json.find? fields "name", list fields "methods" "" with
    | some owner, .ok methods =>
      let (entries, goesOn) := inOrder (fun m =>
        (methodEntries owner.display m, (method names owner.display m).toBool)) methods
      (entries, goesOn && (classDef names value).toBool)
    | _, _ => ([], false)
  | _ => ([], false)

/-- What is reported while a document is read. -/
def documentEntries (configuration : String) (document : Json) : Journal :=
  match outline configuration document with
  | .ok o => (inOrder (classEntries o.names) o.classes).1
  | .error _ => []

/-- What a registry holds. -/
def registryEntries (r : Registry) : Journal :=
  [.debug .registry "Registry built for %s: %d classes, %d builtins, %d global enums"
     [.text r.profile.name, .count r.classes.length, .count r.builtins.length,
      .count r.globalEnums.length],
   .info .declarations "Loaded %d class(es), %d builtin(s), %d utility function(s) for %s"
     [.count r.classes.length, .count r.builtins.length, .count r.utilities.length,
      .text r.profile.name]]

/-! ### Plans -/

/-- What is reported about the zero value of a result: that an enumeration without a zero member
starts at its first one. -/
def zeroEntries (r : Registry) (m : MethodDef) : Journal :=
  match m.result? with
  | some (.enum name) =>
    if (enumZeroMembers.lookup name).isSome then []
    else
      match (r.enum? name).map (·.values) with
      | some (first :: rest) =>
        if (first :: rest).any (·.value = 0) then []
        else
          first.name.sanitize.toOption.toList.map fun first =>
            .debug .enumZero "Enum %s has no zero member; defaulting to %s"
              [.text name, .text first]
      | _ => []
  | _ => []

/-- What is reported about a planned call. -/
def bindingEntries (r : Registry) (b : MethodBinding) : Journal :=
  if b.unsupported.isSome then []
  else
    zeroEntries r b.method ++
      [.debug .call "Planned %s.%s with %d argument slot(s)"
        [.name b.owner, .name b.method.name, .count b.args.length]]

/-- What is reported about members that are left out. -/
def diagnosticEntries (site : Site) (diagnostics : List Diagnostic) : Journal :=
  diagnostics.map fun d => .warning site "%s" [.diagnostic d]

/-- What is reported about a property: why it is left out, if it is. -/
def propertyEntries (c : ClassDef) (check : EmittableCheck) (p : PropertyDef) : Journal × Bool :=
  match Registry.acceptProperty c (some check) p with
  | .ok (.error reason) =>
    ([.debug .property "Skipping property %s" [.diagnostic ⟨c.name, p.name, reason⟩]], true)
  | .ok (.ok _) => ([], true)
  | .error _ => ([], false)

/-- What is reported about a method of a class. -/
def methodPlanEntries (r : Registry) (flags : Flags) (c : ClassDef) (referenced : List Name)
    (m : MethodDef) : Journal × Bool :=
  if m.hash.isSome then
    match r.bindMethod c m referenced with
    | .ok b => (bindingEntries r b, true)
    | .error _ => ([], false)
  else if flags.virtuals then
    match r.rejection m, r.trampolineSlots m with
    | .ok none, .ok _ => (zeroEntries r m, (r.acceptVirtual c m).toBool)
    | .ok (some _), _ => ([], true)
    | _, _ => ([], false)
  else ([], true)

/-- How many members of each kind a class has. -/
def planSummary (p : ClassPlan) : Entry :=
  .debug .classPlan "Planned %s: %d method(s), %d virtual(s), %d propert(ies), %d skipped"
    [.name p.name, .count p.bindings.length, .count p.virtuals.length,
     .count p.properties.length, .count p.diagnostics.length]

/-- What is reported about a class. -/
def classPlanEntries (r : Registry) (flags : Flags) (c : ClassDef) : Journal × Bool :=
  let (skipped, goesOn) :=
    if flags.properties then inOrder (propertyEntries c (r.emittable flags)) c.properties
    else ([], true)
  match goesOn, r.planProperties flags c with
  | true, .ok properties =>
    let (planned, _) := inOrder (methodPlanEntries r flags c properties.referenced) c.methods
    match r.planClass flags c with
    | .ok p => (skipped ++ planned ++ diagnosticEntries .classDiagnostic p.diagnostics ++
        [planSummary p], true)
    | .error _ => (skipped ++ planned, false)
  | _, _ => (skipped, false)

/-- What is reported about a utility function. -/
def utilityEntries (r : Registry) (u : UtilityDef) : Journal × Bool :=
  match r.bindUtility u with
  | .ok b =>
    match b.outcome with
    | .ok b => (bindingEntries r b, true)
    | .error d => (diagnosticEntries .utilityDiagnostic [d], true)
  | .error _ => ([], false)

/-- What is reported about a builtin. -/
def builtinEntries (r : Registry) (b : BuiltinDef) : Journal × Bool :=
  let (planned, _) := inOrder (fun m =>
    match Registry.checkMemberNames b, r.bindBuiltin b m with
    | .ok _, .ok binding => (bindingEntries r binding, true)
    | _, _ => ([], false)) b.methods
  match r.planBuiltin b with
  | .ok p => (planned ++ diagnosticEntries .builtinDiagnostic p.diagnostics, true)
  | .error _ => (planned, false)

/-- What is reported while everything is planned. -/
def planEntries (r : Registry) (flags : Flags) : Journal :=
  match inOrder (classPlanEntries r flags) r.classes with
  | (classes, false) => classes
  | (classes, true) =>
    match inOrder (utilityEntries r) r.utilities with
    | (utilities, false) => classes ++ utilities
    | (utilities, true) => classes ++ utilities ++ (inOrder (builtinEntries r) r.plannedBuiltins).1

/-- How much has been planned. -/
def generationSummary (g : Generation) : Entry :=
  let bound : Nat := g.builtins.foldl (fun count p => count + p.bindings.length) 0
  .info .generation
    ("Planned %d class(es), %d utility function(s) and %d builtin method(s); " ++
      "%d member(s) skipped")
    [.count g.plans.length, .count g.utilities.length, .count bound, .count g.diagnostics.length]

end EngineBindings.Journal
