import EngineBindings.Package.ClassModule
import EngineBindings.Package.Template

/-! Artifacts of a generation.

A package has modules for the core definitions, the utility functions and every class, and two
that gather them. In single-file mode everything stands in one module, classes after their
parents. Rendering gives texts under paths relative to the output directory, in the order in
which they are made. -/
namespace EngineBindings.Package

open EngineBindings.Text

/-- How artifacts are rendered. -/
structure RenderOptions where
  runtimeModule : String := "godot.runtime"
  singleFile : Bool := false
  singleFileName : Name := "bindings.py"
  coreTemplate : Name := Package.coreTemplate
  utilityTemplate : Name := Package.utilityTemplate
  initTemplate : Name := Package.initTemplate

/-- A template that has failed, and why. -/
structure TemplateFailure where
  name : Name
  cause : TemplateFault

/-- Why rendering stops: a fault of the plans, or of a template. -/
inductive RenderFailure where
  | fault (cause : Fault)
  | template (failure : TemplateFailure)

/-- The failure that the fault of a value makes. -/
def valueFailure (cause : ValueFault) : RenderFailure :=
  .fault (.value cause)

/-- The fault behind a failure. -/
def RenderFailure.toFault : RenderFailure → Fault
  | fault cause => cause
  | template failure => .template failure.cause

/-- Renders a template, remembering its name if it fails. -/
def renderTemplate (own : Templates) (name : Name) (content : Content) :
    Except RenderFailure String :=
  (own.render name content).mapError fun cause => .template ⟨name, cause⟩

/-- The plans of all classes, parents first. -/
def parentFirstPlans (g : Generation) : List ClassPlan :=
  g.registry.parentFirst.filterMap fun c => g.plans.find? (·.name == c.name)

/-- Everything that the plans of a generation require. -/
def allRequirements (g : Generation) : List Requirement :=
  (parentFirstPlans g).flatMap (·.requires) ++ g.utilities.flatMap (·.requires) ++
    g.builtins.flatMap (·.requires)

/-- The head of a single module. -/
def singleFileHead (g : Generation) (runtimeModule : String) : List String :=
  let base :=
    ["gi", "Wrapped", "classdb_method_bind", "instance_from_handle", "utility_function_bind",
     "builtin_method_bind", "variant_constructor", "variant_operator_evaluator"]
  [headerComment g.registry, "from __future__ import annotations", "", "import ctypes",
   "from enum import IntEnum, IntFlag", "from typing import Optional", "",
   importLine slotModule ["POINTER_SIZE", "LazyBinding", "SlotBuffer", "slot_addresses"],
   importLine runtimeModule (runtimeSymbols base (allRequirements g)), ""]

/-- Everything in one module. -/
def renderSingleFile (g : Generation) (options : RenderOptions) (own : Templates)
    (defs : CoreDefs) : Except RenderFailure String := do
  let core ← renderTemplate own options.coreTemplate (.core defs false)
  let coreText := String.ofList (dropEndWhile isBlank core.toList)
  let classes ← (parentFirstPlans g).mapM fun p => (classBody p false).mapError valueFailure
  let functions ← renderTemplate own options.utilityTemplate
    (.utilities (utilities g options.runtimeModule false) false)
  let utilityText := strip functions
  return join "\n"
    (singleFileHead g options.runtimeModule ++ [coreText] ++
      (classes.flatMap fun body => ["", ""] ++ body) ++
      (if utilityText.isEmpty then [] else ["", "", utilityText]) ++ [""])

/-- One module for each class, and those around them. -/
def renderPackage (g : Generation) (options : RenderOptions) (own : Templates)
    (defs : CoreDefs) : Except RenderFailure (OrderedMap Name String) := do
  let plans := parentFirstPlans g
  let header := headerComment g.registry
  let core ← renderTemplate own options.coreTemplate (.core defs true)
  let functions ← renderTemplate own options.utilityTemplate
    (.utilities (utilities g options.runtimeModule true) true)
  let classes ← plans.mapM fun p => do
    let lines ← (classModuleLines header options.runtimeModule p).mapError valueFailure
    return ((("classes/" ++ p.name.display ++ ".py" : String) : Name), join "\n" lines)
  let entry ← renderTemplate own options.initTemplate
    (.packageInit header (plans.map (·.name)))
  let shared : List (Name × String) :=
    [("core_defs.py", core), ("utility_functions.py", functions)]
  let gathering : List (Name × String) :=
    [("classes/__init__.py", join "\n" (classesInitLines plans)), ("__init__.py", entry)]
  return .ofList (shared ++ classes ++ gathering)

/-- The artifacts of a generation: texts under relative paths, in the order they are made. -/
def render (g : Generation) (options : RenderOptions) (own : Templates) :
    Except RenderFailure (OrderedMap Name String) := do
  let defs ← (coreDefs g options.runtimeModule (!options.singleFile)).mapError .fault
  if options.singleFile then
    let text ← renderSingleFile g options own defs
    return .ofList [(← options.singleFileName.keyed.mapError valueFailure, text)]
  else renderPackage g options own defs

end EngineBindings.Package
