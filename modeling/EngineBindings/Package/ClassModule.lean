import EngineBindings.Package.Members

/-! Modules of engine classes.

A class statement holds the class's name, its enumerations and constants, the handles of its
bound methods, its properties and its members. Behind it stand the proxies of its virtual
methods and the table that dispatches to them. -/
namespace EngineBindings.Package

open EngineBindings.Code EngineBindings.Text

/-! ### The class statement -/

/-- An enumeration inside a class. -/
def classEnumLines (e : EnumDef) : Except ValueFault (List String) := do
  return indent 4 (← enumDecl e (← e.name.sanitize)).lines ++ [""]

/-- A constant of a class. -/
def constantLine (c : ConstantDef) : Except ValueFault String := do
  return "    " ++ (← c.name.sanitize) ++ " = " ++ Number.decimal c.value

/-- The lines from the class's head to its handles. -/
def classHead (p : ClassPlan) (base : String) : Except ValueFault (List String) := do
  let enums ← p.cls.enums.mapM classEnumLines
  let constants ← p.cls.constants.mapM constantLine
  return ["class " ++ p.name.display ++ "(" ++ base ++ "):",
   "    \"\"\"Engine class " ++ p.name.display ++ ".\"\"\"", "",
   "    class_name = " ++ p.name.literal, ""] ++ enums.flatten ++
    (if constants.isEmpty then [] else constants ++ [""]) ++
    (if p.bindings.isEmpty then []
     else
      (p.bindings.map fun b =>
        handleLine b.handleName (handleKey b.owner b.method.name b.method.hash)
          "classdb_method_bind") ++ [""])

/-- The method by which the engine asks a class for a proxy. -/
def dispatcherLines (t : DispatchTable) : List String :=
  ["    @classmethod",
   "    def get_virtual_dispatcher(cls, name):",
   "        proxy = " ++ t.tableName ++ ".get(str(name))",
   "        if proxy is not None:",
   "            return proxy",
   "        return super().get_virtual_dispatcher(name)",
   ""]

/-- Whether a class has proxies of its own. -/
def hasTable (p : ClassPlan) : Bool :=
  !p.dispatch.entries.entries.isEmpty

/-- The class statement. -/
def classStatement (p : ClassPlan) (base : String) (site : Site) :
    Except ValueFault (List String) := do
  let head ← classHead p base
  return dropTrailingEmpty
    (head ++ p.properties.flatMap (propertyLines site) ++ p.members.flatMap (memberLines site) ++
      if hasTable p then dispatcherLines p.dispatch else [])

/-! ### Proxies and dispatch -/

/-- A proxy behind the class statement. -/
def proxyLines (site : Site) (t : Trampoline) : List String :=
  ["", "", t.proxyHead] ++ indent 4 (site.imports t.requires) ++ t.proxyLines.drop 1

/-- The dispatch table behind the proxies. -/
def tableLines (t : DispatchTable) : List String :=
  ["", "", t.tableName ++ " = \x7b"] ++
    (t.entries.entries.map fun entry =>
      "    " ++ entry.1.literal ++ ": " ++ entry.2.proxyName ++ ",") ++ ["\x7d"]

/-- The class statement, its proxies and its dispatch table. -/
def classBody (p : ClassPlan) (inPackage : Bool) : Except ValueFault (List String) := do
  let site : Site := ⟨inPackage, ".", p.name :: p.parent.toList⟩
  let base := (p.parent.map Name.display).getD "Wrapped"
  return (← classStatement p base site) ++
    if hasTable p then p.virtuals.flatMap (proxyLines site) ++ tableLines p.dispatch else []

/-! ### The module -/

/-- The symbols of the slot interface that a class uses. -/
def slotSymbols (p : ClassPlan) : List String :=
  let proxy (t : Trampoline) : List String :=
    let text := join "\n" t.proxyLines
    (if t.args.isEmpty then [] else ["slot_addresses"]) ++
      ["SlotBuffer", "POINTER_SIZE"].filter (contains text ·)
  sortDistinct ((if p.bindings.isEmpty then [] else ["LazyBinding"]) ++ p.virtuals.flatMap proxy)

/-- Whether an optional type occurs in the class. -/
def usesOptional (p : ClassPlan) : Bool :=
  p.members.any (fun m => mentionsOptional m.parameterList m.returnAnnotation) ||
    p.properties.any fun a => contains a.target.annotation "Optional["

/-- The runtime symbols that a class uses whatever its members require. -/
def classRuntimeBase (p : ClassPlan) : List String :=
  "gi" :: (if p.parent.isNone then ["Wrapped"] else []) ++
    (if p.bindings.isEmpty then [] else ["classdb_method_bind"]) ++
    (if p.virtuals.isEmpty then [] else ["instance_from_handle"])

/-- The lines of a class's module. -/
def classModuleLines (header runtimeModule : String) (p : ClassPlan) :
    Except ValueFault (List String) := do
  let slots := slotSymbols p
  let core := symbolsFrom .core p.requires
  let body ← classBody p true
  return [header, "from __future__ import annotations", ""] ++
    (if p.members.isEmpty then [] else ["import ctypes"]) ++
    (if p.cls.enums.isEmpty then [] else ["from enum import IntEnum, IntFlag"]) ++
    (if usesOptional p then ["from typing import Optional"] else []) ++
    [""] ++
    (if slots.isEmpty then [] else [importLine slotModule slots]) ++
    [importLine runtimeModule (runtimeSymbols (classRuntimeBase p) p.requires)] ++
    (if core.isEmpty then [] else [importLine "..core_defs" core]) ++
    ((p.parent.map Name.display).toList.map fun parent => importLine ("." ++ parent) [parent]) ++
    ["", ""] ++ body ++ ["", "", "__all__ = [" ++ p.name.literal ++ "]", ""]

/-- The module that gathers every class, parents first. -/
def classesInitLines (plans : List ClassPlan) : List String :=
  ["\"\"\"Generated engine classes, parent classes first.\"\"\"", ""] ++
    (plans.map fun p => importLine ("." ++ p.name.display) [p.name.display]) ++
    ["", "__all__ = ["] ++ (plans.map fun p => "    " ++ p.name.literal ++ ",") ++ ["]", ""]

end EngineBindings.Package
