import EngineBindings.Package.ClassModule
import EngineBindings.Proofs.Attempt

/-! The module of a class as data.

A class's module is imports, a class statement of blocks, proxies and a dispatch table. Here each
part is kept together with the names that it binds, and `classModuleLines_eq` says that the
emitted lines are the lines of these parts, so that what a name means in the module can be read
off them. -/
namespace EngineBindings.Package

open Attempt EngineBindings.Code EngineBindings.Text

/-! ### Parts of a module -/

/-- An import at the head of a module. -/
inductive Import where
  | whole (module : String)
  | symbols (module : String) (names : List String)

namespace Import

/-- The line of an import. -/
def line : Import → String
  | whole module => "import " ++ module
  | symbols module names => importLine module names

/-- The names that an import binds. -/
def names : Import → List String
  | whole module => [module]
  | symbols _ names => names

end Import

/-- Lines inside a class statement, with the names that they bind there. -/
structure Block where
  names : List String
  lines : List String

/-- The module of a class. -/
structure ClassCode where
  name : Name
  parent : Option Name
  /-- Imports of the language's own modules. -/
  standard : List Import
  /-- Imports of the modules that emitted code runs on, and of the parent. -/
  project : List Import
  /-- The class statement without the dispatcher. -/
  blocks : List Block
  /-- The proxies behind the class statement. -/
  proxies : List Trampoline
  /-- The dispatch table behind the proxies, if the class dispatches anything. -/
  table : Option DispatchTable

namespace ClassCode

/-- Where the members of a class's module stand. -/
def site (c : ClassCode) : Site :=
  ⟨true, ".", c.name :: c.parent.toList⟩

/-- The lines from the class's head to the end of its module. -/
def body (c : ClassCode) : List String :=
  dropTrailingEmpty
    (["class " ++ c.name.display ++ "(" ++ (c.parent.map Name.display).getD "Wrapped" ++ "):",
      "    \"\"\"Engine class " ++ c.name.display ++ ".\"\"\"", ""] ++
      c.blocks.flatMap (·.lines) ++ c.table.toList.flatMap dispatcherLines) ++
    c.proxies.flatMap (proxyLines c.site) ++ c.table.toList.flatMap tableLines

/-- The lines of a module. -/
def lines (c : ClassCode) (header : String) : List String :=
  [header, "from __future__ import annotations", ""] ++ c.standard.map Import.line ++ [""] ++
    c.project.map Import.line ++ ["", ""] ++ c.body ++
    ["", "", "__all__ = [" ++ c.name.literal ++ "]", ""]

end ClassCode

/-! ### The parts of a planned class -/

/-- The block of an enumeration. -/
def enumBlock (e : EnumDef) : Except ValueFault Block := do
  let host ← e.name.sanitize
  return ⟨[host], indent 4 (← enumDecl e host).lines ++ [""]⟩

/-- The block of a constant. -/
def constantBlock (c : ConstantDef) : Except ValueFault Block := do
  let name ← c.name.sanitize
  return ⟨[name], ["    " ++ name ++ " = " ++ Number.decimal c.value]⟩

/-- A group of lines, with an empty line behind it unless the group is empty. -/
def groupBlocks (blocks : List Block) : List Block :=
  if blocks.isEmpty then [] else blocks ++ [⟨[], [""]⟩]

/-- The block of a bound method's handle. -/
def handleBlock (b : MethodBinding) : Block :=
  ⟨[b.handleName], [handleLine b.handleName (handleKey b.owner b.method.name b.method.hash)
    "classdb_method_bind"]⟩

/-- The block of a property. -/
def propertyBlock (site : Site) (a : PropertyAccessor) : Block :=
  ⟨[a.exposedName], propertyLines site a⟩

/-- The block of a member. -/
def memberBlock (site : Site) (x : Member) : Block :=
  ⟨[match x with
    | .bound b => b.exposedName
    | .overridable t => t.exposedName], memberLines site x⟩

/-- The blocks of a class statement. -/
def classBlocks (p : ClassPlan) (site : Site) : Except ValueFault (List Block) := do
  let enums ← p.cls.enums.mapM enumBlock
  let constants ← p.cls.constants.mapM constantBlock
  return [⟨["class_name"], ["    class_name = " ++ p.name.literal, ""]⟩] ++ enums ++
    groupBlocks constants ++ groupBlocks (p.bindings.map handleBlock) ++
    p.properties.map (propertyBlock site) ++ p.members.map (memberBlock site)

/-- The imports of the language's own modules that a class needs. -/
def standardImports (p : ClassPlan) : List Import :=
  (if p.members.isEmpty then [] else [.whole "ctypes"]) ++
    (if p.cls.enums.isEmpty then [] else [.symbols "enum" ["IntEnum", "IntFlag"]]) ++
    (if usesOptional p then [.symbols "typing" ["Optional"]] else [])

/-- The other imports that a class needs. -/
def projectImports (runtimeModule : String) (p : ClassPlan) : List Import :=
  let slots := slotSymbols p
  let core := symbolsFrom .core p.requires
  (if slots.isEmpty then [] else [.symbols slotModule slots]) ++
    [.symbols runtimeModule (runtimeSymbols (classRuntimeBase p) p.requires)] ++
    (if core.isEmpty then [] else [.symbols "..core_defs" core]) ++
    (p.parent.map Name.display).toList.map fun parent => .symbols ("." ++ parent) [parent]

/-- The module of a planned class. -/
def classCode (runtimeModule : String) (p : ClassPlan) : Except ValueFault ClassCode := do
  let blocks ← classBlocks p ⟨true, ".", p.name :: p.parent.toList⟩
  return {
    blocks
    name := p.name
    parent := p.parent
    standard := standardImports p
    project := projectImports runtimeModule p
    proxies := if hasTable p then p.virtuals else []
    table := if hasTable p then some p.dispatch else none }

/-! ### The emitted lines are the lines of the parts -/

theorem lines_enumBlock (e : EnumDef) : (enumBlock e).map (·.lines) = classEnumLines e := by
  unfold enumBlock classEnumLines
  cases e.name.sanitize with
  | error e => rfl
  | ok host =>
    rw [ok_bind, ok_bind]
    cases enumDecl e host <;> rfl

theorem lines_constantBlock (c : ConstantDef) :
    (constantBlock c).map (·.lines) = (constantLine c).map ([·]) := by
  unfold constantBlock constantLine
  cases c.name.sanitize <;> rfl

theorem flatMap_lines_groupBlocks (blocks : List Block) :
    (groupBlocks blocks).flatMap (·.lines) =
      if blocks.isEmpty then [] else blocks.flatMap (·.lines) ++ [""] := by
  unfold groupBlocks
  split
  · rfl
  · rw [List.flatMap_append]
    rfl

theorem mapM_classEnumLines (enums : List EnumDef) :
    enums.mapM classEnumLines = (enums.mapM enumBlock).map (List.map (·.lines)) := by
  rw [map_mapM]
  exact mapM_congr fun e _ => (lines_enumBlock e).symm

theorem mapM_constantLine (constants : List ConstantDef) :
    (constants.mapM constantBlock).map (List.map (·.lines)) =
      (constants.mapM constantLine).map (List.map ([·])) := by
  rw [map_mapM, map_mapM]
  exact mapM_congr fun c _ => lines_constantBlock c

/-- The lines of constants are those of their blocks. -/
theorem flatMap_lines_of_constants {blocks : List Block} {lines : List String}
    (h : blocks.map (·.lines) = lines.map ([·])) :
    (groupBlocks blocks).flatMap (·.lines) = if lines.isEmpty then [] else lines ++ [""] := by
  have hempty : blocks.isEmpty = lines.isEmpty := by
    have hlength := congrArg List.length h
    rw [List.length_map, List.length_map] at hlength
    rw [Bool.eq_iff_iff, List.isEmpty_iff_length_eq_zero, List.isEmpty_iff_length_eq_zero, hlength]
  have hlines : blocks.flatMap (·.lines) = lines := by
    rw [List.flatMap_def, h, ← List.flatMap_def]
    exact List.flatMap_singleton' lines
  rw [flatMap_lines_groupBlocks, hempty, hlines]

theorem classStatement_eq (p : ClassPlan) (base : String) (site : Site) :
    classStatement p base site = (classBlocks p site).map fun blocks =>
      dropTrailingEmpty
        (["class " ++ p.name.display ++ "(" ++ base ++ "):",
          "    \"\"\"Engine class " ++ p.name.display ++ ".\"\"\"", ""] ++
          blocks.flatMap (·.lines) ++ if hasTable p then dispatcherLines p.dispatch else []) := by
  unfold classStatement classHead classBlocks
  rw [mapM_classEnumLines]
  have hconstants := mapM_constantLine p.cls.constants
  cases p.cls.enums.mapM enumBlock with
  | error e => rfl
  | ok enums =>
    cases hb : p.cls.constants.mapM constantBlock with
    | error e =>
      cases hl : p.cls.constants.mapM constantLine with
      | error e' =>
        rw [hb, hl] at hconstants
        cases hconstants
        rfl
      | ok lines =>
        rw [hb, hl] at hconstants
        cases hconstants
    | ok blocks =>
      cases hl : p.cls.constants.mapM constantLine with
      | error e' =>
        rw [hb, hl] at hconstants
        cases hconstants
      | ok lines =>
        rw [hb, hl] at hconstants
        have hlines := flatMap_lines_of_constants (Except.ok.inj hconstants)
        show Except.ok (dropTrailingEmpty _) = Except.ok (dropTrailingEmpty _)
        congr 2
        have handles : (p.bindings.map handleBlock).flatMap (·.lines) =
            p.bindings.map fun b => handleLine b.handleName
              (handleKey b.owner b.method.name b.method.hash) "classdb_method_bind" := by
          rw [List.flatMap_map, List.map_eq_flatMap]
          rfl
        simp only [List.flatMap_append, List.flatMap_cons, hlines, flatMap_lines_groupBlocks,
          handles, List.isEmpty_map, List.flatMap_map, List.append_assoc, List.cons_append,
          List.nil_append]
        rfl

theorem map_line_ite {condition : Prop} [Decidable condition] (i : Import) :
    (if condition then [] else [i]).map Import.line = if condition then [] else [i.line] := by
  split <;> rfl

theorem map_line_standardImports (p : ClassPlan) :
    (standardImports p).map Import.line =
      (if p.members.isEmpty then [] else ["import ctypes"]) ++
        (if p.cls.enums.isEmpty then [] else ["from enum import IntEnum, IntFlag"]) ++
        (if usesOptional p then ["from typing import Optional"] else []) := by
  rw [standardImports, List.map_append, List.map_append, map_line_ite, map_line_ite]
  cases usesOptional p <;> rfl

theorem map_line_projectImports (runtimeModule : String) (p : ClassPlan) :
    (projectImports runtimeModule p).map Import.line =
      (if (slotSymbols p).isEmpty then [] else [importLine slotModule (slotSymbols p)]) ++
        [importLine runtimeModule (runtimeSymbols (classRuntimeBase p) p.requires)] ++
        (if (symbolsFrom .core p.requires).isEmpty then []
         else [importLine "..core_defs" (symbolsFrom .core p.requires)]) ++
        (p.parent.map Name.display).toList.map fun parent =>
          importLine ("." ++ parent) [parent] := by
  rw [projectImports, List.map_append, List.map_append, List.map_append, map_line_ite,
    map_line_ite, List.map_map]
  rfl

/-- The lines of a class's module are the lines of the module's parts. -/
theorem classModuleLines_eq (header runtimeModule : String) (p : ClassPlan) :
    classModuleLines header runtimeModule p =
      (classCode runtimeModule p).map (·.lines header) := by
  unfold classModuleLines classBody classCode
  dsimp only
  rw [classStatement_eq]
  cases classBlocks p ⟨true, ".", p.name :: p.parent.toList⟩ with
  | error e => rfl
  | ok blocks =>
    show Except.ok _ = Except.ok _
    congr 1
    dsimp only [ClassCode.lines, ClassCode.body, ClassCode.site]
    rw [map_line_standardImports, map_line_projectImports]
    cases hasTable p with
    | true => simp [List.append_assoc]
    | false => simp [List.append_assoc]

end EngineBindings.Package
