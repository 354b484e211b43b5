import EngineBindings.Proofs.Code.Reads
import EngineBindings.Proofs.Package.Dispatching
import EngineBindings.Proofs.Package.LocalImports
import EngineBindings.Proofs.Plan.BoundReads
import EngineBindings.Proofs.Plan.PropertyReads
import EngineBindings.Proofs.Plan.ProxyReads

/-! The code of a class module, passage by passage.

A module is its class statement, the proxies and the dispatch table, and each of these is made of
passages: lines that stand together, with the names that they read, the names that they have of
their own and the classes that they import. `body_eq_passages` says that the emitted lines are
those of the passages, so that nothing that is read is left out. Annotations are never evaluated
and do not count. -/
namespace EngineBindings.Package

open Attempt EngineBindings.Code EngineBindings.Text

/-- Lines that stand together, with what they read. -/
structure Passage where
  lines : List String
  /-- The names that are read, as they are written. -/
  reads : List String
  /-- The names that mean something only here: parameters and variables of a function, or what the
  class statement has just defined. -/
  own : List String
  /-- The classes that are imported here. -/
  imports : List String
  /-- Whether the lines stand inside the class statement. -/
  inside : Bool

namespace Passage

/-- Lines of the class statement that are not in a function. -/
def plain (lines reads : List String) : Passage :=
  ⟨lines, reads, [], [], true⟩

/-- Lines behind the class statement that are not in a function. -/
def outside (lines reads : List String) : Passage :=
  ⟨lines, reads, [], [], false⟩

end Passage

/-! ### Functions -/

/-- The classes that a function of a class's module imports: the required ones, without the class
itself and its parent. -/
def importedClasses (p : ClassPlan) (requires : List Requirement) : List String :=
  (symbolsFrom .class requires).filter fun (name : String) => !(classSite p).skip.contains name

/-- The imports of classes from the modules beside this one. -/
def importLines (classes : List String) : List String :=
  classes.map fun name => importLine ("." ++ name) [name]

theorem imports_classSite (p : ClassPlan) (requires : List Requirement) :
    (classSite p).imports requires = importLines (importedClasses p requires) :=
  rfl

/-- A function of the class statement. -/
def functionPassage (p : ClassPlan) (name parameters result : String) (own : List String)
    (requires : List Requirement) (body : List Stmt) : Passage where
  lines := functionLines name parameters result
    (importLines (importedClasses p requires) ++ linesOf body) ++ [""]
  reads := readsOf body
  own := own ++ bindsOf body
  imports := importedClasses p requires
  inside := true

/-! ### The class statement -/

/-- An enumeration of the class. -/
def classEnum (e : EnumDef) : Except ValueFault EnumDecl := do
  enumDecl e (← e.name.sanitize)

/-- The first line of the class statement; the base is read outside of it. -/
def headPassage (p : ClassPlan) : Passage :=
  let base := (p.parent.map Name.display).getD "Wrapped"
  .outside
    ["class " ++ p.name.display ++ "(" ++ base ++ "):",
      "    \"\"\"Engine class " ++ p.name.display ++ ".\"\"\"", ""]
    [root base]

/-- The class's name, its enumerations and its constants. -/
def attributePassages (p : ClassPlan) (enums : List EnumDecl) (constants : List Block) :
    List Passage :=
  [.plain ["    class_name = " ++ p.name.literal, ""] [],
   .plain (enums.flatMap fun e => indent 4 e.lines ++ [""]) (enums.map (·.base)),
   .plain ((groupBlocks constants).flatMap (·.lines)) []]

/-- The handles of the bound methods. -/
def handlePassage (p : ClassPlan) : Passage :=
  .plain ((groupBlocks (p.bindings.map handleBlock)).flatMap (·.lines))
    (p.bindings.flatMap fun _ => ["LazyBinding", "classdb_method_bind"])

/-- A property: its getter, and its setter behind a decorator of the getter. -/
def propertyPassages (p : ClassPlan) (a : PropertyAccessor) : List Passage :=
  let annotation := a.target.annotation
  [.plain ["    @property"] ["property"],
   functionPassage p a.exposedName "self" annotation ["self"] a.requires a.getterBody,
   { Passage.plain ["    @" ++ a.exposedName ++ ".setter"] [a.exposedName] with
     own := [a.exposedName] },
   functionPassage p a.exposedName ("self, value: " ++ annotation) "None" ["self", "value"]
     a.requires a.setterBody]

/-- A member of either kind. One that is overridable imports nothing where it returns nothing. -/
def memberPassages (p : ClassPlan) : Member → List Passage
  | .bound b =>
    (if b.method.isStatic then [.plain ["    @staticmethod"] ["staticmethod"]] else []) ++
      [functionPassage p b.exposedName b.parameterList b.returnAnnotation b.parameters b.requires
        b.body]
  | .overridable t =>
    [functionPassage p t.exposedName t.parameterList t.returnAnnotation t.parameters
      (if t.default.isSome then t.requires else []) t.baseBody]

/-- The dispatcher. -/
def dispatcherPassage (t : DispatchTable) : Passage where
  lines := dispatcherLines t
  reads := ["classmethod", root t.tableName, "str", "name", "proxy", "super"]
  own := ["cls", "name", "proxy"]
  imports := []
  inside := true

/-- The class statement. -/
def suitePassages (p : ClassPlan) : Except ValueFault (List Passage) := do
  let enums ← p.cls.enums.mapM classEnum
  let constants ← p.cls.constants.mapM constantBlock
  return headPassage p :: attributePassages p enums constants ++ [handlePassage p] ++
    p.properties.flatMap (propertyPassages p) ++ p.members.flatMap (memberPassages p) ++
    if hasTable p then [dispatcherPassage p.dispatch] else []

/-! ### Behind the class statement -/

/-- A proxy. -/
def proxyPassage (p : ClassPlan) (t : Trampoline) : Passage where
  lines := ["", "", t.proxyHead] ++ indent 4 (importLines (importedClasses p t.requires)) ++
    t.proxyLines.drop 1
  reads := readsOf t.proxyBody
  own := Trampoline.proxyParameters ++ bindsOf t.proxyBody
  imports := importedClasses p t.requires
  inside := false

/-- The dispatch table. -/
def tablePassage (t : DispatchTable) : Passage :=
  .outside (tableLines t) (t.entries.entries.map fun entry => root entry.2.proxyName)

/-- The proxies and the dispatch table, if the class dispatches anything. -/
def behindPassages (p : ClassPlan) : List Passage :=
  if hasTable p then p.virtuals.map (proxyPassage p) ++ [tablePassage p.dispatch] else []

/-! ### The emitted lines are the lines of the passages -/

theorem flatMap_lines_propertyPassages (p : ClassPlan) (a : PropertyAccessor) :
    (propertyPassages p a).flatMap (·.lines) = propertyLines (classSite p) a := by
  simp [propertyPassages, propertyLines, functionPassage, Passage.plain, imports_classSite]

theorem imports_ite (site : Site) {condition : Prop} [Decidable condition]
    (requires : List Requirement) :
    site.imports (if condition then requires else []) =
      if condition then site.imports requires else [] := by
  split
  · rfl
  · have none : classImports site.package site.skip [] = [] := by
      simp [classImports, symbolsFrom, sortDistinct, sortTexts]
    rw [Site.imports, none, ite_self]

theorem flatMap_lines_memberPassages (p : ClassPlan) (x : Member) :
    (memberPassages p x).flatMap (·.lines) = memberLines (classSite p) x := by
  cases x with
  | bound b =>
    rw [memberPassages, memberLines, bindingLines, MethodBinding.bodyLines, List.flatMap_append]
    cases b.method.isStatic <;> simp [functionPassage, Passage.plain, imports_classSite]
  | overridable t =>
    rw [memberPassages, memberLines, virtualLines, List.flatMap_singleton, functionPassage,
      ← imports_classSite, imports_ite]

theorem lines_proxyPassage (p : ClassPlan) (t : Trampoline) :
    (proxyPassage p t).lines = proxyLines (classSite p) t :=
  rfl

/-- The blocks of enumerations are those of their declarations. -/
theorem exists_classEnums {enums : List EnumDef} {blocks : List Block}
    (h : enums.mapM enumBlock = .ok blocks) : ∃ decls, enums.mapM classEnum = .ok decls ∧
      blocks.flatMap (·.lines) = decls.flatMap fun e => indent 4 e.lines ++ [""] := by
  have lines (e : EnumDef) : (enumBlock e).map (·.lines) =
      (classEnum e).map fun e => indent 4 e.lines ++ [""] := by
    unfold enumBlock classEnum
    cases e.name.sanitize with
    | error e => rfl
    | ok host =>
      rw [ok_bind, ok_bind]
      cases enumDecl e host <;> rfl
  have same := mapM_congr fun e (_ : e ∈ enums) => lines e
  rw [← map_mapM, ← map_mapM, h] at same
  obtain ⟨decls, hdecls, hlines⟩ := map_eq_ok.mp same.symm
  refine ⟨decls, hdecls, ?_⟩
  rw [List.flatMap_def, ← hlines, List.flatMap_def]

/-- The lines of a class's module are the lines of its passages. -/
theorem body_eq_passages {runtimeModule : String} {p : ClassPlan} {code : ClassCode}
    (h : classCode runtimeModule p = .ok code) :
    ∃ suite, suitePassages p = .ok suite ∧
      code.body = dropTrailingEmpty (suite.flatMap (·.lines)) ++
        (behindPassages p).flatMap (·.lines) := by
  obtain ⟨blocks, hblocks, h⟩ := bind_eq_ok.mp h
  obtain ⟨enumBlocks, hblocks', hblocks⟩ := bind_eq_ok.mp hblocks
  obtain ⟨constants, hconstants, hblocks⟩ := bind_eq_ok.mp hblocks
  obtain ⟨enums, henums, enumLines⟩ := exists_classEnums hblocks'
  cases h
  cases hblocks
  refine ⟨_, by rw [suitePassages, henums, hconstants]; rfl, ?_⟩
  have properties : p.properties.flatMap (fun a => (propertyPassages p a).flatMap (·.lines)) =
      p.properties.flatMap (propertyLines (classSite p)) :=
    congrArg (List.flatMap · _) (funext (flatMap_lines_propertyPassages p))
  have members : p.members.flatMap (fun x => (memberPassages p x).flatMap (·.lines)) =
      p.members.flatMap (memberLines (classSite p)) :=
    congrArg (List.flatMap · _) (funext (flatMap_lines_memberPassages p))
  have site : (⟨true, ".", p.name :: p.parent.toList⟩ : Site) = classSite p := rfl
  unfold ClassCode.body behindPassages
  dsimp only [ClassCode.site]
  cases hasTable p <;>
    simp [headPassage, attributePassages, handlePassage, Passage.plain, Passage.outside,
      List.flatMap_assoc, site, enumLines, properties, members, propertyBlock, memberBlock,
      dispatcherPassage, lines_proxyPassage, tablePassage, List.flatMap_map]

end EngineBindings.Package
