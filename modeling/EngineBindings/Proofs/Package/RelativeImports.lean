import EngineBindings.Package.Render
import EngineBindings.Proofs.Package.Quiet
import EngineBindings.Proofs.Plan.Planned
import EngineBindings.Schema.Decode

/-! The relative imports of emitted modules.

Every module of a package is given with the relative imports that it carries out when it is
imported, each with the artifacts that it refers to. The lines of the module hold these imports and
no others (`listed_of_packageModules`), and the artifacts of the package are the texts of its
modules (`render_eq`). -/
namespace EngineBindings.Package

open Attempt EngineBindings.Text

/-! ### Modules of a package -/

/-- A relative import: its line, and the artifacts that it refers to. -/
structure RelativeImport where
  line : String
  paths : List String

/-- A module of an emitted package. -/
structure EmittedModule where
  path : String
  lines : List String
  /-- The relative imports that the module carries out itself. -/
  imports : List RelativeImport

/-- The text of a module. -/
def EmittedModule.text (m : EmittedModule) : String :=
  join "\n" m.lines

/-- Where the module of a class lies. -/
def classPath (name : String) : String :=
  "classes/" ++ name ++ ".py"

/-- Where the module lies that gathers the classes. -/
def gatheringPath : String :=
  "classes/__init__.py"

/-- The import of symbols of the core definitions, if there are any. -/
def coreImport (module : String) (symbols : List String) : List RelativeImport :=
  if symbols.isEmpty then [] else [⟨importLine module symbols, ["core_defs.py"]⟩]

/-- The import of a class from the module of another class. -/
def classImport (name : String) : RelativeImport :=
  ⟨importLine ("." ++ name) [name], [classPath name]⟩

/-- The module of the core definitions. -/
def coreModule (defs : CoreDefs) : EmittedModule :=
  ⟨"core_defs.py", defs.lines true ++ [""], []⟩

/-- The module of the utility functions. -/
def utilityModule (u : Utilities) : EmittedModule :=
  ⟨"utility_functions.py", u.lines true ++ [""], coreImport ".core_defs" u.coreImports⟩

/-- The imports that the module of a class carries out: core definitions and the parent. -/
def classRelatives (p : ClassPlan) : List RelativeImport :=
  coreImport "..core_defs" (symbolsFrom .core p.requires) ++
    (p.parent.map Name.display).toList.map classImport

/-- The module of a class. -/
def classModule (header runtimeModule : String) (p : ClassPlan) :
    Except ValueFault EmittedModule := do
  return ⟨classPath p.name.display, ← classModuleLines header runtimeModule p, classRelatives p⟩

/-- The module that gathers the classes. -/
def gatheringModule (plans : List ClassPlan) : EmittedModule :=
  ⟨gatheringPath, classesInitLines plans, plans.map fun p => classImport p.name.display⟩

/-- The package's entry. -/
def entryModule (header : String) (classes : List Name) : EmittedModule :=
  ⟨"__init__.py", packageInitLines header classes ++ [""],
    ⟨"from . import core_defs, utility_functions", ["core_defs.py", "utility_functions.py"]⟩ ::
      if classes.isEmpty then [] else [⟨"from .classes import (", [gatheringPath]⟩]⟩

/-- The modules of a package, in the order in which they are made, with those of its classes. -/
def allModules (g : Generation) (runtimeModule : String) (defs : CoreDefs)
    (classes : List EmittedModule) : List EmittedModule :=
  [coreModule defs, utilityModule (utilities g runtimeModule true)] ++ classes ++
    [gatheringModule (parentFirstPlans g),
      entryModule (headerComment g.registry) ((parentFirstPlans g).map (·.name))]

/-- The modules of the package of a generation. -/
def packageModules (g : Generation) (runtimeModule : String) :
    Except Fault (List EmittedModule) := do
  let defs ← coreDefs g runtimeModule true
  let classes ← ((parentFirstPlans g).mapM
    (classModule (headerComment g.registry) runtimeModule)).mapError .value
  return allModules g runtimeModule defs classes

/-- What is emitted for a generation. -/
inductive Emits (g : Generation) (runtimeModule : String) : EmittedModule → Prop
  | core {defs : CoreDefs} (h : coreDefs g runtimeModule true = .ok defs) :
      Emits g runtimeModule (coreModule defs)
  | utilities : Emits g runtimeModule (utilityModule (utilities g runtimeModule true))
  | ofClass {p : ClassPlan} {m : EmittedModule} (hp : p ∈ parentFirstPlans g)
      (h : classModule (headerComment g.registry) runtimeModule p = .ok m) :
      Emits g runtimeModule m
  | gathering : Emits g runtimeModule (gatheringModule (parentFirstPlans g))
  | entry : Emits g runtimeModule
      (entryModule (headerComment g.registry) ((parentFirstPlans g).map (·.name)))

theorem emits_of_packageModules {g : Generation} {runtimeModule : String}
    {modules : List EmittedModule} {m : EmittedModule}
    (h : packageModules g runtimeModule = .ok modules) (hm : m ∈ modules) :
    Emits g runtimeModule m := by
  obtain ⟨defs, hdefs, h⟩ := bind_eq_ok.mp h
  obtain ⟨classes, hclasses, h⟩ := bind_eq_ok.mp h
  cases h
  rcases List.mem_append.mp hm with hm | hm
  · rcases List.mem_append.mp hm with hm | hm
    · rcases List.mem_pair.mp hm with rfl | rfl
      · exact .core hdefs
      · exact .utilities
    · obtain ⟨p, hp, hplan⟩ := exists_left (mapM_eq_ok.mp (mapError_eq_ok.mp hclasses)) hm
      exact .ofClass hp hplan
  · rcases List.mem_pair.mp hm with rfl | rfl
    · exact .gathering
    · exact .entry

/-! ### The modules are the artifacts -/

/-- A text of lines with their ends is the lines and an empty one behind them, joined. -/
theorem textOf_eq (lines : List String) : textOf lines = join "\n" (lines ++ [""]) := by
  have ends (rest : List String) (line : String) :
      rest.foldl (fun done line => done ++ line ++ "\n") (line ++ "\n") =
        (rest ++ [""]).foldl (fun done line => done ++ "\n" ++ line) line := by
    induction rest generalizing line with
    | nil => simp
    | cons next rest ih => exact ih (line ++ "\n" ++ next)
  cases lines with
  | nil => rfl
  | cons line rest => simpa [textOf, join] using ends rest line

theorem renderTemplate_core (defs : CoreDefs) :
    renderTemplate [] coreTemplate (.core defs true) = .ok (coreModule defs).text := by
  rw [EmittedModule.text, coreModule, ← textOf_eq]
  rfl

theorem renderTemplate_utilities (u : Utilities) :
    renderTemplate [] utilityTemplate (.utilities u true) = .ok (utilityModule u).text := by
  rw [EmittedModule.text, utilityModule, ← textOf_eq]
  rfl

theorem renderTemplate_entry (header : String) (classes : List Name) :
    renderTemplate [] initTemplate (.packageInit header classes) =
      .ok (entryModule header classes).text := by
  rw [EmittedModule.text, entryModule, ← textOf_eq]
  rfl

theorem classModule_eq (header runtimeModule : String) (p : ClassPlan) :
    classModule header runtimeModule p = (classModuleLines header runtimeModule p).map
      fun lines => ⟨classPath p.name.display, lines, classRelatives p⟩ := by
  unfold classModule
  cases classModuleLines header runtimeModule p <;> rfl

/-- The artifacts of classes are the texts of their modules. -/
theorem mapM_classModule (header runtimeModule : String) (plans : List ClassPlan) :
    (plans.mapM fun p => do
      let lines ← (classModuleLines header runtimeModule p).mapError valueFailure
      return ((("classes/" ++ p.name.display ++ ".py" : String) : Name), join "\n" lines)) =
      ((plans.mapM (classModule header runtimeModule)).mapError valueFailure).map
        (List.map fun m => ((m.path : Name), m.text)) := by
  induction plans with
  | nil => rfl
  | cons p rest ih =>
    rw [List.mapM_cons, List.mapM_cons, ih, classModule_eq]
    cases classModuleLines header runtimeModule p with
    | error e => rfl
    | ok lines =>
      cases rest.mapM (classModule header runtimeModule) <;> rfl

theorem renderPackage_eq (g : Generation) (runtimeModule : String) (defs : CoreDefs) :
    renderPackage g { runtimeModule } [] defs =
      (((parentFirstPlans g).mapM
        (classModule (headerComment g.registry) runtimeModule)).mapError valueFailure).map
      fun classes => .ofList ((allModules g runtimeModule defs classes).map
        fun m => ((m.path : Name), m.text)) := by
  unfold renderPackage
  dsimp only
  rw [renderTemplate_core, renderTemplate_utilities, renderTemplate_entry, mapM_classModule]
  cases (parentFirstPlans g).mapM (classModule (headerComment g.registry) runtimeModule) with
  | error e => rfl
  | ok classes =>
    have artifacts : (allModules g runtimeModule defs classes).map
        (fun m => ((m.path : Name), m.text)) =
        [(("core_defs.py" : Name), (coreModule defs).text),
          ("utility_functions.py", (utilityModule (utilities g runtimeModule true)).text)] ++
        classes.map (fun m => ((m.path : Name), m.text)) ++
        [(("classes/__init__.py" : Name), join "\n" (classesInitLines (parentFirstPlans g))),
          ("__init__.py", (entryModule (headerComment g.registry)
            ((parentFirstPlans g).map (·.name))).text)] := by
      rw [allModules, List.map_append, List.map_append]
      rfl
    exact congrArg (fun entries => Except.ok (OrderedMap.ofList entries)) artifacts.symm

/-- The artifacts of a package are the texts of its modules. -/
theorem render_eq (g : Generation) (runtimeModule : String) :
    render g { runtimeModule } [] = ((packageModules g runtimeModule).mapError .fault).map
      fun modules => .ofList (modules.map fun m => ((m.path : Name), m.text)) := by
  have steps : render g { runtimeModule } [] =
      ((coreDefs g runtimeModule true).mapError RenderFailure.fault >>= fun defs =>
        renderPackage g { runtimeModule } [] defs) := rfl
  rw [steps, packageModules]
  cases coreDefs g runtimeModule true with
  | error e => rfl
  | ok defs =>
    have given : (Except.ok defs : Except Fault CoreDefs).mapError RenderFailure.fault = .ok defs :=
      rfl
    rw [given, ok_bind, ok_bind, renderPackage_eq]
    cases (parentFirstPlans g).mapM (classModule (headerComment g.registry) runtimeModule) <;> rfl

theorem render_of_packageModules {g : Generation} {runtimeModule : String}
    {modules : List EmittedModule} (h : packageModules g runtimeModule = .ok modules) :
    render g { runtimeModule } [] =
      .ok (.ofList (modules.map fun m => ((m.path : Name), m.text))) := by
  rw [render_eq, h]
  rfl

/-- A document of some sections, and sizes of builtins. -/
def documentOf (sizes : List Json) (sections : List (String × List Json)) : Json :=
  .obj (("header", .obj []) ::
    ("builtin_class_sizes",
      .arr [.obj [("build_configuration", .str "float_64"), ("sizes", .arr sizes)]]) ::
    sections.map fun s => (s.1, .arr s.2))

/-- What is planned and emitted for a document. -/
def packageOf (document : Json) : Except Fault (Registry × Generation × List EmittedModule) := do
  let r ← Registry.ofDocument "float_64" document
  let g ← r.generate {}
  return (r, g, ← packageModules g "godot.runtime")

theorem packageOf_eq_ok {document : Json} {r : Registry} {g : Generation}
    {modules : List EmittedModule} (h : packageOf document = .ok (r, g, modules)) :
    Registry.ofDocument "float_64" document = .ok r ∧ r.generate {} = .ok g ∧
      packageModules g "godot.runtime" = .ok modules := by
  obtain ⟨r', hr, h⟩ := bind_eq_ok.mp h
  obtain ⟨g', hg, h⟩ := bind_eq_ok.mp h
  obtain ⟨modules', hmodules, h⟩ := bind_eq_ok.mp h
  cases h
  exact ⟨hr, hg, hmodules⟩

/-! ### The lines hold these imports and no others -/

/-- The lines of a module that import from the package are those of its relative imports. -/
def EmittedModule.Listed (m : EmittedModule) : Prop :=
  m.lines.filter isRelative = m.imports.map (·.line)

theorem filter_of_quiet {lines : List String} (h : Quiet lines) : lines.filter isRelative = [] := by
  rw [List.filter_eq_nil_iff]
  intro line hline
  rw [h line hline]
  exact Bool.false_ne_true

theorem filter_coreImport (module : String) (symbols : List String)
    (h : startsWith module "." = true) :
    (if symbols.isEmpty then [] else [importLine module symbols]).filter isRelative =
      (coreImport module symbols).map (·.line) := by
  unfold coreImport
  split
  · rfl
  · simp [isRelative_importLine, h]

theorem filter_classImports (names : List String) :
    (names.map fun name => importLine ("." ++ name) [name]).filter isRelative =
      (names.map classImport).map (·.line) := by
  have relative (name : String) : startsWith ("." ++ name) "." = true := by
    simp [startsWith, dropPrefix?]
  rw [List.map_map, List.filter_eq_self.mpr]
  · rfl
  · intro line hline
    obtain ⟨name, _, rfl⟩ := List.mem_map.mp hline
    rw [isRelative_importLine, relative]

theorem listed_coreModule {g : Generation} {runtimeModule : String} {defs : CoreDefs}
    (hmodule : startsWith runtimeModule "." = false)
    (h : coreDefs g runtimeModule true = .ok defs) : (coreModule defs).Listed := by
  have blank : Quiet [""] := by decide
  exact filter_of_quiet (quiet_append.mpr ⟨quiet_coreDefs hmodule h, blank⟩)

theorem quiet_slotImport (symbols : List String) :
    Quiet (if symbols.isEmpty then [] else [importLine slotModule symbols]) := by
  have slots : startsWith slotModule "." = false := by decide
  split
  · exact quiet_nil
  · rw [quiet_cons, isRelative_importLine, slots]
    exact ⟨rfl, quiet_nil⟩

theorem quiet_runtimeImport {runtimeModule : String} (symbols : List String)
    (hmodule : startsWith runtimeModule "." = false) :
    Quiet [importLine runtimeModule symbols] := by
  rw [quiet_cons, isRelative_importLine, hmodule]
  exact ⟨rfl, quiet_nil⟩

/-- The module of a class imports from the package core definitions and its parent, and nothing
else. -/
theorem listed_classModule {header runtimeModule : String} {p : ClassPlan} {m : EmittedModule}
    (hheader : isRelative header = false) (hmodule : startsWith runtimeModule "." = false)
    (h : classModule header runtimeModule p = .ok m) : m.Listed := by
  rw [classModule_eq] at h
  obtain ⟨lines, hlines, rfl⟩ := map_eq_ok.mp h
  obtain ⟨body, hbody, hlines⟩ := bind_eq_ok.mp hlines
  cases hlines
  have opening : Quiet [header, "from __future__ import annotations", ""] := by
    rw [quiet_cons]
    exact ⟨hheader, by decide⟩
  have native : Quiet (if p.members.isEmpty then [] else ["import ctypes"]) := by
    split <;> decide
  have enumeration : Quiet (if p.cls.enums.isEmpty then [] else
      ["from enum import IntEnum, IntFlag"]) := by
    split <;> decide
  have typing : Quiet (if usesOptional p then ["from typing import Optional"] else []) := by
    split <;> decide
  have ending : Quiet ["", "", "__all__ = [" ++ p.name.literal ++ "]", ""] := by
    have blank : isRelative "" = false := by decide
    have names : isRelative ("__all__ = [" ++ p.name.literal ++ "]") = false :=
      isRelative_of_head (c := '_') (by decide) (by simp)
    simp [blank, names]
  have core := filter_coreImport "..core_defs" (symbolsFrom .core p.requires) (by decide)
  unfold EmittedModule.Listed
  simp only [List.filter_append, filter_of_quiet opening, filter_of_quiet native,
    filter_of_quiet enumeration, filter_of_quiet typing, filter_of_quiet (quiet_slotImport _),
    filter_of_quiet (quiet_runtimeImport _ hmodule), filter_of_quiet (quiet_classBody hbody),
    filter_of_quiet ending, core, filter_classImports, classRelatives, List.map_append]
  have blank : Quiet [""] := by decide
  have blanks : Quiet ["", ""] := by decide
  simp [filter_of_quiet blank, filter_of_quiet blanks]

/-- The handle of a planned utility function is named after it. -/
theorem handleName_of_generate {r : Registry} {flags : Flags} {g : Generation}
    (h : r.generate flags = .ok g) :
    ∀ b ∈ g.utilities, b.handleName.toList.head? = some '_' := by
  intro b hb
  obtain ⟨u, _, hbind⟩ := (Registry.generates_of_generate h).utilities b hb
  obtain ⟨exposed, _, hcall⟩ := bind_eq_ok.mp hbind
  have named : b.handleName = "_utility_" ++ u.name.display := by
    rw [Registry.planCall_eq] at hcall
    split at hcall
    · cases hcall
      rfl
    · obtain ⟨args, _, hcall⟩ := bind_eq_ok.mp hcall
      obtain ⟨ret, _, hcall⟩ := bind_eq_ok.mp hcall
      cases hcall
      rfl
  rw [named]
  exact head?_append rfl

theorem listed_utilityModule {r : Registry} {flags : Flags} {g : Generation}
    {runtimeModule : String} (hg : r.generate flags = .ok g)
    (hmodule : startsWith runtimeModule "." = false) :
    (utilityModule (utilities g runtimeModule true)).Listed := by
  have header : isRelative (utilities g runtimeModule true).header = false :=
    isRelative_headerComment g.registry
  have opening : Quiet ["\"\"\"Engine utility functions.\"\"\"", "",
      "from __future__ import annotations", "", "import ctypes"] := by decide
  have typing : Quiet (if (utilities g runtimeModule true).usesOptional then
      ["from typing import Optional"] else []) := by
    split <;> decide
  have slots : Quiet ["", importLine slotModule ["LazyBinding"]] :=
    quiet_cons.mpr ⟨by decide, quiet_slotImport ["LazyBinding"]⟩
  have core := filter_coreImport ".core_defs" (utilities g runtimeModule true).coreImports
    (by decide)
  have functions : Quiet ((utilities g runtimeModule true).functions.flatMap
      Utilities.functionLines) := by
    apply quiet_flatMap
    intro f hf
    obtain ⟨b, hb, rfl⟩ := List.mem_map.mp hf
    exact quiet_utilityLines (c := '_') (by decide) (handleName_of_generate hg b hb)
  have blank : Quiet [""] := by decide
  have head : Quiet ((utilities g runtimeModule true).header ::
      ["\"\"\"Engine utility functions.\"\"\"", "", "from __future__ import annotations", "",
        "import ctypes"]) :=
    quiet_cons.mpr ⟨header, opening⟩
  have before : Quiet ["", importLine slotModule ["LazyBinding"],
      importLine (utilities g runtimeModule true).runtimeModule
        (utilities g runtimeModule true).runtimeImports] :=
    quiet_append.mpr ⟨slots, quiet_runtimeImport _ hmodule⟩
  unfold EmittedModule.Listed
  simp only [utilityModule, Utilities.lines, Utilities.headLines, if_true, List.filter_append,
    filter_of_quiet head, filter_of_quiet typing, filter_of_quiet before, core,
    filter_of_quiet functions, filter_of_quiet blank, List.nil_append, List.append_nil]

theorem listed_gatheringModule (plans : List ClassPlan) : (gatheringModule plans).Listed := by
  have opening : Quiet ["\"\"\"Generated engine classes, parent classes first.\"\"\"", ""] := by
    decide
  have names : Quiet (plans.map fun p => "    " ++ p.name.literal ++ ",") := by
    apply quiet_map
    intro p _
    exact isRelative_of_head (c := ' ') (by decide) (by simp)
  have between : Quiet ["", "__all__ = ["] := by decide
  have ending : Quiet ["]", ""] := by decide
  have classes := filter_classImports (plans.map fun p => p.name.display)
  simp only [List.map_map, Function.comp_def] at classes
  unfold EmittedModule.Listed gatheringModule classesInitLines
  simp only [List.filter_append, filter_of_quiet opening, filter_of_quiet names,
    filter_of_quiet between, filter_of_quiet ending, List.nil_append, List.append_nil,
    List.map_map, Function.comp_def, classes]

theorem listed_entryModule {header : String} (hheader : isRelative header = false)
    (classes : List Name) : (entryModule header classes).Listed := by
  have shared : isRelative "from . import core_defs, utility_functions" = true := by decide
  have opening : [header, "\"\"\"Generated engine bindings.\"\"\"", "",
      "from . import core_defs, utility_functions"].filter isRelative =
      ["from . import core_defs, utility_functions"] := by
    have doc : isRelative "\"\"\"Generated engine bindings.\"\"\"" = false := by decide
    have blank : isRelative "" = false := by decide
    simp [hheader, doc, blank, shared]
  have gathered : (if classes.isEmpty then [] else "from .classes import (" ::
      (classes.map fun name => "    " ++ name.display ++ ",") ++ [")"]).filter isRelative =
      if classes.isEmpty then [] else ["from .classes import ("] := by
    have names : Quiet ((classes.map fun name => "    " ++ name.display ++ ",") ++ [")"]) := by
      refine quiet_append.mpr ⟨quiet_map fun name _ => ?_, by decide⟩
      exact isRelative_of_head (c := ' ') (by decide) (by simp)
    split
    · rfl
    · rw [List.cons_append, List.filter_cons_of_pos (by decide), filter_of_quiet names]
  have middle : Quiet ["", "__all__ = [", "    \"core_defs\",", "    \"utility_functions\","] := by
    decide
  have literals : Quiet (classes.map fun name => "    " ++ name.literal ++ ",") := by
    apply quiet_map
    intro name _
    exact isRelative_of_head (c := ' ') (by decide) (by simp)
  have ending : Quiet ["]"] := by decide
  have last : Quiet [""] := by decide
  unfold EmittedModule.Listed entryModule packageInitLines
  simp only [List.filter_append, opening, gathered, filter_of_quiet middle,
    filter_of_quiet literals, filter_of_quiet ending, filter_of_quiet last, List.append_nil]
  split <;> rfl

/-- Whatever module of a package is taken, the lines in it that import from the package are those
of its relative imports. -/
theorem listed_of_packageModules {r : Registry} {flags : Flags} {g : Generation}
    {runtimeModule : String} {modules : List EmittedModule} (hg : r.generate flags = .ok g)
    (hmodule : startsWith runtimeModule "." = false)
    (h : packageModules g runtimeModule = .ok modules) : ∀ m ∈ modules, m.Listed := by
  have header := isRelative_headerComment g.registry
  intro m hm
  cases emits_of_packageModules h hm with
  | core hdefs => exact listed_coreModule hmodule hdefs
  | utilities => exact listed_utilityModule hg hmodule
  | ofClass _ hp => exact listed_classModule header hmodule hp
  | gathering => exact listed_gatheringModule _
  | entry => exact listed_entryModule header _

end EngineBindings.Package
