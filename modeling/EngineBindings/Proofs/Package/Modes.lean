import EngineBindings.Proofs.Package.LocalImports
import EngineBindings.Proofs.Package.ResolvedImports
import EngineBindings.Proofs.Package.SingleModule

/-! The two output modes.

A package and a single module are rendered from the same parts (`Parts.ofGeneration`): the core
definitions, the bodies of the classes with their parents first, the utility functions. A package
spreads them over its modules; a single module has them one behind the other, without the imports
of classes inside functions. So neither mode can fail alone, and where both return they agree
(`modes_agree`). -/
namespace EngineBindings.Package

open Attempt EngineBindings.Text

/-! ### The parts of both modes -/

/-- What is rendered of a generation in either mode. -/
structure Parts where
  core : CoreDefs
  /-- The classes with the lines of their bodies. -/
  classes : List (ClassPlan × List String)
  functions : Utilities

namespace Parts

/-- The parts of a generation, with the imports that a package needs. -/
def ofGeneration (g : Generation) (runtimeModule : String) : Except Fault Parts := do
  let core ← coreDefs g runtimeModule true
  let classes ← ((parentFirstPlans g).mapM fun p => return (p, ← classBody p true)).mapError .value
  return ⟨core, classes, utilities g runtimeModule true⟩

/-- The parts without imports of classes. -/
def withoutImports (s : Parts) : Parts :=
  { core := s.core.withoutImports
    classes := s.classes.map fun c => (c.1, Package.withoutImports c.2)
    functions := s.functions.withoutImports }

end Parts

/-- The lines of a class's module before its body. -/
def classTop (header runtimeModule : String) (p : ClassPlan) : List String :=
  let slots := slotSymbols p
  let core := symbolsFrom .core p.requires
  [header, "from __future__ import annotations", ""] ++
    (if p.members.isEmpty then [] else ["import ctypes"]) ++
    (if p.cls.enums.isEmpty then [] else ["from enum import IntEnum, IntFlag"]) ++
    (if usesOptional p then ["from typing import Optional"] else []) ++
    [""] ++
    (if slots.isEmpty then [] else [importLine slotModule slots]) ++
    [importLine runtimeModule (runtimeSymbols (classRuntimeBase p) p.requires)] ++
    (if core.isEmpty then [] else [importLine "..core_defs" core]) ++
    ((p.parent.map Name.display).toList.map fun parent => importLine ("." ++ parent) [parent]) ++
    ["", ""]

/-- The lines of a class's module behind its body. -/
def classBottom (p : ClassPlan) : List String :=
  ["", "", "__all__ = [" ++ p.name.literal ++ "]", ""]

/-- The module of a class with a given body. -/
def moduleWith (header runtimeModule : String) (c : ClassPlan × List String) : EmittedModule :=
  ⟨classPath c.1.name.display, classTop header runtimeModule c.1 ++ c.2 ++ classBottom c.1,
    classRelatives c.1⟩

/-- The runtime symbols that a single module imports. -/
def singleSymbols (g : Generation) : List String :=
  runtimeSymbols
    ["gi", "Wrapped", "classdb_method_bind", "instance_from_handle", "utility_function_bind",
     "builtin_method_bind", "variant_constructor", "variant_operator_evaluator"]
    (allRequirements g)

/-- The options of a single module under a given path. -/
def singleFile (runtimeModule name : String) : RenderOptions :=
  { runtimeModule, singleFile := true, singleFileName := name }

/-! ### Both modes are rendered from the parts -/

theorem classModule_eq_map (header runtimeModule : String) (p : ClassPlan) :
    classModule header runtimeModule p =
      (classBody p true).map fun body => moduleWith header runtimeModule (p, body) := by
  rw [classModule_eq]
  unfold classModuleLines
  dsimp only
  cases classBody p true <;> rfl

theorem packageModules_eq (g : Generation) (runtimeModule : String) :
    packageModules g runtimeModule = (Parts.ofGeneration g runtimeModule).map fun s =>
      allModules g runtimeModule s.core
        (s.classes.map (moduleWith (headerComment g.registry) runtimeModule)) := by
  have modules : (parentFirstPlans g).mapM (classModule (headerComment g.registry) runtimeModule) =
      ((parentFirstPlans g).mapM fun p => return (p, ← classBody p true)).map
        (List.map (moduleWith (headerComment g.registry) runtimeModule)) := by
    rw [map_mapM]
    refine mapM_congr fun p _ => ?_
    rw [classModule_eq_map]
    cases classBody p true <;> rfl
  unfold packageModules Parts.ofGeneration
  rw [modules]
  cases coreDefs g runtimeModule true with
  | error e => rfl
  | ok core =>
    cases (parentFirstPlans g).mapM fun p => (return (p, ← classBody p true) :
      Except ValueFault (ClassPlan × List String)) <;> rfl

/-! ### Parts of a generation -/

theorem ofGeneration_eq_ok {g : Generation} {runtimeModule : String} {s : Parts} :
    Parts.ofGeneration g runtimeModule = .ok s ↔ ∃ core classes,
      coreDefs g runtimeModule true = .ok core ∧
      ((parentFirstPlans g).mapM fun p => return (p, ← classBody p true)) = .ok classes ∧
      s = ⟨core, classes, utilities g runtimeModule true⟩ := by
  unfold Parts.ofGeneration
  simp only [bind_eq_ok, mapError_eq_ok, pure_eq_ok]
  constructor
  · rintro ⟨core, hcore, classes, hclasses, rfl⟩
    exact ⟨core, classes, hcore, hclasses, rfl⟩
  · rintro ⟨core, classes, hcore, hclasses, rfl⟩
    exact ⟨core, hcore, classes, hclasses, rfl⟩

theorem mem_of_classBodies {plans : List ClassPlan} {classes : List (ClassPlan × List String)}
    (h : (plans.mapM fun p => (return (p, ← classBody p true) : Except ValueFault _)) = .ok classes)
    {c : ClassPlan × List String} (hc : c ∈ classes) :
    c.1 ∈ plans ∧ classBody c.1 true = .ok c.2 := by
  obtain ⟨p, hp, hmade⟩ := exists_left (mapM_eq_ok.mp h) hc
  obtain ⟨body, hbody, hmade⟩ := bind_eq_ok.mp hmade
  cases hmade
  exact ⟨hp, hbody⟩

theorem map_fst_of_classBodies {plans : List ClassPlan} {classes : List (ClassPlan × List String)}
    (h : (plans.mapM fun p => (return (p, ← classBody p true) : Except ValueFault _)) =
      .ok classes) : classes.map (·.1) = plans := by
  have same := map_eq_map (f := id) (g := Prod.fst) (mapM_eq_ok.mp h) fun p _ c hc => by
    obtain ⟨body, _, hmade⟩ := bind_eq_ok.mp hc
    cases hmade
    rfl
  rw [same, List.map_id]

section Modes

variable {r : Registry} {flags : Flags} {g : Generation}

theorem planClass_of_parentFirst (hg : r.generate flags = .ok g) {p : ClassPlan}
    (hp : p ∈ parentFirstPlans g) : r.planClass flags p.cls = .ok p := by
  obtain ⟨c, _, hfound⟩ := List.mem_filterMap.mp hp
  obtain ⟨c', _, hplan⟩ := exists_left (Registry.generates_of_generate hg).plans
    (List.mem_of_find?_eq_some hfound)
  rw [Registry.cls_of_planClass hplan]
  exact hplan

theorem mapM_classBody_single (hg : r.generate flags = .ok g) :
    (parentFirstPlans g).mapM (classBody · false) =
      ((parentFirstPlans g).mapM fun p => return (p, ← classBody p true)).map
        (List.map fun c : ClassPlan × List String => withoutImports c.2) := by
  rw [map_mapM]
  refine mapM_congr fun p hp => ?_
  rw [(sheds_classBody (planClass_of_parentFirst hg hp)).1]
  cases classBody p true <;> rfl

theorem render_single_eq (hg : r.generate flags = .ok g) (runtimeModule name : String) :
    render g (singleFile runtimeModule name) [] =
      ((Parts.ofGeneration g runtimeModule).mapError .fault).map fun s =>
        .ofList [((name : Name), join "\n" (singleLines g runtimeModule s.withoutImports.core
          (s.withoutImports.classes.map (·.2)) s.withoutImports.functions))] := by
  have steps : render g (singleFile runtimeModule name) [] =
      ((coreDefs g runtimeModule false).mapError RenderFailure.fault >>= fun defs =>
        renderSingleFile g (singleFile runtimeModule name) [] defs >>= fun text =>
          pure (.ofList [((name : Name), text)])) := rfl
  rw [steps, coreDefs_single hg, Parts.ofGeneration]
  cases coreDefs g runtimeModule true with
  | error e => rfl
  | ok core =>
    have given : ((Except.ok core : Except Fault CoreDefs).map CoreDefs.withoutImports).mapError
        RenderFailure.fault = .ok core.withoutImports := rfl
    rw [given, ok_bind, ok_bind, renderSingleFile_eq hg _ _ rfl rfl, mapM_classBody_single hg,
      utilities_single hg]
    cases (parentFirstPlans g).mapM fun p => (return (p, ← classBody p true) :
        Except ValueFault (ClassPlan × List String)) with
    | error e => rfl
    | ok classes =>
      have bodies : (classes.map fun c => (c.1, withoutImports c.2)).map (·.2) =
          classes.map fun c => withoutImports c.2 := by
        rw [List.map_map]
        rfl
      show Except.ok _ = Except.ok _
      dsimp only [Parts.withoutImports]
      rw [bodies]
      rfl

/-! ### What lies at a path -/

section Paths

variable {runtimeModule : String} {d : Declarations} {modules : List EmittedModule}
  {c : ClassPlan × List String}

/-- The path of a class holds the class's own module, unless it is that of the gathering one. -/
theorem moduleAt?_class (h : Registry.build d = .ok r) (hg : r.generate flags = .ok g)
    (texts : ∀ c ∈ r.classes, c.name.IsText)
    (hmodules : packageModules g runtimeModule = .ok modules) (hp : c.1 ∈ parentFirstPlans g)
    (hbody : classBody c.1 true = .ok c.2) (hname : c.1.name ≠ ("__init__" : String)) :
    moduleAt? modules (classPath c.1.name.display) =
      some (moduleWith (headerComment g.registry) runtimeModule c) := by
  obtain ⟨_, distinct, declared⟩ := planned_of_generate h hg
  have hm : classModule (headerComment g.registry) runtimeModule c.1 =
      .ok (moduleWith (headerComment g.registry) runtimeModule c) := by
    rw [classModule_eq_map, hbody]
    rfl
  obtain ⟨m, hmem, hplan⟩ := exists_classModule hmodules hp
  cases hplan.symm.trans hm
  obtain ⟨found, hfound⟩ := Option.isSome_iff_exists.mp (moduleAt?_isSome hmem)
  have hfound : moduleAt? modules (classPath c.1.name.display) = some found := hfound
  rw [hfound]
  obtain ⟨hmem, hpath⟩ := mem_of_moduleAt? hfound
  obtain ⟨s, hs⟩ := texts _ (declared _ hp)
  have hs : c.1.name = (s : Name) := hs
  have core : classPath c.1.name.display ≠ "core_defs.py" := classPath_ne (by decide) _
  have utilities : classPath c.1.name.display ≠ "utility_functions.py" :=
    classPath_ne (by decide) _
  have entry : classPath c.1.name.display ≠ "__init__.py" := classPath_ne (by decide) _
  cases emits_of_packageModules hmodules hmem with
  | core => exact absurd hpath.symm core
  | utilities => exact absurd hpath.symm utilities
  | entry => exact absurd hpath.symm entry
  | gathering =>
    have hdisplay := classPath_injective (gatheringPath_eq.symm.trans hpath)
    rw [hs] at hdisplay hname
    exact absurd (congrArg (fun text : String => (text : Name)) hdisplay.symm) hname
  | @ofClass p _ hp' hm' =>
    -- Two classes at one path have one name, so that they are the same.
    obtain ⟨t, ht⟩ := texts _ (declared _ hp')
    have ht : p.name = (t : Name) := ht
    have hdisplay := classPath_injective ((path_classModule hm').1.symm.trans hpath)
    rw [hs, ht] at hdisplay
    have hdisplay : t = s := hdisplay
    have first := Name.find?_of_distinct distinct hp
    have second := Name.find?_of_distinct distinct hp'
    rw [ht, hdisplay, ← hs, first] at second
    cases second
    rw [hm] at hm'
    exact congrArg some (Except.ok.inj hm').symm

theorem moduleAt?_core {s : Parts} (hparts : Parts.ofGeneration g runtimeModule = .ok s)
    (hmodules : packageModules g runtimeModule = .ok modules) :
    moduleAt? modules "core_defs.py" = some (coreModule s.core) := by
  obtain ⟨defs, _, hdefs, _, rfl⟩ := ofGeneration_eq_ok.mp hparts
  have present := emitted_shared hmodules "core_defs.py" (by decide)
  obtain ⟨found, hfound⟩ := Option.isSome_iff_exists.mp present
  obtain ⟨hmem, hpath⟩ := mem_of_moduleAt? hfound
  rw [hfound]
  have utilities : "utility_functions.py" ≠ "core_defs.py" := by decide
  have gathering : gatheringPath ≠ "core_defs.py" := by decide
  have entry : "__init__.py" ≠ "core_defs.py" := by decide
  cases emits_of_packageModules hmodules hmem with
  | core hdefs' =>
    cases hdefs.symm.trans hdefs'
    rfl
  | utilities => exact absurd hpath utilities
  | ofClass _ hm =>
    rw [(path_classModule hm).1] at hpath
    exact absurd hpath (classPath_ne (by decide) _)
  | gathering => exact absurd hpath gathering
  | entry => exact absurd hpath entry

theorem moduleAt?_utilities (hmodules : packageModules g runtimeModule = .ok modules) :
    moduleAt? modules "utility_functions.py" =
      some (utilityModule (utilities g runtimeModule true)) := by
  have present := emitted_shared hmodules "utility_functions.py" (by decide)
  obtain ⟨found, hfound⟩ := Option.isSome_iff_exists.mp present
  obtain ⟨hmem, hpath⟩ := mem_of_moduleAt? hfound
  rw [hfound]
  have core : "core_defs.py" ≠ "utility_functions.py" := by decide
  have gathering : gatheringPath ≠ "utility_functions.py" := by decide
  have entry : "__init__.py" ≠ "utility_functions.py" := by decide
  cases emits_of_packageModules hmodules hmem with
  | core => exact absurd hpath core
  | utilities => rfl
  | ofClass _ hm =>
    rw [(path_classModule hm).1] at hpath
    exact absurd hpath (classPath_ne (by decide) _)
  | gathering => exact absurd hpath gathering
  | entry => exact absurd hpath entry

/-- The module that gathers the classes starts with its description, that of a class with the
comment on what generated it. -/
theorem text_gathering_ne (plans : List ClassPlan) (r : Registry) :
    (gatheringModule plans).text ≠ (moduleWith (headerComment r) runtimeModule c).text := by
  intro same
  have starts := congrArg (fun text => text.toList.head?) same
  have gathering : (gatheringModule plans).text.toList.head? = some '"' :=
    head?_join "\n" rfl _
  have ofClass : (moduleWith (headerComment r) runtimeModule c).text.toList.head? = some '#' :=
    head?_join "\n" (head?_headerComment r) _
  rw [gathering, ofClass] at starts
  cases starts

/-- A class's own module is what lies at the path of the class, unless the class is called like the
gathering module. -/
theorem find?_class (h : Registry.build d = .ok r) (hg : r.generate flags = .ok g)
    (texts : ∀ c ∈ r.classes, c.name.IsText)
    (hmodules : packageModules g runtimeModule = .ok modules) (hp : c.1 ∈ parentFirstPlans g)
    (hbody : classBody c.1 true = .ok c.2) :
    (moduleAt? modules (classPath c.1.name.display)).map (·.text) =
        some (moduleWith (headerComment g.registry) runtimeModule c).text ↔
      c.1.name ≠ ("__init__" : String) := by
  constructor
  · intro found hname
    have path : classPath c.1.name.display = gatheringPath := by
      rw [hname, gatheringPath_eq]
      rfl
    rw [path, moduleAt?_gathering hmodules] at found
    exact text_gathering_ne _ _ (Option.some.inj found)
  · intro hname
    rw [moduleAt?_class h hg texts hmodules hp hbody hname]
    rfl

end Paths

/-! ### Runtime symbols -/

/-- The runtime symbols that the modules of a package import. -/
def packageSymbols (s : Parts) : List String :=
  s.core.runtimeImports ++ s.functions.runtimeImports ++
    s.classes.flatMap fun c => runtimeSymbols (classRuntimeBase c.1) c.1.requires

/-- What a class always imports a single module does. -/
theorem classRuntimeBase_subset (p : ClassPlan) : classRuntimeBase p ⊆ singleSymbols g := by
  intro symbol h
  refine mem_runtimeSymbols.mpr (.inl ?_)
  simp only [classRuntimeBase, List.mem_append, List.mem_cons, List.mem_ite_nil_left,
    List.mem_ite_nil_right, List.not_mem_nil, or_false] at h
  rcases h with ((rfl | ⟨-, rfl⟩) | ⟨-, rfl⟩) | ⟨-, rfl⟩ <;> decide

theorem mem_singleSymbols {symbol : String} (h : ⟨.runtime, symbol⟩ ∈ allRequirements g) :
    symbol ∈ singleSymbols g :=
  mem_runtimeSymbols.mpr (.inr h)

theorem coreImports_subset {runtimeModule : String} {inPackage : Bool} {defs : CoreDefs}
    (h : coreDefs g runtimeModule inPackage = .ok defs) :
    defs.runtimeImports ⊆ singleSymbols g := by
  intro symbol hsymbol
  rw [(gathers_of_coreDefs h).runtimeImports] at hsymbol
  rcases mem_runtimeSymbols.mp hsymbol with hbase | hrequired
  · refine mem_runtimeSymbols.mpr (.inl ?_)
    have within : symbol ∈ ["variant_constructor", "variant_operator_evaluator", "gi",
        "builtin_method_bind"] := by
      split at hbase
      · exact List.mem_append_left _ hbase
      · exact hbase
    revert within
    simp only [List.mem_cons, List.not_mem_nil, or_false]
    rintro (rfl | rfl | rfl | rfl) <;> decide
  · obtain ⟨b, hb, hq⟩ := List.mem_flatMap.mp hrequired
    obtain ⟨p, hp, hb⟩ := List.mem_flatMap.mp hb
    obtain ⟨entry, hentry, rfl⟩ := List.mem_map.mp hp
    refine mem_singleSymbols (List.mem_append_right _ ?_)
    exact List.mem_flatMap.mpr ⟨_, mem_of_boundBuiltins hentry, List.mem_flatMap.mpr ⟨b, hb, hq⟩⟩

/-- A single module imports every runtime symbol that a module of a package does. -/
theorem packageSymbols_subset {runtimeModule : String} {s : Parts}
    (h : Parts.ofGeneration g runtimeModule = .ok s) : packageSymbols s ⊆ singleSymbols g := by
  obtain ⟨core, classes, hcore, hclasses, rfl⟩ := ofGeneration_eq_ok.mp h
  refine List.append_subset.mpr ⟨List.append_subset.mpr ⟨coreImports_subset hcore, ?_⟩, ?_⟩
  · intro symbol hsymbol
    rcases mem_runtimeSymbols.mp hsymbol with hbase | hrequired
    · refine mem_runtimeSymbols.mpr (.inl ?_)
      rcases List.mem_pair.mp hbase with rfl | rfl <;> decide
    · exact mem_singleSymbols (List.mem_append_left _ (List.mem_append_right _ hrequired))
  · intro symbol hsymbol
    obtain ⟨c, hc, hsymbol⟩ := List.mem_flatMap.mp hsymbol
    rcases mem_runtimeSymbols.mp hsymbol with hbase | hrequired
    · exact classRuntimeBase_subset c.1 hbase
    · refine mem_singleSymbols (List.mem_append_left _ (List.mem_append_left _ ?_))
      exact List.mem_flatMap.mpr ⟨c.1, (mem_of_classBodies hclasses hc).1, hrequired⟩

/-! ### Both modes agree -/

/-- What holds of both modes where they return: the artifacts of a package, the text of a single
module, and the parts that they are rendered from. -/
structure ModesAgree (r : Registry) (g : Generation) (runtimeModule : String)
    (artifacts : OrderedMap Name String) (single : String) (s : Parts) : Prop where
  /-- The single module has the parts one behind the other, without the imports of classes. -/
  single : single = join "\n" (singleLines g runtimeModule s.withoutImports.core
    (s.withoutImports.classes.map (·.2)) s.withoutImports.functions)
  /-- The package has the core definitions in a module of their own. -/
  core : artifacts.find? ("core_defs.py" : String) = some (coreModule s.core).text
  /-- The package has the utility functions in a module of their own. -/
  functions : artifacts.find? ("utility_functions.py" : String) =
    some (utilityModule s.functions).text
  /-- The package has each class in a module of its own, unless the class is called like the
  gathering module. -/
  classes : (∀ c ∈ r.classes, c.name.IsText) → ∀ c ∈ s.classes,
    (artifacts.find? (classPath c.1.name.display) =
        some (moduleWith (headerComment r) runtimeModule c).text ↔
      c.1.name ≠ ("__init__" : String))
  /-- What the single module leaves out of a class are the imports of classes beside it. -/
  besideClass : ∀ c ∈ s.classes, ImportsClasses "." c.2
  /-- What it leaves out of the methods of a structure are imports from the package of classes. -/
  besideStruct : ∀ x ∈ s.core.structs, ImportsClasses ".classes." x.methods
  besideMixin : ∀ m ∈ s.core.mixins, ImportsClasses ".classes." m.methods
  besideFunction : ∀ f ∈ s.functions.functions, ImportsClasses ".classes." f.body
  /-- Every class is there once. -/
  once : (s.classes.map (·.1.cls)).Perm r.classes ∧
    s.classes.Pairwise fun a b => (a.1.name == b.1.name) = false
  /-- A class stands behind its parent. -/
  parents : ∀ before c after, s.classes = before ++ c :: after → ∀ parent,
    c.1.parent = some parent → ∃ above ∈ before, (above.1.name == parent) = true
  /-- What a module of the package imports from the runtime module the single module does. -/
  symbols : packageSymbols s ⊆ singleSymbols g

theorem modesAgree_of_render {d : Declarations} {runtimeModule : String} {s : Parts}
    {artifacts : OrderedMap Name String} (h : Registry.build d = .ok r)
    (hg : r.generate flags = .ok g) (hparts : Parts.ofGeneration g runtimeModule = .ok s)
    (hrender : render g { runtimeModule } [] = .ok artifacts) :
    ModesAgree r g runtimeModule artifacts (join "\n" (singleLines g runtimeModule
      s.withoutImports.core (s.withoutImports.classes.map (·.2)) s.withoutImports.functions)) s := by
  rw [render_eq] at hrender
  obtain ⟨modules, hmodules, rfl⟩ := map_eq_ok.mp hrender
  have hmodules := mapError_eq_ok.mp hmodules
  obtain ⟨core, classes, hcore, hclasses, hs⟩ := ofGeneration_eq_ok.mp hparts
  have planned {c : ClassPlan × List String} (hc : c ∈ classes) := mem_of_classBodies hclasses hc
  have plans := map_fst_of_classBodies hclasses
  have order := parentFirstPlans_perm h hg
  constructor
  case single => rfl
  case core => rw [find?_artifacts, moduleAt?_core hparts hmodules, Option.map_some]
  case functions =>
    rw [find?_artifacts, moduleAt?_utilities hmodules, hs]
    rfl
  case classes =>
    intro texts c hc
    rw [hs] at hc
    rw [find?_artifacts, ← (Registry.generates_of_generate hg).registry]
    exact find?_class h hg texts hmodules (planned hc).1 (planned hc).2
  case besideClass =>
    intro c hc
    rw [hs] at hc
    obtain ⟨hp, hbody⟩ := planned hc
    exact ((sheds_classBody (planClass_of_parentFirst hg hp)).2 _ hbody).imports
  case besideStruct =>
    rw [hs]
    exact (importsClasses_coreDefs hg hcore).1
  case besideMixin =>
    rw [hs]
    exact (importsClasses_coreDefs hg hcore).2
  case besideFunction =>
    rw [hs]
    exact fun f hf => importsClasses_utilities hg hf
  case once =>
    rw [hs]
    constructor
    · have all := order.map (·.cls)
      rw [map_cls_of_generate hg, ← plans, List.map_map] at all
      exact all
    · have distinct := (planned_of_generate h hg).2.1
      rw [← plans] at distinct
      exact List.pairwise_map.mp distinct
  case parents =>
    intro before c after hsplit parent hparent
    rw [hs] at hsplit
    have hsplit : classes = before ++ c :: after := hsplit
    rw [hsplit, List.map_append, List.map_cons] at plans
    obtain ⟨p, hp, hname⟩ := exists_parent_before h hg plans.symm hparent
    obtain ⟨above, habove, rfl⟩ := List.mem_map.mp hp
    exact ⟨above, habove, hname⟩
  case symbols => exact packageSymbols_subset hparts

end Modes

/-- The two output modes agree: where one returns the other does, and the single module has the
class bodies, builtin methods and utility functions of the package without their imports of
classes, every class once and behind its parent, and all the runtime symbols. -/
theorem modes_agree {d : Declarations} {r : Registry} {flags : Flags} {g : Generation}
    (h : Registry.build d = .ok r) (hg : r.generate flags = .ok g) (runtimeModule name : String) :
    ((∃ artifacts, render g { runtimeModule } [] = .ok artifacts) ↔
        ∃ artifacts, render g (singleFile runtimeModule name) [] = .ok artifacts) ∧
      ∀ artifacts file, render g { runtimeModule } [] = .ok artifacts →
        render g (singleFile runtimeModule name) [] = .ok file →
        ∃ single s, file = .ofList [((name : Name), single)] ∧
          Parts.ofGeneration g runtimeModule = .ok s ∧
          ModesAgree r g runtimeModule artifacts single s := by
  constructor
  · rw [render_eq, packageModules_eq, render_single_eq hg]
    cases Parts.ofGeneration g runtimeModule with
    | error e => exact ⟨fun ⟨_, he⟩ => (nomatch he), fun ⟨_, he⟩ => (nomatch he)⟩
    | ok s => exact ⟨fun _ => ⟨_, rfl⟩, fun _ => ⟨_, rfl⟩⟩
  · intro artifacts file hrender hfile
    rw [render_single_eq hg] at hfile
    obtain ⟨s, hparts, rfl⟩ := map_eq_ok.mp hfile
    have hparts := mapError_eq_ok.mp hparts
    exact ⟨_, s, rfl, hparts, modesAgree_of_render h hg hparts hrender⟩

/-- Rooms and halls, and a function that opens rooms: in the package a room imports the hall that
it leads to, in the single module it does not. -/
theorem modes_agree_rooms :
    ∃ r g artifacts single s, Registry.ofDocument "float_64" rooms = .ok r ∧
      r.generate {} = .ok g ∧ render g {} [] = .ok artifacts ∧
      render g (singleFile "godot.runtime" "bindings.py") [] =
        .ok (.ofList [(("bindings.py" : String), single)]) ∧
      ModesAgree r g "godot.runtime" artifacts single s ∧
      ∃ c ∈ s.classes, "        from .Hall import Hall" ∈ c.2 ∧
        "        from .Hall import Hall" ∉ withoutImports c.2 := by
  have returns : (packageOf rooms).toOption.any (fun (_, g, _) =>
      (Parts.ofGeneration g "godot.runtime").toOption.any fun s =>
        s.classes.any fun c => c.2.contains "        from .Hall import Hall") := by
    decide +kernel
  obtain ⟨⟨r, g, modules⟩, hpackage, hfacts⟩ := exists_eq_ok_of_any returns
  obtain ⟨s, hparts, hfacts⟩ := exists_eq_ok_of_any hfacts
  obtain ⟨c, hc, himport⟩ := List.any_eq_true.mp hfacts
  obtain ⟨hr, hg, hmodules⟩ := packageOf_eq_ok hpackage
  obtain ⟨_, _, hbuild⟩ := bind_eq_ok.mp hr
  obtain ⟨d, _, hbuild⟩ := bind_eq_ok.mp hbuild
  have agree := modes_agree hbuild hg "godot.runtime" "bindings.py"
  have hrender := render_of_packageModules hmodules
  obtain ⟨file, hfile⟩ := agree.1.mp ⟨_, hrender⟩
  obtain ⟨single, s', rfl, hparts', holds⟩ := agree.2 _ _ hrender hfile
  cases hparts.symm.trans hparts'
  refine ⟨r, g, _, single, s, hr, hg, hrender, hfile, holds, c, hc,
    List.contains_iff_mem.mp himport, fun kept => ?_⟩
  have removed := (List.mem_filter.mp kept).2
  exact absurd removed (by decide)

/-- A class that is called like the gathering module has no module of its own: its statement, which
the single module has, is missing from what lies at its path. -/
theorem shadowed_missing :
    ∃ r g artifacts s c lines, Registry.ofDocument "float_64" shadowed = .ok r ∧
      r.generate {} = .ok g ∧ render g {} [] = .ok artifacts ∧
      Parts.ofGeneration g "godot.runtime" = .ok s ∧ c ∈ s.classes ∧
      c.1.name = ("__init__" : String) ∧ classBody c.1 false = .ok (withoutImports c.2) ∧
      "class __init__(Wrapped):" ∈ withoutImports c.2 ∧
      artifacts.find? ("classes/__init__.py" : String) = some (join "\n" lines) ∧
      "class __init__(Wrapped):" ∉ lines := by
  have returns : (packageOf shadowed).toOption.any (fun (_, g, _) =>
      (Parts.ofGeneration g "godot.runtime").toOption.any (fun s => s.classes.any fun c =>
        c.1.name.text? == some "__init__" &&
          (withoutImports c.2).contains "class __init__(Wrapped):") &&
      !(classesInitLines (parentFirstPlans g)).contains "class __init__(Wrapped):") := by
    decide +kernel
  obtain ⟨⟨r, g, modules⟩, hpackage, hfacts⟩ := exists_eq_ok_of_any returns
  obtain ⟨hstatement, hgathering⟩ := Bool.and_eq_true_iff.mp hfacts
  obtain ⟨s, hparts, hstatement⟩ := exists_eq_ok_of_any hstatement
  obtain ⟨c, hc, hclass⟩ := List.any_eq_true.mp hstatement
  obtain ⟨hname, hline⟩ := Bool.and_eq_true_iff.mp hclass
  obtain ⟨hr, hg, hmodules⟩ := packageOf_eq_ok hpackage
  obtain ⟨_, classes, _, hclasses, rfl⟩ := ofGeneration_eq_ok.mp hparts
  obtain ⟨hp, hbody⟩ := mem_of_classBodies hclasses hc
  have single := (sheds_classBody (planClass_of_parentFirst hg hp)).1
  rw [hbody] at single
  refine ⟨r, g, _, _, c, classesInitLines (parentFirstPlans g), hr, hg,
    render_of_packageModules hmodules, hparts, hc, Name.eq_text_of_text? (beq_iff_eq.mp hname),
    single, List.contains_iff_mem.mp hline, ?_, fun hmem => ?_⟩
  · have found := moduleAt?_gathering hmodules
    rw [find?_artifacts]
    exact congrArg (Option.map EmittedModule.text) found
  · rw [List.contains_iff_mem.mpr hmem] at hgathering
    cases hgathering

end EngineBindings.Package
