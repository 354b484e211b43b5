import Mathlib.Order.RelClasses
import EngineBindings.Proofs.OrderedMap
import EngineBindings.Proofs.Package.LocalImports
import EngineBindings.Proofs.Registry.Lineage

/-! The graph of the imports that modules of a package carry out when they are imported.

A module is found at its path, the last one made there counting. Core definitions import nothing,
a class imports them and its parent, and whatever gathers classes comes last. Chains of imports
therefore follow inheritance and end (`ends_class`), unless a class takes the name of the module
that gathers the classes: its path is that module's, which then imports itself. -/
namespace EngineBindings.Package

open Attempt EngineBindings.Text

/-! ### Paths -/

theorem classPath_injective {a b : String} (h : classPath a = classPath b) : a = b := by
  have h := congrArg String.toList h
  simp only [classPath, String.toList_append, List.append_cancel_right_eq,
    List.append_cancel_left_eq] at h
  exact String.toList_inj.mp h

theorem classPath_ne {path : String} (h : startsWith path "classes/" = false) (name : String) :
    classPath name ≠ path := by
  rintro rfl
  simp [classPath, startsWith, dropPrefix?] at h

theorem gatheringPath_eq : gatheringPath = classPath "__init__" := by
  decide

theorem path_classModule {header runtimeModule : String} {p : ClassPlan} {m : EmittedModule}
    (h : classModule header runtimeModule p = .ok m) :
    m.path = classPath p.name.display ∧ m.imports = classRelatives p := by
  rw [classModule_eq] at h
  obtain ⟨lines, _, rfl⟩ := map_eq_ok.mp h
  exact ⟨rfl, rfl⟩

/-! ### The graph -/

/-- The module at a path. Of several the last one made counts. -/
def moduleAt? (modules : List EmittedModule) (path : String) : Option EmittedModule :=
  modules.reverse.find? (·.path == path)

/-- One path imports another when the module there does. -/
def ImportsFrom (modules : List EmittedModule) (path path' : String) : Prop :=
  ∃ m, moduleAt? modules path = some m ∧ ∃ i ∈ m.imports, path' ∈ i.paths

/-- No path imports itself, be it by way of others. -/
def Acyclic (modules : List EmittedModule) : Prop :=
  ∀ path, ¬Relation.TransGen (ImportsFrom modules) path path

/-- Every chain of imports that starts at a path ends. -/
def Ends (modules : List EmittedModule) (path : String) : Prop :=
  Acc (Function.swap (ImportsFrom modules)) path

section Graph

variable {modules : List EmittedModule} {path : String}

theorem find?_artifacts (modules : List EmittedModule) (path : String) :
    (OrderedMap.ofList (modules.map fun m => ((m.path : Name), m.text))).find? path =
      (moduleAt? modules path).map (·.text) := by
  have same : (fun m : EmittedModule => ((m.path : Name) == (path : Name))) =
      fun m => m.path == path := by
    funext m
    rw [Name.beq_text]
    rfl
  rw [OrderedMap.find?_ofList, ← List.map_reverse, List.find?_map, Option.map_map, moduleAt?]
  exact congrArg (fun found => (modules.reverse.find? found).map (·.text)) same

theorem moduleAt?_isSome {m : EmittedModule} (hm : m ∈ modules) :
    (moduleAt? modules m.path).isSome := by
  rw [moduleAt?, List.find?_isSome]
  exact ⟨m, List.mem_reverse.mpr hm, beq_self_eq_true _⟩

theorem mem_of_moduleAt? {m : EmittedModule} (h : moduleAt? modules path = some m) :
    m ∈ modules ∧ m.path = path := by
  have hpath := List.find?_some h
  exact ⟨List.mem_reverse.mp (List.mem_of_find?_eq_some h), beq_iff_eq.mp hpath⟩

/-- A chain ends behind a path if it does behind whatever a module there imports. -/
theorem ends_of_imports (h : ∀ m ∈ modules, m.path = path → ∀ i ∈ m.imports, ∀ path' ∈ i.paths,
    Ends modules path') : Ends modules path := by
  constructor
  rintro path' ⟨m, hm, i, hi, hpath'⟩
  obtain ⟨hmem, hpath⟩ := mem_of_moduleAt? hm
  exact h m hmem hpath i hi path' hpath'

theorem acyclic_of_ends (h : ∀ path, Ends modules path) : Acyclic modules := by
  intro path hcycle
  have wellFounded : WellFounded (Function.swap (ImportsFrom modules)) := ⟨h⟩
  have hback := Relation.transGen_swap.mpr hcycle
  exact wellFounded.transGen.asymmetric _ _ hback hback

theorem eq_of_mem_coreImport {module : String} {symbols : List String} {i : RelativeImport}
    (h : i ∈ coreImport module symbols) :
    i = ⟨importLine module symbols, ["core_defs.py"]⟩ := by
  unfold coreImport at h
  split at h
  · cases h
  · exact List.mem_singleton.mp h

/-- The module of a class imports core definitions and its parent. -/
theorem mem_classRelatives {p : ClassPlan} {i : RelativeImport} (h : i ∈ classRelatives p) :
    i = ⟨importLine "..core_defs" (symbolsFrom .core p.requires), ["core_defs.py"]⟩ ∨
      ∃ parent, p.parent = some parent ∧ i = classImport parent.display := by
  rcases List.mem_append.mp h with h | h
  · exact .inl (eq_of_mem_coreImport h)
  · obtain ⟨name, hname, rfl⟩ := List.mem_map.mp h
    obtain ⟨parent, hparent, rfl⟩ := Option.map_eq_some_iff.mp (Option.mem_toList.mp hname)
    exact .inr ⟨parent, hparent, rfl⟩

/-- Where the modules lie that are imported for no class of their own. -/
def sharedPaths : List String :=
  ["core_defs.py", "utility_functions.py", gatheringPath]

/-- An import leads to a shared module, to a class, or to the parent of one. -/
theorem path_of_mem {g : Generation} {runtimeModule : String} {m : EmittedModule}
    {i : RelativeImport} (h : Emits g runtimeModule m) (hi : i ∈ m.imports)
    (hpath : path ∈ i.paths) :
    path ∈ sharedPaths ∨ ∃ p ∈ parentFirstPlans g, ∃ name,
      (p.name = name ∨ p.parent = some name) ∧ path = classPath name.display := by
  cases h with
  | core => cases hi
  | utilities =>
    rw [eq_of_mem_coreImport hi] at hpath
    exact .inl (List.mem_append_left ["utility_functions.py", gatheringPath] hpath)
  | @ofClass p m hp hplan =>
    rw [(path_classModule hplan).2] at hi
    rcases mem_classRelatives hi with rfl | ⟨parent, hparent, rfl⟩
    · exact .inl (List.mem_append_left ["utility_functions.py", gatheringPath] hpath)
    · exact .inr ⟨p, hp, parent, .inr hparent, List.mem_singleton.mp hpath⟩
  | gathering =>
    obtain ⟨p, hp, rfl⟩ := List.mem_map.mp hi
    exact .inr ⟨p, hp, p.name, .inl rfl, List.mem_singleton.mp hpath⟩
  | entry =>
    left
    rcases List.mem_cons.mp hi with rfl | hi
    · exact List.mem_append_left [gatheringPath] hpath
    · split at hi
      · cases hi
      · rw [List.mem_singleton.mp hi] at hpath
        exact List.mem_append_right ["core_defs.py", "utility_functions.py"] hpath

/-- Nothing imports the entry. -/
theorem ne_entry_of_mem {g : Generation} {runtimeModule : String} {m : EmittedModule}
    {i : RelativeImport} (h : Emits g runtimeModule m) (hi : i ∈ m.imports)
    (hpath : path ∈ i.paths) : path ≠ "__init__.py" := by
  have shared : ∀ path ∈ sharedPaths, path ≠ "__init__.py" := by decide
  rcases path_of_mem h hi hpath with hshared | ⟨_, _, name, _, rfl⟩
  · exact shared path hshared
  · exact classPath_ne (by decide) _

end Graph

/-! ### Chains of imports -/

/-- What the chains of imports of a package depend on: a registry whose classes are called by texts
of their own, none of them that of the gathering module, and its emitted modules. -/
structure Orderly (r : Registry) (g : Generation) (runtimeModule : String)
    (modules : List EmittedModule) : Prop where
  emits : ∀ m ∈ modules, Emits g runtimeModule m
  plans : ∀ p ∈ parentFirstPlans g, p.cls ∈ r.classes
  found : ∀ c ∈ r.classes, r.class? c.name = some c
  parents : ∀ c ∈ r.classes, ∀ parent, c.parent = some parent → (r.class? parent).isSome
  chains : ∀ name, ∃ line, Line r.classes name line
  texts : ∀ c ∈ r.classes, c.name.IsText
  apart : ∀ c ∈ r.classes, c.name ≠ ("__init__" : String)

namespace Orderly

variable {r : Registry} {g : Generation} {runtimeModule : String} {modules : List EmittedModule}

theorem ends_core (h : Orderly r g runtimeModule modules) : Ends modules "core_defs.py" := by
  apply ends_of_imports
  intro m hm hpath i hi
  have utilities : "utility_functions.py" ≠ "core_defs.py" := by decide
  have gathering : gatheringPath ≠ "core_defs.py" := by decide
  have entry : "__init__.py" ≠ "core_defs.py" := by decide
  cases h.emits m hm with
  | core => cases hi
  | utilities => exact absurd hpath utilities
  | ofClass _ hplan =>
    rw [(path_classModule hplan).1] at hpath
    exact absurd hpath (classPath_ne (by decide) _)
  | gathering => exact absurd hpath gathering
  | entry => exact absurd hpath entry

/-- The name of a parent is a text, and not that of the gathering module. -/
theorem exists_parent (h : Orderly r g runtimeModule modules) {c : ClassDef} {parent : Name}
    (hc : c ∈ r.classes) (hparent : c.parent = some parent) :
    ∃ name : String, parent = name ∧ name ≠ "__init__" := by
  obtain ⟨c', hc', hsame⟩ := List.find?_isSome.mp (h.parents c hc parent hparent)
  obtain ⟨name, hname⟩ := h.texts c' hc'
  have hparent : parent = name := by
    apply Name.eq_text_of_beq
    rw [hname, BEq.comm] at hsame
    exact hsame
  refine ⟨name, hparent, ?_⟩
  rintro rfl
  exact h.apart c' hc' hname

/-- What a path of a class imports: core definitions, and the class above it in the registry. -/
theorem imports_of_class (h : Orderly r g runtimeModule modules) {name : String}
    (hname : name ≠ "__init__") {m : EmittedModule} (hm : m ∈ modules)
    (hpath : m.path = classPath name) {i : RelativeImport} (hi : i ∈ m.imports) :
    i.paths = ["core_defs.py"] ∨ ∃ parent : String,
      parentAmong r.classes name = some (parent : Name) ∧ parent ≠ "__init__" ∧
        i.paths = [classPath parent] := by
  have utilities : startsWith "utility_functions.py" "classes/" = false := by decide
  have entry : startsWith "__init__.py" "classes/" = false := by decide
  cases h.emits m hm with
  | core => cases hi
  | utilities => exact absurd hpath.symm (classPath_ne utilities name)
  | gathering => exact absurd (classPath_injective (gatheringPath_eq ▸ hpath)).symm hname
  | entry => exact absurd hpath.symm (classPath_ne entry name)
  | @ofClass p m hp hplan =>
    obtain ⟨himports, hrelatives⟩ := path_classModule hplan
    obtain ⟨text, htext⟩ := h.texts p.cls (h.plans p hp)
    have hname : p.cls.name = name := by
      have hdisplay := classPath_injective (himports.symm.trans hpath)
      rw [ClassPlan.name, htext] at hdisplay
      rw [htext, ← hdisplay]
      rfl
    rw [hrelatives] at hi
    rcases mem_classRelatives hi with rfl | ⟨parent, hparent, rfl⟩
    · exact .inl rfl
    · obtain ⟨above, rfl, habove⟩ := h.exists_parent (h.plans p hp) hparent
      have hfound := h.found p.cls (h.plans p hp)
      rw [hname, Registry.class?] at hfound
      refine .inr ⟨above, ?_, habove, rfl⟩
      rw [parentAmong, hfound]
      exact hparent

/-- The chain behind a class follows its line of parents. -/
theorem ends_of_line (h : Orderly r g runtimeModule modules) {n : Name} {line : List Name}
    (hline : Line r.classes n line) :
    ∀ name : String, n = name → name ≠ "__init__" → Ends modules (classPath name) := by
  induction hline with
  | top hp =>
    rintro name rfl hname
    apply ends_of_imports
    intro m hm hpath i hi path' hpath'
    rcases h.imports_of_class hname hm hpath hi with hcore | ⟨parent, hparent, _⟩
    · rw [hcore, List.mem_singleton] at hpath'
      rw [hpath']
      exact h.ends_core
    · rw [hp] at hparent
      cases hparent
  | up hp _ ih =>
    rintro name rfl hname
    apply ends_of_imports
    intro m hm hpath i hi path' hpath'
    rcases h.imports_of_class hname hm hpath hi with hcore | ⟨parent, hparent, habove, hpaths⟩
    · rw [hcore, List.mem_singleton] at hpath'
      rw [hpath']
      exact h.ends_core
    · rw [hp] at hparent
      rw [hpaths, List.mem_singleton] at hpath'
      rw [hpath']
      exact ih parent (Option.some.inj hparent) habove

theorem ends_class (h : Orderly r g runtimeModule modules) {p : ClassPlan}
    (hp : p ∈ parentFirstPlans g) : Ends modules (classPath p.name.display) := by
  obtain ⟨name, hname⟩ := h.texts p.cls (h.plans p hp)
  obtain ⟨line, hline⟩ := h.chains p.cls.name
  have hdisplay : p.name.display = name := by
    rw [ClassPlan.name, hname]
    rfl
  rw [hdisplay]
  apply h.ends_of_line hline name hname
  rintro rfl
  exact h.apart p.cls (h.plans p hp) hname

/-- Chains end behind everything but the entry. -/
theorem ends_of_ne (h : Orderly r g runtimeModule modules) {path : String}
    (hentry : path ≠ "__init__.py") : Ends modules path := by
  apply ends_of_imports
  intro m hm hpath i hi path' hpath'
  cases h.emits m hm with
  | core => cases hi
  | utilities =>
    rw [eq_of_mem_coreImport hi, List.mem_singleton] at hpath'
    rw [hpath']
    exact h.ends_core
  | ofClass hp hplan =>
    rw [(path_classModule hplan).2] at hi
    rcases mem_classRelatives hi with rfl | ⟨parent, hparent, rfl⟩
    · rw [List.mem_singleton.mp hpath']
      exact h.ends_core
    · obtain ⟨name, rfl, hname⟩ := h.exists_parent (h.plans _ hp) hparent
      obtain ⟨line, hline⟩ := h.chains name
      rw [List.mem_singleton.mp hpath']
      exact h.ends_of_line hline name rfl hname
  | gathering =>
    obtain ⟨p, hp, rfl⟩ := List.mem_map.mp hi
    rw [List.mem_singleton.mp hpath']
    exact h.ends_class hp
  | entry => exact absurd hpath.symm hentry

/-- Every chain of imports ends: nothing imports the entry. -/
theorem ends (h : Orderly r g runtimeModule modules) (path : String) : Ends modules path := by
  apply ends_of_imports
  intro m hm _ i hi path' hpath'
  exact h.ends_of_ne (ne_entry_of_mem (h.emits m hm) hi hpath')

end Orderly

/-! ### The packages whose graph has no cycle -/

variable {r : Registry} {flags : Flags} {g : Generation} {runtimeModule : String}
  {modules : List EmittedModule}

theorem orderly_of_build {d : Declarations} (h : Registry.build d = .ok r)
    (hg : r.generate flags = .ok g) (hmodules : packageModules g runtimeModule = .ok modules)
    (texts : ∀ c ∈ r.classes, c.name.IsText)
    (apart : ∀ c ∈ r.classes, c.name ≠ ("__init__" : String)) :
    Orderly r g runtimeModule modules := by
  have sound := Registry.sound_of_build h
  constructor
  case emits => exact fun m hm => emits_of_packageModules hmodules hm
  case plans => exact fun p hp => Registry.mem_classes_of_plan hg hp
  case found => exact fun c hc => Registry.class?_of_mem h hc
  case parents =>
    intro c hc parent hparent
    obtain ⟨c', hc'⟩ := sound.parents c hc parent hparent
    rw [hc']
    rfl
  case chains =>
    intro name
    obtain ⟨line, hline⟩ := sound.exists_ancestors name
    exact ⟨line, Registry.line_of_ancestors hline⟩
  case texts => exact texts
  case apart => exact apart

theorem moduleAt?_gathering (h : packageModules g runtimeModule = .ok modules) :
    moduleAt? modules gatheringPath = some (gatheringModule (parentFirstPlans g)) := by
  obtain ⟨defs, _, h⟩ := bind_eq_ok.mp h
  obtain ⟨classes, _, h⟩ := bind_eq_ok.mp h
  cases h
  have last (plans : List ClassPlan) (header : String) (names : List Name) :
      [gatheringModule plans, entryModule header names].reverse.find? (·.path == gatheringPath) =
        some (gatheringModule plans) := by
    have entry : ((entryModule header names).path == gatheringPath) = false := by
      show ("__init__.py" == gatheringPath) = false
      decide
    have gathering : ((gatheringModule plans).path == gatheringPath) = true :=
      beq_self_eq_true gatheringPath
    simp [entry, gathering]
  rw [moduleAt?, allModules, List.reverse_append, List.find?_append, last, Option.some_or]

/-- A class that is called like the gathering module makes that module import itself. -/
theorem not_acyclic (hg : r.generate flags = .ok g)
    (h : packageModules g runtimeModule = .ok modules) {c : ClassDef} (hc : c ∈ r.classes)
    (hname : c.name = ("__init__" : String)) : ¬Acyclic modules := by
  intro hacyclic
  have hclass : (r.class? ("__init__" : String)).isSome :=
    List.find?_isSome.mpr ⟨c, hc, by rw [hname]; exact BEq.rfl⟩
  obtain ⟨p, hp, hplan⟩ := Registry.exists_plan hg hclass
  apply hacyclic gatheringPath
  apply Relation.TransGen.single
  refine ⟨_, moduleAt?_gathering h, _, List.mem_map.mpr ⟨p, hp, rfl⟩, ?_⟩
  rw [hplan, gatheringPath_eq]
  exact List.mem_singleton_self _

/-- The graph has no cycle exactly if no class is called like the gathering module. -/
theorem acyclic_iff {d : Declarations} (h : Registry.build d = .ok r)
    (hg : r.generate flags = .ok g) (hmodules : packageModules g runtimeModule = .ok modules)
    (texts : ∀ c ∈ r.classes, c.name.IsText) :
    Acyclic modules ↔ ∀ c ∈ r.classes, c.name ≠ ("__init__" : String) := by
  constructor
  · intro hacyclic c hc hname
    exact not_acyclic hg hmodules hc hname hacyclic
  · intro apart
    exact acyclic_of_ends (orderly_of_build h hg hmodules texts apart).ends

end EngineBindings.Package
