import EngineBindings.Proofs.Package.ImportGraph

/-! The imports of a package.

Every relative import of an emitted package leads to one of its artifacts: those that modules carry
out themselves (`emitted_of_mem`), and those inside functions, which are of declared classes. -/
namespace EngineBindings.Package

open Attempt EngineBindings.Text

variable {r : Registry} {flags : Flags} {g : Generation} {runtimeModule : String}
  {modules : List EmittedModule}

/-! ### Imports lead to artifacts -/

/-- Every class has an artifact. -/
theorem emitted_class (hg : r.generate flags = .ok g)
    (h : packageModules g runtimeModule = .ok modules) {name : String}
    (hclass : (r.class? name).isSome) : (moduleAt? modules (classPath name)).isSome := by
  obtain ⟨p, hp, hname⟩ := Registry.exists_plan hg hclass
  obtain ⟨m, hm, hplan⟩ := exists_classModule h hp
  have hpath : m.path = classPath name := by
    rw [(path_classModule hplan).1, hname]
    rfl
  rw [← hpath]
  exact moduleAt?_isSome hm

theorem emitted_shared (h : packageModules g runtimeModule = .ok modules) :
    ∀ path ∈ sharedPaths, (moduleAt? modules path).isSome := by
  obtain ⟨defs, _, h⟩ := bind_eq_ok.mp h
  obtain ⟨classes, _, h⟩ := bind_eq_ok.mp h
  cases h
  have core : coreModule defs ∈ allModules g runtimeModule defs classes := by simp [allModules]
  have utilities : utilityModule (utilities g runtimeModule true) ∈
      allModules g runtimeModule defs classes := by simp [allModules]
  have gathering : gatheringModule (parentFirstPlans g) ∈
      allModules g runtimeModule defs classes := by simp [allModules]
  rw [sharedPaths, List.forall_mem_cons, List.forall_mem_cons, List.forall_mem_singleton]
  exact ⟨moduleAt?_isSome core, moduleAt?_isSome utilities, moduleAt?_isSome gathering⟩

/-- What a module imports has an artifact. -/
theorem emitted_of_mem {d : Declarations} (h : Registry.build d = .ok r)
    (hg : r.generate flags = .ok g) (hmodules : packageModules g runtimeModule = .ok modules)
    (texts : ∀ c ∈ r.classes, c.name.IsText) {m : EmittedModule} (hm : m ∈ modules)
    {i : RelativeImport} (hi : i ∈ m.imports) {path : String} (hpath : path ∈ i.paths) :
    (moduleAt? modules path).isSome := by
  -- A class is found by every spelling of its name, which is a text.
  have declared {c : ClassDef} {name : Name} (hc : c ∈ r.classes)
      (hsame : (c.name == name) = true) : (moduleAt? modules (classPath name.display)).isSome := by
    obtain ⟨text, htext⟩ := texts c hc
    rw [htext, BEq.comm] at hsame
    rw [Name.eq_text_of_beq hsame]
    apply emitted_class hg hmodules
    exact List.find?_isSome.mpr ⟨c, hc, by rw [htext]; exact BEq.rfl⟩
  rcases path_of_mem (emits_of_packageModules hmodules hm) hi hpath with
    hshared | ⟨p, hp, name, rfl | hparent, rfl⟩
  · exact emitted_shared hmodules path hshared
  · exact declared (Registry.mem_classes_of_plan hg hp) BEq.rfl
  · have hclass := Registry.mem_classes_of_plan hg hp
    obtain ⟨c, hc⟩ := (Registry.sound_of_build h).parents _ hclass name hparent
    have hsame := List.find?_some hc
    exact declared (List.mem_of_find?_eq_some hc) hsame

/-! ### The imports of a package -/

/-- What holds of the imports of a package, given its modules and the artifacts with their
texts. -/
structure ImportsResolve (r : Registry) (g : Generation) (artifacts : OrderedMap Name String)
    (modules : List EmittedModule) : Prop where
  /-- An artifact is the text of the module at its path. -/
  texts : ∀ path : String, artifacts.find? path = (moduleAt? modules path).map (·.text)
  /-- The lines of a module that import from the package are those of its imports. -/
  listed : ∀ m ∈ modules, m.Listed
  /-- An import inside a function is one of a declared class, and leads to its artifact. -/
  inside : ∀ line, ImportsLocally g line → ∃ name : String, (r.class? name).isSome ∧
    (line = importLine ("." ++ name) [name] ∨ line = importLine (".classes." ++ name) [name]) ∧
      (artifacts.find? (classPath name)).isSome
  /-- The module of a class imports core definitions and its parent at most. -/
  ofClass : ∀ p ∈ parentFirstPlans g, ∃ m ∈ modules, m.path = classPath p.name.display ∧
    ∀ i ∈ m.imports,
      i = ⟨importLine "..core_defs" (symbolsFrom .core p.requires), ["core_defs.py"]⟩ ∨
        ∃ parent, p.parent = some parent ∧ i = classImport parent.display
  /-- What a module imports is an artifact, where classes are called by texts. -/
  emitted : (∀ c ∈ r.classes, c.name.IsText) → ∀ m ∈ modules, ∀ i ∈ m.imports,
    ∀ path ∈ i.paths, (artifacts.find? path).isSome
  /-- The graph has no cycle unless a class is called like the gathering module. -/
  acyclic : (∀ c ∈ r.classes, c.name.IsText) →
    (Acyclic modules ↔ ∀ c ∈ r.classes, c.name ≠ ("__init__" : String))

/-- Every class that a generation requires is declared, every import of a package leads to an
artifact, and the graph of the imports that modules carry out has no cycle unless a class is
called like the module that gathers the classes. -/
theorem imports_resolve {configuration : String} {document : Json}
    (h : Registry.ofDocument configuration document = .ok r) (hg : r.generate flags = .ok g)
    (hmodule : startsWith runtimeModule "." = false) :
    (∀ q, g.Requires q → q.origin = .class → (r.class? q.symbol).isSome) ∧
      ∀ artifacts, render g { runtimeModule } [] = .ok artifacts →
        ∃ modules, packageModules g runtimeModule = .ok modules ∧
          ImportsResolve r g artifacts modules := by
  have declared (q : Requirement) (hq : g.Requires q) (hclass : q.origin = .class) :=
    Registry.class?_of_requires h hg hq hclass
  refine ⟨declared, fun artifacts hrender => ?_⟩
  obtain ⟨_, _, hbuild⟩ := bind_eq_ok.mp h
  obtain ⟨d, _, hbuild⟩ := bind_eq_ok.mp hbuild
  rw [render_eq] at hrender
  obtain ⟨modules, hmodules, rfl⟩ := map_eq_ok.mp hrender
  have hmodules := mapError_eq_ok.mp hmodules
  refine ⟨modules, hmodules, ?_⟩
  constructor
  case texts => exact find?_artifacts modules
  case listed => exact listed_of_packageModules hg hmodule hmodules
  case inside =>
    intro line hline
    obtain ⟨name, hname, hspelled⟩ := requires_of_importsLocally hline
    have hclass := declared _ hname rfl
    refine ⟨name, hclass, hspelled, ?_⟩
    rw [find?_artifacts, Option.isSome_map]
    exact emitted_class hg hmodules hclass
  case ofClass =>
    intro p hp
    obtain ⟨m, hm, hplan⟩ := exists_classModule hmodules hp
    obtain ⟨hpath, himports⟩ := path_classModule hplan
    refine ⟨m, hm, hpath, fun i hi => ?_⟩
    rw [himports] at hi
    exact mem_classRelatives hi
  case emitted =>
    intro texts m hm i hi path hpath
    rw [find?_artifacts, Option.isSome_map]
    exact emitted_of_mem hbuild hg hmodules texts hm hi hpath
  case acyclic => exact acyclic_iff hbuild hg hmodules

/-- A room leads to a hall, which is a room itself, and a function opens rooms. -/
def rooms : Json :=
  documentOf []
    [("classes",
      [.obj [("name", .str "Room"),
        ("methods", .arr [.obj [("name", .str "next_hall"), ("hash", .int 1),
          ("return_value", .obj [("type", .str "Hall")])]])],
       .obj [("name", .str "Hall"), ("inherits", .str "Room")]]),
     ("utility_functions",
      [.obj [("name", .str "open_room"), ("hash", .int 2), ("return_type", .str "Room")]])]

/-- Although rooms and halls refer to each other, their modules do not import each other. -/
theorem imports_resolve_rooms :
    ∃ r g artifacts modules, Registry.ofDocument "float_64" rooms = .ok r ∧
      r.generate {} = .ok g ∧ render g {} [] = .ok artifacts ∧
      ImportsResolve r g artifacts modules ∧ ImportsLocally g "from .Hall import Hall" ∧
      Acyclic modules := by
  have returns : (packageOf rooms).toOption.any (fun (r, g, _) =>
      (r.classes.all fun c => c.name.text?.any (· != "__init__")) &&
        g.plans.any fun p => p.members.any fun x =>
          ((classSite p).imports x.requires).contains "from .Hall import Hall") := by
    decide +kernel
  obtain ⟨⟨r, g, modules⟩, hpackage, hfacts⟩ := exists_eq_ok_of_any returns
  obtain ⟨hnames, himports⟩ := Bool.and_eq_true_iff.mp hfacts
  obtain ⟨hr, hg, hmodules⟩ := packageOf_eq_ok hpackage
  have hrender := render_of_packageModules hmodules
  obtain ⟨modules', hmodules', resolve⟩ :=
    (imports_resolve hr hg (by decide)).2 _ hrender
  have names : ∀ c ∈ r.classes, ∃ name : String, c.name = name ∧ name ≠ "__init__" := by
    intro c hc
    have hname := List.all_eq_true.mp hnames c hc
    cases htext : c.name.text? with
    | none =>
      rw [htext] at hname
      cases hname
    | some name =>
      rw [htext] at hname
      exact ⟨name, Name.eq_text_of_text? htext, by simpa using hname⟩
  have inside : ImportsLocally g "from .Hall import Hall" := by
    obtain ⟨p, hp, himports⟩ := List.any_eq_true.mp himports
    obtain ⟨x, hx, hline⟩ := List.any_eq_true.mp himports
    exact .member hp hx (List.contains_iff_mem.mp hline)
  refine ⟨r, g, _, modules', hr, hg, hrender, resolve, inside, (resolve.acyclic ?_).mpr ?_⟩
  · intro c hc
    obtain ⟨name, hname, _⟩ := names c hc
    exact ⟨name, hname⟩
  · intro c hc hinit
    obtain ⟨name, hname, hne⟩ := names c hc
    rw [hname] at hinit
    cases hinit
    exact hne rfl

/-- A door whose parent is called like the gathering module. -/
def shadowed : Json :=
  documentOf []
    [("classes",
      [.obj [("name", .str "__init__")],
       .obj [("name", .str "Door"), ("inherits", .str "__init__")]])]

/-- The gathering module takes the place of that class and imports itself. -/
theorem shadowed_cyclic :
    ∃ r g modules, Registry.ofDocument "float_64" shadowed = .ok r ∧ r.generate {} = .ok g ∧
      packageModules g "godot.runtime" = .ok modules ∧ ¬Acyclic modules := by
  have returns : (packageOf shadowed).toOption.any (fun (_, _, modules) =>
      (moduleAt? modules gatheringPath).any fun m =>
        m.imports.any fun i => i.paths.contains gatheringPath) := by
    decide +kernel
  obtain ⟨⟨r, g, modules⟩, hpackage, hfacts⟩ := exists_eq_ok_of_any returns
  obtain ⟨hr, hg, hmodules⟩ := packageOf_eq_ok hpackage
  refine ⟨r, g, modules, hr, hg, hmodules, fun hacyclic => ?_⟩
  apply hacyclic gatheringPath
  apply Relation.TransGen.single
  dsimp only at hfacts
  cases hm : moduleAt? modules gatheringPath with
  | none =>
    rw [hm] at hfacts
    cases hfacts
  | some m =>
    rw [hm] at hfacts
    obtain ⟨i, hi, hpath⟩ := List.any_eq_true.mp hfacts
    exact ⟨m, hm, i, hi, List.contains_iff_mem.mp hpath⟩

end EngineBindings.Package
