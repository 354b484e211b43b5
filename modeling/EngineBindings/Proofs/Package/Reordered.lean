import EngineBindings.Proofs.OrderedMap
import EngineBindings.Proofs.Package.ImportGraph
import EngineBindings.Proofs.Package.LocalImports
import EngineBindings.Proofs.Plan.Agreeing

/-! Packages of the same classes in another order.

Every class, utility function and builtin is planned the same in registries that agree. Core
definitions and utility functions are therefore the same text, and so is the module of every class,
since each lies at a path of its own. The order shows where all classes are listed: in the module
that gathers them and in the package's entry, whose entries are the same in another order. -/
namespace EngineBindings

open Attempt

/-! ### Generations -/

/-- Two generations that differ in the order of classes alone. -/
structure Generation.Rearranged (g g' : Generation) : Prop where
  registry : g.registry.Agrees g'.registry
  plans : g.plans.Perm g'.plans
  utilities : g'.utilities = g.utilities
  builtins : g'.builtins = g.builtins
  diagnostics : g.diagnostics.Perm g'.diagnostics

theorem Registry.exists_generate {r r' : Registry} {flags : Flags} {g : Generation}
    (h : Agrees r r') (classes : r.classes.Perm r'.classes) (hg : r.generate flags = .ok g) :
    ∃ g', r'.generate flags = .ok g' ∧ g.Rearranged g' := by
  obtain ⟨plans, hplans, hg⟩ := bind_eq_ok.mp hg
  obtain ⟨utilities, hutilities, hg⟩ := bind_eq_ok.mp hg
  obtain ⟨builtins, hbuiltins, hg⟩ := bind_eq_ok.mp hg
  cases hg
  obtain ⟨plans', hplans', hperm⟩ := exists_mapM_perm classes hplans
  rw [generate, planClass_congr h.alike h.hasSubclasses, hplans', ok_bind, h.utilities,
    bindUtility_congr h.alike h.hasSubclasses, hutilities, ok_bind, h.alike.plannedBuiltins,
    planBuiltin_congr h.alike h.hasSubclasses, hbuiltins, ok_bind]
  refine ⟨_, rfl, h, hperm, rfl, rfl, ?_⟩
  exact ((hperm.flatMap_right _).append_right _).append_right _

namespace Package

open EngineBindings.Text

/-! ### What is the same -/

section Same

variable {r r' : Registry} {g g' : Generation}

theorem headerComment_congr (h : r.Agrees r') : headerComment r' = headerComment r := by
  unfold headerComment
  rw [h.header, h.profile]

theorem coreEnums_congr (h : r.Agrees r') : coreEnums r' = coreEnums r := by
  have hosts : r'.enumHostName = r.enumHostName :=
    funext fun _ => h.alike.sameNames.enumHostName trivial
  have globals : globalEnumDecl r' = globalEnumDecl r := by
    funext e
    rw [globalEnumDecl, globalEnumDecl, hosts]
  rw [coreEnums, coreEnums, globals, h.globalEnums, h.builtins, hosts]

theorem coreDefs_congr (h : g.Rearranged g') : coreDefs g' = coreDefs g := by
  have bound : boundBuiltins g' = boundBuiltins g := by
    rw [boundBuiltins, boundBuiltins, h.builtins]
  have structs : structDecl g'.registry = structDecl g.registry := by
    funext bound inPackage layout
    rw [structDecl, structDecl, h.registry.alike.declarationFields]
  funext runtimeModule inPackage
  rw [coreDefs, coreDefs, bound, h.registry.alike.structLayouts, structs,
    coreEnums_congr h.registry, h.registry.builtins, h.registry.alike.size?, h.registry.sizes,
    headerComment_congr h.registry, h.registry.profile, h.registry.natives]

theorem utilities_congr (h : g.Rearranged g') : utilities g' = utilities g := by
  funext runtimeModule inPackage
  rw [utilities, utilities, h.utilities, headerComment_congr h.registry]

end Same

section Entry

variable {own : Templates} {header text : String} {names : List Name}

theorem exists_renderBuiltIn? {place : String}
    (h : renderBuiltIn? place (.packageInit header names) = some (.ok text)) (names' : List Name) :
    ∃ text', renderBuiltIn? place (.packageInit header names') = some (.ok text') := by
  unfold renderBuiltIn? at h ⊢
  split at h
  · cases h
  · next hcore =>
    rw [if_neg hcore]
    split at h
    · cases h
    · next hutility =>
      rw [if_neg hutility]
      split at h
      · next hinit => exact ⟨_, if_pos hinit⟩
      · cases h

theorem exists_renderAt? {place : String}
    (h : own.renderAt? place (.packageInit header names) = some (.ok text)) (names' : List Name) :
    ∃ text', own.renderAt? place (.packageInit header names') = some (.ok text') := by
  unfold Templates.renderAt? at h ⊢
  split at h
  · exact ⟨text, h⟩
  · cases h
  · exact exists_renderBuiltIn? h names'

/-- A template that renders the entry of some classes renders that of any. -/
theorem exists_entry {name : Name}
    (h : renderTemplate own name (.packageInit header names) = .ok text) (names' : List Name) :
    ∃ text', renderTemplate own name (.packageInit header names') = .ok text' := by
  unfold renderTemplate at h ⊢
  obtain ⟨spelled, hspelled, h⟩ := bind_eq_ok.mp (mapError_eq_ok.mp h)
  cases hplace : templatePlace? spelled with
  | none =>
    rw [hplace] at h
    cases h
  | some place =>
    rw [hplace, Option.bind_some] at h
    cases hat : own.renderAt? place (.packageInit header names) with
    | none =>
      rw [hat] at h
      cases h
    | some rendered =>
      rw [hat] at h
      obtain ⟨text', htext'⟩ := exists_renderAt? (hat.trans (congrArg some h)) names'
      refine ⟨text', mapError_eq_ok.mpr ?_⟩
      rw [Templates.render, hspelled, ok_bind, hplace, Option.bind_some, htext']
      rfl

end Entry

/-! ### Single modules -/

section Rendering

variable {g g' : Generation} {options : RenderOptions} {own : Templates} {defs : CoreDefs}

theorem exists_renderSingleFile (h : g.Rearranged g')
    (order : (parentFirstPlans g).Perm (parentFirstPlans g')) {text : String}
    (hr : renderSingleFile g options own defs = .ok text) :
    ∃ text', renderSingleFile g' options own defs = .ok text' := by
  unfold renderSingleFile at hr ⊢
  simp only [bind_eq_ok, pure_eq_ok] at hr
  obtain ⟨core, hcore, classes, hclasses, functions, hfunctions, rfl⟩ := hr
  obtain ⟨classes', hclasses', _⟩ := exists_mapM_perm order hclasses
  rw [hcore, ok_bind, hclasses', ok_bind, utilities_congr h, hfunctions, ok_bind]
  exact ⟨_, rfl⟩

/-! ### Packages -/

/-- The entry of a class among the artifacts of a package. -/
def classArtifact (header runtimeModule : String) (p : ClassPlan) :
    Except RenderFailure (Name × String) := do
  let lines ← (classModuleLines header runtimeModule p).mapError valueFailure
  return ((classPath p.name.display : Name), join "\n" lines)

/-- The parts of a package that was rendered. -/
structure Rendered (g : Generation) (options : RenderOptions) (own : Templates) (defs : CoreDefs)
    (core functions entry : String) (classes : List (Name × String)) : Prop where
  core : renderTemplate own options.coreTemplate (.core defs true) = .ok core
  functions : renderTemplate own options.utilityTemplate
    (.utilities (utilities g options.runtimeModule true) true) = .ok functions
  classes : (parentFirstPlans g).mapM
    (classArtifact (headerComment g.registry) options.runtimeModule) = .ok classes
  entry : renderTemplate own options.initTemplate (.packageInit (headerComment g.registry)
    ((parentFirstPlans g).map (·.name))) = .ok entry

/-- The artifacts of a package, from its parts. -/
def artifactsOf (g : Generation) (core functions entry : String)
    (classes : List (Name × String)) : OrderedMap Name String :=
  .ofList ([(("core_defs.py" : Name), core), ("utility_functions.py", functions)] ++ classes ++
    [((gatheringPath : Name), join "\n" (classesInitLines (parentFirstPlans g))),
      ("__init__.py", entry)])

theorem renderPackage_eq_ok {artifacts : OrderedMap Name String} :
    renderPackage g options own defs = .ok artifacts ↔
      ∃ core functions entry classes, Rendered g options own defs core functions entry classes ∧
        artifacts = artifactsOf g core functions entry classes := by
  unfold renderPackage
  simp only [bind_eq_ok, pure_eq_ok]
  constructor
  · rintro ⟨core, hcore, functions, hfunctions, classes, hclasses, entry, hentry, rfl⟩
    exact ⟨core, functions, entry, classes, ⟨hcore, hfunctions, hclasses, hentry⟩, rfl⟩
  · rintro ⟨core, functions, entry, classes, h, rfl⟩
    exact ⟨core, h.core, functions, h.functions, classes, h.classes, entry, h.entry, rfl⟩

/-! ### What lies at a path -/

section Paths

variable {core functions entry : String} {classes : List (Name × String)}

/-- Behind the gathering modules, a path holds the class that lies there, or else a shared
module. -/
theorem find?_artifactsOf {path : String} (gathering : path ≠ gatheringPath)
    (init : path ≠ "__init__.py") :
    (artifactsOf g core functions entry classes).find? path =
      ((classes.reverse.find? (·.1 == (path : Name))).or
        ([(("utility_functions.py" : Name), functions), ("core_defs.py", core)].find?
          (·.1 == (path : Name)))).map (·.2) := by
  have apart {a : String} (h : path ≠ a) : ((a : Name) == (path : Name)) = false := by
    rw [Name.beq_text]
    exact decide_eq_false h.symm
  rw [artifactsOf, OrderedMap.find?_ofList, List.reverse_append, List.reverse_append,
    List.find?_append, List.find?_append]
  have last : [((gatheringPath : Name), join "\n" (classesInitLines (parentFirstPlans g))),
      ("__init__.py", entry)].reverse.find? (·.1 == (path : Name)) = none := by
    simp [apart gathering, apart init]
  rw [last, Option.none_or]
  rfl

theorem find?_gathering :
    (artifactsOf g core functions entry classes).find? gatheringPath =
      some (join "\n" (classesInitLines (parentFirstPlans g))) := by
  rw [artifactsOf, OrderedMap.find?_ofList, List.reverse_append, List.find?_append]
  have entryApart : (("__init__.py" : Name) == (gatheringPath : Name)) = false := by decide
  simp [entryApart]

theorem find?_entry :
    (artifactsOf g core functions entry classes).find? "__init__.py" = some entry := by
  rw [artifactsOf, OrderedMap.find?_ofList, List.reverse_append, List.find?_append]
  simp

end Paths

/-- Every class has its artifact. -/
theorem map_fst_of_classArtifact {header runtimeModule : String} {plans : List ClassPlan}
    {classes : List (Name × String)}
    (h : plans.mapM (classArtifact header runtimeModule) = .ok classes) :
    classes.map (·.1) = plans.map fun p => (classPath p.name.display : Name) := by
  refine map_eq_map (mapM_eq_ok.mp h) fun p _ artifact hp => ?_
  obtain ⟨lines, _, hp⟩ := bind_eq_ok.mp hp
  cases hp
  rfl

/-- Classes that are called by texts lie at different paths. -/
theorem apart_of_classArtifact {header runtimeModule : String} {plans : List ClassPlan}
    {classes : List (Name × String)}
    (h : plans.mapM (classArtifact header runtimeModule) = .ok classes)
    (distinct : plans.Pairwise fun p q => (p.name == q.name) = false)
    (texts : ∀ p ∈ plans, p.name.IsText) :
    classes.Pairwise fun a b => (a.1 == b.1) = false := by
  have paths : (plans.map fun p => (classPath p.name.display : Name)).Pairwise
      fun a b => (a == b) = false := by
    refine List.pairwise_map.mpr (distinct.imp_of_mem fun {p q} hp hq hpq => ?_)
    obtain ⟨s, hs⟩ := texts p hp
    obtain ⟨t, ht⟩ := texts q hq
    rw [hs, ht, Name.beq_text] at hpq ⊢
    exact decide_eq_false fun hpath => of_decide_eq_false hpq (classPath_injective hpath)
  rw [← map_fst_of_classArtifact h] at paths
  exact List.pairwise_map.mp paths

/-- Two packages have the same text at a path. -/
def SharedText (artifacts artifacts' : OrderedMap Name String) (path : String) : Prop :=
  ∃ text, artifacts.find? path = some text ∧ artifacts'.find? path = some text

/-- Two packages that differ in the order in which the gathering modules list the classes, and in
nothing else. -/
structure SamePackage (g g' : Generation) (options : RenderOptions) (own : Templates)
    (artifacts artifacts' : OrderedMap Name String) : Prop where
  core : SharedText artifacts artifacts' "core_defs.py"
  utilities : SharedText artifacts artifacts' "utility_functions.py"
  classes : ∀ c ∈ g.registry.classes, classPath c.name.display ≠ gatheringPath →
    SharedText artifacts artifacts' (classPath c.name.display)
  others : ∀ path : String, path ≠ gatheringPath → path ≠ "__init__.py" →
    artifacts'.find? path = artifacts.find? path
  order : (parentFirstPlans g).Perm (parentFirstPlans g')
  gathering : artifacts.find? gatheringPath =
      some (join "\n" (classesInitLines (parentFirstPlans g))) ∧
    artifacts'.find? gatheringPath = some (join "\n" (classesInitLines (parentFirstPlans g')))
  entry : ∃ text text', artifacts.find? "__init__.py" = some text ∧
    artifacts'.find? "__init__.py" = some text' ∧
    renderTemplate own options.initTemplate (.packageInit (headerComment g.registry)
      ((parentFirstPlans g).map (·.name))) = .ok text ∧
    renderTemplate own options.initTemplate (.packageInit (headerComment g.registry)
      ((parentFirstPlans g').map (·.name))) = .ok text'

theorem exists_rendered (h : g.Rearranged g')
    (order : (parentFirstPlans g).Perm (parentFirstPlans g')) {core functions entry : String}
    {classes : List (Name × String)}
    (hr : Rendered g options own defs core functions entry classes) :
    ∃ entry' classes', Rendered g' options own defs core functions entry' classes' ∧
      classes.Perm classes' := by
  obtain ⟨classes', hclasses', hperm⟩ := exists_mapM_perm order hr.classes
  obtain ⟨entry', hentry'⟩ := exists_entry hr.entry ((parentFirstPlans g').map (·.name))
  refine ⟨entry', classes', ⟨hr.core, ?_, ?_, ?_⟩, hperm⟩
  · rw [utilities_congr h]
    exact hr.functions
  · rw [headerComment_congr h.registry]
    exact hclasses'
  · rw [headerComment_congr h.registry]
    exact hentry'

theorem samePackage_of_rendered (h : g.Rearranged g')
    (order : (parentFirstPlans g).Perm (parentFirstPlans g'))
    (planned : ∀ c ∈ g.registry.classes, ∃ p ∈ parentFirstPlans g, p.name = c.name)
    (distinct : (parentFirstPlans g).Pairwise fun p q => (p.name == q.name) = false)
    (texts : ∀ p ∈ parentFirstPlans g, p.name.IsText)
    {core functions entry entry' : String} {classes classes' : List (Name × String)}
    (hr : Rendered g options own defs core functions entry classes)
    (hr' : Rendered g' options own defs core functions entry' classes')
    (perm : classes.Perm classes') :
    SamePackage g g' options own (artifactsOf g core functions entry classes)
      (artifactsOf g' core functions entry' classes') := by
  have others (path : String) (gathering : path ≠ gatheringPath) (init : path ≠ "__init__.py") :
      (artifactsOf g' core functions entry' classes').find? path =
        (artifactsOf g core functions entry classes).find? path := by
    have apart := apart_of_classArtifact hr.classes distinct texts
    have reversed : classes.reverse.Perm classes'.reverse :=
      ((List.reverse_perm _).trans perm).trans (List.reverse_perm _).symm
    rw [find?_artifactsOf gathering init, find?_artifactsOf gathering init,
      find?_perm reversed]
    refine (apart.perm (List.reverse_perm _).symm fun hab => BEq.comm.trans hab).imp ?_
    intro a b hab
    by_cases ha : (a.1 == (path : Name)) = true
    · refine .inr (Bool.eq_false_iff.mpr fun hb => ?_)
      rw [BEq.trans ha (BEq.symm hb)] at hab
      cases hab
    · exact .inl (Bool.eq_false_iff.mpr ha)
  have shared {path : String} (gathering : path ≠ gatheringPath) (init : path ≠ "__init__.py")
      (found : ((artifactsOf g core functions entry classes).find? path).isSome) :
      SharedText (artifactsOf g core functions entry classes)
        (artifactsOf g' core functions entry' classes') path := by
    obtain ⟨text, htext⟩ := Option.isSome_iff_exists.mp found
    exact ⟨text, htext, (others path gathering init).trans htext⟩
  constructor
  case core =>
    refine shared (by decide) (by decide) ?_
    rw [find?_artifactsOf (by decide) (by decide)]
    cases classes.reverse.find? (·.1 == ("core_defs.py" : Name)) <;> rfl
  case utilities =>
    refine shared (by decide) (by decide) ?_
    rw [find?_artifactsOf (by decide) (by decide)]
    cases classes.reverse.find? (·.1 == ("utility_functions.py" : Name)) <;> rfl
  case classes =>
    intro c hc gathering
    have init : classPath c.name.display ≠ "__init__.py" := classPath_ne (by decide) _
    obtain ⟨p, hp, hname⟩ := planned c hc
    have listed : (classPath c.name.display : Name) ∈ classes.map (·.1) := by
      rw [map_fst_of_classArtifact hr.classes, ← hname]
      exact List.mem_map.mpr ⟨p, hp, rfl⟩
    obtain ⟨artifact, hmem, hpath⟩ := List.mem_map.mp listed
    have found : (classes.reverse.find? (·.1 == (classPath c.name.display : Name))).isSome :=
      List.find?_isSome.mpr ⟨artifact, List.mem_reverse.mpr hmem, by rw [hpath]; exact BEq.rfl⟩
    refine shared gathering init ?_
    obtain ⟨e, he⟩ := Option.isSome_iff_exists.mp found
    rw [find?_artifactsOf gathering init, he]
    rfl
  case others => exact others
  case order => exact order
  case gathering => exact ⟨find?_gathering, find?_gathering⟩
  case entry =>
    have entryOf' := hr'.entry
    rw [headerComment_congr h.registry] at entryOf'
    exact ⟨entry, entry', find?_entry, find?_entry, hr.entry, entryOf'⟩

theorem exists_render (h : g.Rearranged g')
    (order : (parentFirstPlans g).Perm (parentFirstPlans g')) {artifacts : OrderedMap Name String}
    (hr : render g options own = .ok artifacts) :
    ∃ artifacts', render g' options own = .ok artifacts' := by
  unfold render at hr ⊢
  rw [coreDefs_congr h]
  obtain ⟨defs, hdefs, hr⟩ := bind_eq_ok.mp hr
  rw [hdefs, ok_bind]
  split at hr
  · next single =>
    rw [if_pos single]
    obtain ⟨text, htext, hr⟩ := bind_eq_ok.mp hr
    obtain ⟨text', htext'⟩ := exists_renderSingleFile h order htext
    obtain ⟨name, hname, _⟩ := bind_eq_ok.mp hr
    rw [htext', ok_bind, hname, ok_bind]
    exact ⟨_, rfl⟩
  · next single =>
    rw [if_neg single]
    obtain ⟨core, functions, entry, classes, hr, _⟩ := renderPackage_eq_ok.mp hr
    obtain ⟨entry', classes', hr', _⟩ := exists_rendered h order hr
    exact ⟨_, renderPackage_eq_ok.mpr ⟨core, functions, entry', classes', hr', rfl⟩⟩

theorem samePackage_of_render {d : Declarations} {r : Registry} {flags : Flags}
    (hbuild : Registry.build d = .ok r) (hg : r.generate flags = .ok g)
    (texts : ∀ c ∈ r.classes, c.name.IsText) (h : g.Rearranged g')
    (order : (parentFirstPlans g).Perm (parentFirstPlans g'))
    {artifacts artifacts' : OrderedMap Name String} (package : options.singleFile = false)
    (hr : render g options own = .ok artifacts) (hr' : render g' options own = .ok artifacts') :
    SamePackage g g' options own artifacts artifacts' := by
  unfold render at hr hr'
  rw [coreDefs_congr h] at hr'
  obtain ⟨defs, hdefs, hr⟩ := bind_eq_ok.mp hr
  rw [hdefs, ok_bind] at hr'
  rw [package] at hr hr'
  obtain ⟨core, functions, entry, classes, rendered, rfl⟩ := renderPackage_eq_ok.mp hr
  obtain ⟨entry', classes', rendered', perm⟩ := exists_rendered h order rendered
  have made := renderPackage_eq_ok.mpr ⟨core, functions, entry', classes', rendered', rfl⟩
  cases hr'.symm.trans made
  obtain ⟨planned, distinct, declared⟩ := planned_of_generate hbuild hg
  exact samePackage_of_rendered h order planned distinct (fun p hp => texts _ (declared p hp))
    rendered rendered' perm

end Rendering

/-! ### Any order of the classes -/

/-- A gate with an enumeration, and a drawbridge, which is a gate. -/
def gates : List Json :=
  [.obj [("name", .str "Gate"),
     ("methods", .arr [.obj [("name", .str "mode"), ("hash", .int 1),
       ("return_value", .obj [("type", .str "enum::Gate.Mode")])]]),
     ("enums", .arr [.obj [("name", .str "Mode"),
       ("values", .arr [.obj [("name", .str "OPEN"), ("value", .int 1)]])]])],
   .obj [("name", .str "Drawbridge"), ("inherits", .str "Gate")]]

end Package

end EngineBindings
