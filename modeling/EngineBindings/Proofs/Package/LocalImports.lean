import EngineBindings.Proofs.Package.RelativeImports
import EngineBindings.Proofs.Plan.Requirements
import EngineBindings.Proofs.Registry.ParentFirst
import EngineBindings.Proofs.Schema.Resolved

/-! Imports of classes inside functions.

A function imports the classes that its code requires when it is called, from wherever modules of
classes lie as seen from its own module. Whatever a generation requires from a class names a
declared class (`class?_of_requires`), and every declared class has a module
(`exists_classModule`), so that none of these imports leads nowhere. -/
namespace EngineBindings

open Attempt

namespace Registry

variable {r : Registry} {flags : Flags}

/-! ### Required classes -/

theorem class?_of_enumOwner {name owner : String} (h : r.enumOwner? name = some owner) :
    (r.class? owner).isSome := by
  simp only [enumOwner?] at h
  split at h
  · next hclass =>
    cases h
    exact (Bool.and_eq_true_iff.mp hclass).2
  · cases h

/-- A class that something planned requires is declared. -/
theorem class?_of_requires {configuration : String} {document : Json} {g : Generation}
    {q : Requirement} (h : ofDocument configuration document = .ok r)
    (hg : r.generate flags = .ok g) (hq : g.Requires q) (hclass : q.origin = .class) :
    (r.class? q.symbol).isSome := by
  obtain ⟨m, hm, hruntime | ⟨type, htype, needs⟩⟩ := stems_of_requires hg hq
  · rw [hclass] at hruntime
    cases hruntime
  · generalize hleaf : type.leaf = leaf at needs
    cases needs with
    | object name => exact class?_of_leaf h hm htype hleaf
    | owner _ howner => exact class?_of_enumOwner howner
    | enumeration => cases hclass
    | struct => cases hclass

/-! ### Plans and modules of classes -/

theorem cls_of_planClass {c : ClassDef} {p : ClassPlan} (h : r.planClass flags c = .ok p) :
    p.cls = c := by
  obtain ⟨_, _, _, _, _, _, rfl⟩ := planClass_eq_ok.mp h
  rfl

/-- Every plan is the plan of a declared class. -/
theorem mem_classes_of_plan {g : Generation} {p : ClassPlan} (h : r.generate flags = .ok g)
    (hp : p ∈ Package.parentFirstPlans g) : p.cls ∈ r.classes := by
  obtain ⟨c, _, hfound⟩ := List.mem_filterMap.mp hp
  obtain ⟨c', hc', hplan⟩ := exists_left (generates_of_generate h).plans
    (List.mem_of_find?_eq_some hfound)
  rw [cls_of_planClass hplan]
  exact hc'

/-- Every declared class has a plan that is emitted. -/
theorem exists_plan {g : Generation} {name : String} (h : r.generate flags = .ok g)
    (hclass : (r.class? name).isSome) :
    ∃ p ∈ Package.parentFirstPlans g, p.name = (name : Name) := by
  obtain ⟨c, hc, hname⟩ := List.find?_isSome.mp hclass
  have hname : c.name = name := Name.eq_text_of_beq (by simpa using hname)
  obtain ⟨c', hc', hsame⟩ := exists_parentFirst hc
  have hname' : c'.name = name := Name.eq_text_of_beq (by rwa [hname] at hsame)
  obtain ⟨p, hp, hplan⟩ := exists_right (generates_of_generate h).plans
    (mem_classes_of_parentFirst hc')
  have named : (p.name == (name : Name)) = true := by
    rw [ClassPlan.name, cls_of_planClass hplan, hname']
    exact BEq.rfl
  cases hfound : g.plans.find? (·.name == (name : Name)) with
  | none =>
    have absent := List.find?_eq_none.mp hfound p hp
    exact absurd named absent
  | some found =>
    refine ⟨found, List.mem_filterMap.mpr ⟨c', ?_, ?_⟩, ?_⟩
    · rwa [(generates_of_generate h).registry]
    · rwa [hname']
    · have same := List.find?_some hfound
      exact Name.eq_text_of_beq same

end Registry

namespace Package

variable {g : Generation} {runtimeModule : String} {modules : List EmittedModule}

/-- Every plan has its module among those of a package. -/
theorem exists_classModule (h : packageModules g runtimeModule = .ok modules) {p : ClassPlan}
    (hp : p ∈ parentFirstPlans g) :
    ∃ m ∈ modules, classModule (headerComment g.registry) runtimeModule p = .ok m := by
  obtain ⟨defs, _, h⟩ := bind_eq_ok.mp h
  obtain ⟨classes, hclasses, h⟩ := bind_eq_ok.mp h
  cases h
  obtain ⟨m, hm, hplan⟩ := exists_right (mapM_eq_ok.mp (mapError_eq_ok.mp hclasses)) hp
  exact ⟨m, List.mem_append_left _ (List.mem_append_right _ hm), hplan⟩

/-! ### Imports inside functions -/

/-- Where the members of a class stand in a package. -/
def classSite (p : ClassPlan) : Site :=
  ⟨true, ".", p.name :: p.parent.toList⟩

/-- Where the methods of a builtin stand in a package. -/
def builtinSite : Site :=
  ⟨true, ".classes.", []⟩

/-- The import of a class inside a function of a package. -/
inductive ImportsLocally (g : Generation) (line : String) : Prop
  | member {p : ClassPlan} {x : Member} (hp : p ∈ g.plans) (hx : x ∈ p.members)
      (h : line ∈ (classSite p).imports x.requires)
  | property {p : ClassPlan} {a : PropertyAccessor} (hp : p ∈ g.plans) (ha : a ∈ p.properties)
      (h : line ∈ (classSite p).imports a.requires)
  | utility {b : MethodBinding} (hb : b ∈ g.utilities)
      (h : line ∈ classImports ".classes." [] b.requires)
  | builtin {p : BuiltinPlan} {b : MethodBinding} (hp : p ∈ g.builtins) (hb : b ∈ p.bindings)
      (h : line ∈ builtinSite.imports b.requires)

theorem mem_sortDistinct {texts : List String} {text : String} :
    text ∈ Text.sortDistinct texts ↔ text ∈ texts := by
  rw [Text.sortDistinct, Text.sortTexts, List.mem_mergeSort, List.mem_eraseDups]

theorem mem_symbolsFrom {origin : Origin} {requires : List Requirement} {symbol : String} :
    symbol ∈ symbolsFrom origin requires ↔ ⟨origin, symbol⟩ ∈ requires := by
  rw [symbolsFrom, mem_sortDistinct, List.mem_map]
  constructor
  · rintro ⟨q, hq, rfl⟩
    obtain ⟨hq, horigin⟩ := List.mem_filter.mp hq
    rwa [← of_decide_eq_true horigin]
  · intro h
    exact ⟨_, List.mem_filter.mpr ⟨h, decide_eq_true rfl⟩, rfl⟩

theorem mem_runtimeSymbols {base : List String} {requires : List Requirement} {symbol : String} :
    symbol ∈ runtimeSymbols base requires ↔ symbol ∈ base ∨ ⟨.runtime, symbol⟩ ∈ requires := by
  rw [runtimeSymbols, mem_sortDistinct, List.mem_append, mem_symbolsFrom]

theorem mem_of_classImports {package line : String} {skip : List Name}
    {requires : List Requirement} (h : line ∈ classImports package skip requires) :
    ∃ name, ⟨.class, name⟩ ∈ requires ∧ line = importLine (package ++ name) [name] := by
  obtain ⟨name, hname, rfl⟩ := List.mem_map.mp h
  exact ⟨name, mem_symbolsFrom.mp (List.mem_filter.mp hname).1, rfl⟩

/-- An import inside a function is the import of a required class, from the package of classes or
from beside the module that it stands in. -/
theorem requires_of_importsLocally {line : String} (h : ImportsLocally g line) :
    ∃ name, g.Requires ⟨.class, name⟩ ∧
      (line = importLine ("." ++ name) [name] ∨
        line = importLine (".classes." ++ name) [name]) := by
  cases h with
  | member hp hx h =>
    obtain ⟨name, hname, rfl⟩ := mem_of_classImports h
    exact ⟨name, .member hp hx hname, .inl rfl⟩
  | property hp ha h =>
    obtain ⟨name, hname, rfl⟩ := mem_of_classImports h
    exact ⟨name, .property hp ha hname, .inl rfl⟩
  | utility hb h =>
    obtain ⟨name, hname, rfl⟩ := mem_of_classImports h
    exact ⟨name, .utility hb hname, .inr rfl⟩
  | builtin hp hb h =>
    obtain ⟨name, hname, rfl⟩ := mem_of_classImports h
    exact ⟨name, .builtin hp hb hname, .inr rfl⟩

end Package

end EngineBindings

namespace EngineBindings.Package

open Attempt

/-! ### The order in which classes are emitted

Plans are taken in the order of classes with parents first, each by the name of its class. Names
are distinct in a built registry, so that every plan is taken, and taken once
(`parentFirstPlans_perm`), behind the plan of its parent. -/

variable {d : Declarations} {r : Registry} {flags : Flags} {g : Generation}

theorem map_cls_of_generate (hg : r.generate flags = .ok g) : g.plans.map (·.cls) = r.classes := by
  have same := map_eq_map (f := id) (g := ClassPlan.cls) (Registry.generates_of_generate hg).plans
    fun c _ p hp => Registry.cls_of_planClass hp
  rw [same, List.map_id]

theorem distinct_plans (h : Registry.build d = .ok r) (hg : r.generate flags = .ok g) :
    g.plans.Pairwise fun p q => (p.name == q.name) = false := by
  have distinct := Registry.distinct_of_build h
  rw [← map_cls_of_generate hg] at distinct
  exact List.pairwise_map.mp distinct

theorem filterMap_find?_plans (h : Registry.build d = .ok r) (hg : r.generate flags = .ok g) :
    (r.classes.filterMap fun c => g.plans.find? (·.name == c.name)) = g.plans := by
  rw [← map_cls_of_generate hg, List.filterMap_map]
  refine (List.filterMap_congr (g := some) fun p hp => ?_).trans List.filterMap_some
  exact Name.find?_of_distinct (distinct_plans h hg) hp

/-- Every plan is emitted once. -/
theorem parentFirstPlans_perm (h : Registry.build d = .ok r) (hg : r.generate flags = .ok g) :
    (parentFirstPlans g).Perm g.plans := by
  rw [parentFirstPlans, (Registry.generates_of_generate hg).registry]
  refine ((Registry.parentFirst_perm h).filterMap _).trans (List.Perm.of_eq ?_)
  exact filterMap_find?_plans h hg

/-- Plans are emitted in the order of classes with parents first. -/
theorem map_cls_parentFirstPlans (h : Registry.build d = .ok r) (hg : r.generate flags = .ok g) :
    (parentFirstPlans g).map (·.cls) = r.parentFirst := by
  rw [parentFirstPlans, (Registry.generates_of_generate hg).registry, List.map_filterMap]
  refine (List.filterMap_congr (g := some) fun c hc => ?_).trans List.filterMap_some
  have hc := Registry.mem_classes_of_parentFirst hc
  rw [← map_cls_of_generate hg] at hc
  obtain ⟨p, hp, rfl⟩ := List.mem_map.mp hc
  rw [show g.plans.find? (·.name == p.cls.name) = some p from
    Name.find?_of_distinct (distinct_plans h hg) hp]
  rfl

/-- What building a registry and planning its classes have settled about their order. -/
theorem planned_of_generate (h : Registry.build d = .ok r) (hg : r.generate flags = .ok g) :
    (∀ c ∈ g.registry.classes, ∃ p ∈ parentFirstPlans g, p.name = c.name) ∧
      ((parentFirstPlans g).Pairwise fun p q => (p.name == q.name) = false) ∧
      ∀ p ∈ parentFirstPlans g, p.cls ∈ r.classes := by
  have order := parentFirstPlans_perm h hg
  refine ⟨fun c hc => ?_, ?_, fun p hp => Registry.mem_classes_of_plan hg hp⟩
  · rw [(Registry.generates_of_generate hg).registry, ← map_cls_of_generate hg] at hc
    obtain ⟨p, hp, rfl⟩ := List.mem_map.mp hc
    exact ⟨p, order.mem_iff.mpr hp, rfl⟩
  · exact (distinct_plans h hg).perm order.symm fun hab => BEq.comm.trans hab

/-- A class with a parent is emitted behind it. -/
theorem exists_parent_before (h : Registry.build d = .ok r) (hg : r.generate flags = .ok g)
    {before after : List ClassPlan} {p : ClassPlan} (hp : parentFirstPlans g = before ++ p :: after)
    {parent : Name} (hparent : p.parent = some parent) :
    ∃ above ∈ before, (above.name == parent) = true := by
  have order := map_cls_parentFirstPlans h hg
  rw [hp, List.map_append, List.map_cons] at order
  obtain ⟨c, hc, hname⟩ :=
    (Registry.parentsFirst_of_build h).exists_before order.symm hparent
  obtain ⟨above, habove, rfl⟩ := List.mem_map.mp hc
  exact ⟨above, habove, hname⟩

end EngineBindings.Package
