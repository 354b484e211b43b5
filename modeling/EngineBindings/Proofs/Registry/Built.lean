import EngineBindings.Proofs.Name
import EngineBindings.Registry.Build

/-! Registries that were built. -/
namespace EngineBindings

open Attempt

/-- A class with methods and properties alone. -/
def ClassDef.declaring (name : Name) (parent : Option Name) (methods : List MethodDef)
    (properties : List PropertyDef) : ClassDef :=
  { name, parent, methods, properties
    enums := []
    constants := []
    isRefcounted := false
    isInstantiable := true
    apiType := .str "core" }

namespace Declarations

/-- Declarations of classes alone. -/
def ofClasses (classes : List ClassDef) : Declarations :=
  { classes
    profile := ⟨"float_64", .w64, .w64, .w64⟩
    builtins := []
    sizes := .empty
    offsets := .empty
    globalEnums := []
    utilities := []
    natives := []
    header := .null }

/-- The registry of declarations whose header has been read. -/
def registry (d : Declarations) (header : OrderedMap Name Json) : Registry :=
  { header
    profile := d.profile
    classes := d.classes
    builtins := d.builtins
    globalEnums := d.globalEnums
    utilities := d.utilities
    natives := d.natives
    sizes := d.sizes
    offsets := d.offsets
    enums := d.enumTable }

end Declarations

namespace Registry

/-- A registry of classes alone. -/
def ofClasses (classes : List ClassDef) : Registry :=
  { classes
    profile := ⟨"float_64", .w64, .w64, .w64⟩
    builtins := []
    globalEnums := []
    utilities := []
    natives := []
    header := .empty
    sizes := .empty
    offsets := .empty
    enums := .empty }

/-- Classes pass the check exactly when no two of them share a name, nor one of them with what was
seen before. -/
theorem checkDistinct_eq_ok {seen : List Name} {classes : List ClassDef} :
    Declarations.checkDistinct seen classes = .ok () ↔
      (∀ c ∈ classes, seen.contains c.name = false) ∧
        classes.Pairwise fun a b => (a.name == b.name) = false := by
  induction classes generalizing seen with
  | nil => simp [Declarations.checkDistinct]
  | cons c rest ih =>
    unfold Declarations.checkDistinct
    rw [List.forall_mem_cons, List.pairwise_cons]
    by_cases hseen : seen.contains c.name
    · simp [hseen]
    · rw [if_neg hseen, ih]
      simp only [List.contains_cons, Bool.or_eq_false_iff]
      constructor
      · rintro ⟨apart, distinct⟩
        exact ⟨⟨by simpa using hseen, fun x hx => (apart x hx).2⟩,
          fun x hx => BEq.comm.trans (apart x hx).1, distinct⟩
      · rintro ⟨⟨_, others⟩, apart, distinct⟩
        exact ⟨fun x hx => ⟨BEq.comm.trans (apart x hx), others x hx⟩, distinct⟩

/-- A class passes the check exactly when its parent, if it has one, is declared under a name that
something can be looked up by. -/
theorem checkParent_eq_ok {classes : List ClassDef} {c : ClassDef} :
    Declarations.checkParent classes c = .ok () ↔
      ∀ p ∈ c.parent, p.isComposite = false ∧ ∃ c' ∈ classes, (c'.name == p) = true := by
  unfold Declarations.checkParent
  cases hp : c.parent with
  | none => exact ⟨fun _ => nofun, fun _ => rfl⟩
  | some parent =>
    simp only [bind_eq_ok, mapError_eq_ok, Name.keyed_eq_ok, Option.mem_some_iff,
      forall_eq']
    constructor
    · rintro ⟨_, ⟨plain, rfl⟩, h⟩
      split at h
      · next declared => exact ⟨plain, List.any_eq_true.mp declared⟩
      · cases h
    · rintro ⟨plain, declared⟩
      exact ⟨parent, ⟨plain, rfl⟩, if_pos (List.any_eq_true.mpr declared)⟩

/-- What building a registry checks of its declarations, and the header that it reads. -/
structure Passes (d : Declarations) (header : OrderedMap Name Json) : Prop where
  distinct : d.classes.Pairwise fun a b => (a.name == b.name) = false
  parents : ∀ c ∈ d.classes, Declarations.checkParent d.classes c = .ok ()
  globals : d.globalEnums.any (·.name.isComposite) = false
  header : Declarations.headerEntries d.header = .ok header
  chains : ∀ c ∈ d.classes, ∃ line, ancestorsOf d.classes c.name = .ok line

theorem build_eq_ok {d : Declarations} {r : Registry} :
    build d = .ok r ↔ ∃ header, Passes d header ∧ r = d.registry header := by
  unfold build
  constructor
  · intro h
    obtain ⟨_, hdistinct, h⟩ := bind_eq_ok.mp h
    obtain ⟨_, hparents, h⟩ := bind_eq_ok.mp h
    split at h
    · cases h
    · next hglobals =>
      obtain ⟨header, hheader, h⟩ := bind_eq_ok.mp h
      obtain ⟨_, hchains, h⟩ := bind_eq_ok.mp h
      refine ⟨header, ?_, (pure_eq_ok.mp h).symm⟩
      constructor
      case distinct => exact (checkDistinct_eq_ok.mp (mapError_eq_ok.mp hdistinct)).2
      case parents => exact forM_eq_ok hparents
      case globals => exact Bool.eq_false_iff.mpr hglobals
      case header => exact mapError_eq_ok.mp hheader
      case chains =>
        intro c hc
        obtain ⟨line, hline, _⟩ := map_eq_ok.mp (forM_eq_ok hchains c hc)
        exact ⟨line, mapError_eq_ok.mp hline⟩
  · rintro ⟨header, h, rfl⟩
    have distinct : Declarations.checkDistinct [] d.classes = .ok () :=
      checkDistinct_eq_ok.mpr ⟨fun _ _ => rfl, h.distinct⟩
    have chains : (d.classes.forM fun c =>
        (ancestorsOf d.classes c.name).mapError Fault.schema |>.map fun _ => ()) = .ok () := by
      refine forM_of_forall fun c hc => ?_
      obtain ⟨line, hline⟩ := h.chains c hc
      rw [hline]
      rfl
    rw [distinct, forM_of_forall h.parents, h.globals, h.header, chains]
    rfl

/-- What a built registry keeps of its declarations. -/
structure Keeps (d : Declarations) (r : Registry) : Prop where
  profile : r.profile = d.profile
  classes : r.classes = d.classes
  builtins : r.builtins = d.builtins
  utilities : r.utilities = d.utilities
  sizes : r.sizes = d.sizes

theorem keeps_of_build {d : Declarations} {r : Registry} (h : build d = .ok r) : Keeps d r := by
  obtain ⟨header, _, rfl⟩ := build_eq_ok.mp h
  exact ⟨rfl, rfl, rfl, rfl, rfl⟩

/-- No two classes share a name. -/
theorem distinct_of_build {d : Declarations} {r : Registry} (h : build d = .ok r) :
    r.classes.Pairwise fun a b => (a.name == b.name) = false := by
  obtain ⟨header, passes, rfl⟩ := build_eq_ok.mp h
  exact passes.distinct

/-- No two classes share a name, so that every class is found by its own. -/
theorem class?_of_mem {d : Declarations} {r : Registry} {c : ClassDef} (h : build d = .ok r)
    (hc : c ∈ r.classes) : r.class? c.name = some c :=
  Name.find?_of_distinct (distinct_of_build h) hc

end Registry

end EngineBindings
