import EngineBindings.Proofs.Attempt
import EngineBindings.Target.Default

/-! Where the symbols that a target requires come from.

A target requires symbols of the runtime module, and besides them what the type inside all typed
arrays is known by: an object its class, an enumeration the class that it belongs to or its own
name among the core definitions, a structure its name there (`needs_of_target`). -/
namespace EngineBindings

open Attempt

namespace TypeRef

/-- The type inside all typed arrays. -/
def leaf : TypeRef → TypeRef
  | typedArray element => element.leaf
  | type => type

/-- The name of an enumeration or a bitfield. -/
def enumeration? : TypeRef → Option String
  | enum name => some name
  | bitfield name => some name
  | _ => none

end TypeRef

/-- The types of a method's arguments and of its result. -/
def MethodDef.types (m : MethodDef) : List TypeRef :=
  m.arguments.map (·.type) ++ m.result?.toList

namespace Registry

variable {r : Registry}

/-- Everything that can be called, as the schema declares it. -/
def callables (r : Registry) : List MethodDef :=
  r.classes.flatMap (·.methods) ++ r.builtins.flatMap (·.methods) ++ r.utilities.map (·.asMethod)

/-- A symbol from outside the runtime module that code needs to name a type. -/
inductive Needs (r : Registry) : TypeRef → Requirement → Prop
  | object (name : String) : Needs r (.object name) ⟨.class, name⟩
  | owner {type : TypeRef} {name owner : String} (htype : type.enumeration? = some name)
      (howner : r.enumOwner? name = some owner) : Needs r type ⟨.class, owner⟩
  | enumeration {type : TypeRef} {name : String} (htype : type.enumeration? = some name)
      (howner : r.enumOwner? name = none) : Needs r type ⟨.core, r.enumHostName name⟩
  | struct {name : String} (hstruct : r.isStruct name = true) :
      Needs r (.value name) ⟨.core, builtinHostName name⟩

/-- A target requires no more of its own than its one symbol. -/
theorem eq_of_mem_ownRequirements {t : Target} {q : Requirement} (h : q ∈ t.ownRequirements) :
    ∃ symbol, t.symbol? = some symbol ∧ t.origin ≠ .language ∧ q = ⟨t.origin, symbol⟩ := by
  unfold Target.ownRequirements at h
  split at h
  · next symbol hsymbol =>
    split at h
    · cases h
    · next hgiven =>
      refine ⟨symbol, hsymbol, ?_, List.mem_singleton.mp h⟩
      simp only [Bool.or_eq_true, decide_eq_true_eq, not_or] at hgiven
      exact hgiven.2
  · cases h

/-- What naming an enumeration requires, by the class that it belongs to. -/
theorem needs_of_enumeration {type : TypeRef} {name symbol : String} {q : Requirement}
    (htype : type.enumeration? = some name)
    (hsymbol : some ((r.enumOwner? name).getD (r.enumHostName name)) = some symbol)
    (hq : q = ⟨if (r.enumOwner? name).isSome then .class else .core, symbol⟩) :
    r.Needs type q := by
  cases hsymbol
  subst hq
  cases howner : r.enumOwner? name with
  | none => exact .enumeration htype howner
  | some owner => exact .owner htype howner

theorem needs_of_valueTarget {name : String} {q : Requirement}
    (h : q ∈ (r.valueTarget name).requirements) :
    q.origin = .runtime ∨ r.Needs (.value name) q := by
  unfold valueTarget at h
  split at h
  · obtain ⟨symbol, _, _, rfl⟩ := eq_of_mem_ownRequirements h
    exact .inl rfl
  · split at h
    · obtain ⟨symbol, _, _, rfl⟩ := eq_of_mem_ownRequirements h
      exact .inl rfl
    · obtain ⟨symbol, hsymbol, _, rfl⟩ := eq_of_mem_ownRequirements h
      cases hsymbol
      cases hstruct : r.isStruct name with
      | false => exact .inl rfl
      | true => exact .inr (.struct hstruct)

/-- No primitive requires anything. -/
theorem requirements_of_primitiveTarget {type : Primitive} {tag : Json} {use : TypeUse}
    {t : Target} (h : r.primitiveTarget type tag use = .ok t) : t.requirements = [] := by
  cases type with
  | void | bool =>
    cases h
    rfl
  | int | float | real =>
    obtain ⟨width, _, rfl⟩ := map_eq_ok.mp h
    rfl

/-- What a target requires comes from the runtime module or from the type inside all typed
arrays. -/
theorem needs_of_target {type : TypeRef} {tag : Json} {use : TypeUse} {t : Target}
    {q : Requirement} (h : r.target type tag use = .ok t) (hq : q ∈ t.requirements) :
    q.origin = .runtime ∨ r.Needs type.leaf q := by
  induction type generalizing tag t with
  | primitive type =>
    rw [requirements_of_primitiveTarget h] at hq
    cases hq
  | value name =>
    cases h
    exact needs_of_valueTarget hq
  | object name =>
    cases h
    obtain ⟨symbol, hsymbol, _, rfl⟩ := eq_of_mem_ownRequirements hq
    cases hsymbol
    exact .inr (.object name)
  | enum name =>
    cases h
    obtain ⟨symbol, hsymbol, _, hq⟩ := eq_of_mem_ownRequirements hq
    exact .inr (needs_of_enumeration rfl hsymbol hq)
  | bitfield name =>
    cases h
    obtain ⟨symbol, hsymbol, _, hq⟩ := eq_of_mem_ownRequirements hq
    exact .inr (needs_of_enumeration rfl hsymbol hq)
  | typedArray element ih =>
    obtain ⟨inner, hinner, rfl⟩ := map_eq_ok.mp h
    rcases List.mem_append.mp hq with hown | helement
    · obtain ⟨symbol, _, _, rfl⟩ := eq_of_mem_ownRequirements hown
      exact .inl rfl
    · exact ih hinner helement
  | pointer spelling =>
    cases h
    cases hq
  | bare name => cases h

end Registry

end EngineBindings

/-! ### Registries in which names mean the same

What a type is called in emitted code, and whether the interface copies it, follows from which
names are classes and from the enumerations and builtins that are found by their names. Registries
may differ in the order of their classes, in what a class declares or in the sizes of their builtins
and still agree on all of that. One of them may even have more classes than the other: then names
mean the same as far as they are asked for. -/
namespace EngineBindings.Registry

open EngineBindings.Text

/-- Two registries that find the same under every name of an enumeration or a builtin and, for all
references to enumerations that are `asked` for, have a class for the owner both or neither. -/
structure SameNames (asked : String → Prop) (r r' : Registry) : Prop where
  hasClass : ∀ name, asked name →
    (r'.class? (splitOwner name).1).isSome = (r.class? (splitOwner name).1).isSome
  enum? : r'.enum? = r.enum?
  builtin? : r'.builtin? = r.builtin?

namespace SameNames

variable {asked : String → Prop} {r r' : Registry} (h : SameNames asked r r')
include h

theorem isStruct : r'.isStruct = r.isStruct := by
  funext name
  rw [Registry.isStruct, Registry.isStruct, h.builtin?]

theorem enumOwner? {name : String} (hname : asked name) :
    r'.enumOwner? name = r.enumOwner? name := by
  simp only [Registry.enumOwner?, h.hasClass name hname]

theorem enumHostName {name : String} (hname : asked name) :
    r'.enumHostName name = r.enumHostName name := by
  have lacksClass : (r'.class? (splitOwner name).1).isNone =
      (r.class? (splitOwner name).1).isNone := by
    rw [← Option.not_isSome, ← Option.not_isSome, h.hasClass name hname]
  simp only [Registry.enumHostName, lacksClass]

theorem enumDefault {name : String} (hname : asked name) :
    r'.enumDefault name = r.enumDefault name := by
  rw [Registry.enumDefault, Registry.enumDefault, h.enumHostName hname, h.enum?]

theorem valueTarget : r'.valueTarget = r.valueTarget := by
  funext name
  rw [Registry.valueTarget, Registry.valueTarget, h.isStruct]

theorem needsCopy : r'.needsCopy = r.needsCopy := by
  funext type
  cases type <;> simp only [Registry.needsCopy, h.isStruct]

end SameNames

end EngineBindings.Registry
