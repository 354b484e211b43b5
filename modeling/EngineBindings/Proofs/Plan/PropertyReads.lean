import EngineBindings.Proofs.Plan.Accessor
import EngineBindings.Proofs.Plan.Supplied

/-! The names that properties read.

The accessors of a property read their object, the value that is set, and what its index is made
with, which is supplied (`Registry.readsAccessors_of_propertyAccessor`). -/
namespace EngineBindings

open Attempt EngineBindings.Code EngineBindings.Text

/-! ### Properties -/

namespace Registry

variable {r : Registry}

/-- An index is a number, or made of one with the name of the getter's argument type. -/
theorem reads_propertyIndex (variant : r.class? ("Variant" : String) = none) {p : PropertyDef}
    {getter : MethodDef} (plain : ∀ type ∈ getter.types, type.IsPlain) {e : Expr}
    {needs : List Requirement} (h : r.propertyIndex p getter = .ok (some (e, needs))) :
    ∀ name ∈ e.reads, name ∈ languageNames ∨ ∃ q ∈ needs, q.Supplies name := by
  unfold propertyIndex at h
  split at h
  · next number a rest _ harguments =>
    obtain ⟨target, htarget, h⟩ := bind_eq_ok.mp h
    have argument : a.type ∈ getter.types := by
      rw [MethodDef.types, harguments]
      exact List.mem_cons_self
    split at h
    · cases h
      exact List.forall_mem_nil _
    · cases h
      intro name hname
      have hname : name ∈ [root target.host] := hname
      rw [List.mem_singleton.mp hname]
      exact supplied_of_names variant (plain _ argument) htarget _ List.mem_cons_self
  · cases h

/-- The value that a setter takes is the one given, or a text made of it. -/
theorem reads_propertyValue {target : Target} {setter : MethodDef} {e : Expr}
    {needs : List Requirement} (h : r.propertyValue target setter = .ok (e, needs)) :
    ∀ name ∈ e.reads, name = "value" ∨ name = "str" ∨
      name = "GString" ∧ ⟨.runtime, "GString"⟩ ∈ needs := by
  have value : ∀ name ∈ (Expr.name "value").reads, name = "value" := by decide
  unfold propertyValue at h
  dsimp only at h
  split at h
  · cases h
    exact fun name hname => .inl (value name hname)
  · obtain ⟨parameter, _, h⟩ := bind_eq_ok.mp h
    split at h
    · split at h
      · cases h
        intro name hname
        have hname : name ∈ [root "GString", root "str", root "value"] := hname
        have roots : [root "GString", root "str", root "value"] = ["GString", "str", "value"] := by
          decide
        rw [roots] at hname
        simp only [List.mem_cons, List.not_mem_nil, or_false] at hname
        rcases hname with rfl | rfl | rfl
        · exact .inr (.inr ⟨rfl, List.mem_singleton_self _⟩)
        · exact .inr (.inl rfl)
        · exact .inl rfl
      · cases h
        exact fun name hname => .inl (value name hname)
    · cases h
      exact fun name hname => .inl (value name hname)

theorem owner_of_propertyAccessor {c : ClassDef} {referenced : List Name} {p : PropertyDef}
    {getter setter : MethodDef} {a : PropertyAccessor}
    (h : r.propertyAccessor c referenced p getter setter = .ok a) : a.owner = c.name := by
  unfold propertyAccessor at h
  obtain ⟨target, _, h⟩ := bind_eq_ok.mp h
  obtain ⟨index, _, h⟩ := bind_eq_ok.mp h
  obtain ⟨⟨value, valueNeeds⟩, _, h⟩ := bind_eq_ok.mp h
  obtain ⟨exposed, _, h⟩ := bind_eq_ok.mp h
  obtain ⟨getterName, _, h⟩ := bind_eq_ok.mp h
  obtain ⟨setterName, _, h⟩ := bind_eq_ok.mp h
  rw [← pure_eq_ok.mp h]

/-- What the accessors of a property read. -/
structure ReadsAccessors (a : PropertyAccessor) : Prop where
  getter : ∀ name ∈ readsOf a.getterBody, name = "self" ∨ SuppliedBy a.requires a.owner name
  setter : ∀ name ∈ readsOf a.setterBody,
    name ∈ ["self", "value"] ∨ SuppliedBy a.requires a.owner name

theorem readsAccessors_of_propertyAccessor (variant : r.class? ("Variant" : String) = none)
    {c : ClassDef} {referenced : List Name} {p : PropertyDef} {getter setter : MethodDef}
    {a : PropertyAccessor} (plain : ∀ type ∈ getter.types, type.IsPlain)
    (h : r.propertyAccessor c referenced p getter setter = .ok a) : ReadsAccessors a := by
  unfold propertyAccessor at h
  obtain ⟨target, htarget, h⟩ := bind_eq_ok.mp h
  obtain ⟨index, hindex, h⟩ := bind_eq_ok.mp h
  obtain ⟨⟨value, valueNeeds⟩, hvalue, h⟩ := bind_eq_ok.mp h
  obtain ⟨exposed, _, h⟩ := bind_eq_ok.mp h
  obtain ⟨getterName, _, h⟩ := bind_eq_ok.mp h
  obtain ⟨setterName, _, h⟩ := bind_eq_ok.mp h
  rw [← pure_eq_ok.mp h]
  have self : root "self" = "self" := by decide
  have indexed (requires : List Requirement)
      (within : ∀ e needs, index = some (e, needs) → needs ⊆ requires) :
      ∀ name ∈ (index.map (·.1)).toList.flatMap Expr.reads,
        SuppliedBy (requires.filter (!·.isClass c.name)) c.name name := by
    intro name hname
    obtain ⟨e, he, hname⟩ := List.mem_flatMap.mp hname
    obtain ⟨⟨e, needs⟩, hfound, rfl⟩ := Option.map_eq_some_iff.mp (Option.mem_toList.mp he)
    rw [hfound] at hindex
    rcases reads_propertyIndex variant plain hindex name hname with language | ⟨q, hq, supplies⟩
    · exact .inl language
    · exact suppliedBy_filter (within e needs hfound hq) supplies
  constructor
  · intro name hname
    rw [PropertyAccessor.getterBody, readsOf_cons, readsOf_nil, List.append_nil, Stmt.reads,
      reads_invoke] at hname
    rcases List.mem_append.mp hname with hname | hname
    · rw [show name = root "self" from List.mem_singleton.mp hname, self]
      exact .inl rfl
    · refine .inr (indexed _ (fun e needs hfound q hq => ?_) name hname)
      rw [hfound]
      exact List.mem_append_left _ (List.mem_append_right _ hq)
  · intro name hname
    rw [PropertyAccessor.setterBody, readsOf_cons, readsOf_nil, List.append_nil, Stmt.reads,
      reads_invoke, List.flatMap_append, List.flatMap_singleton] at hname
    rcases List.mem_append.mp hname with hname | hname
    · rw [show name = root "self" from List.mem_singleton.mp hname, self]
      exact .inl List.mem_cons_self
    · rcases List.mem_append.mp hname with hname | hname
      · refine .inr (indexed _ (fun e needs hfound q hq => ?_) name hname)
        rw [hfound]
        exact List.mem_append_left _ (List.mem_append_right _ hq)
      · rcases reads_propertyValue hvalue name hname with rfl | rfl | ⟨rfl, text⟩
        · exact .inl (by decide)
        · exact .inr (.inl (by decide))
        · exact .inr (suppliedBy_filter (List.mem_append_right _ text) (.symbol rfl))

end Registry

end EngineBindings
