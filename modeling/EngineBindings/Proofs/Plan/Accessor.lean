import EngineBindings.Proofs.Name
import EngineBindings.Proofs.Plan.Planned
import EngineBindings.Proofs.Registry.Built

/-! What the accessors of an emitted property come to.

A property's plan names its accessors before any method is planned, and a method is named when it
is planned. Both ask `accessorName` about the same hidden names (`referenced_eq`), so the names
agree, and an accessor that was found emittable does become a member (`kept_of_emittable`). -/
namespace EngineBindings

open Attempt Text

/-! ### Members by their names -/

/-- The name under which a member is emitted. -/
def Member.exposedName : Member → String
  | bound b => b.exposedName
  | overridable t => t.exposedName

/-- A plan emits a method under a name. -/
def ClassPlan.Emits (p : ClassPlan) (m : MethodDef) (name : String) : Prop :=
  ∃ x ∈ p.members, x.method = m ∧ x.exposedName = name

/-- A property names a method as its getter or as its setter. -/
def PropertyDef.Names (p : PropertyDef) (n : Name) : Prop :=
  (n == (⟨p.getter⟩ : Name)) = true ∨
    ∃ setter, p.setter = some setter ∧ (n == (⟨setter⟩ : Name)) = true

/-! ### From a property to its accessors -/

/-- The methods that a property of a class is served by. -/
structure Served (c : ClassDef) (check : EmittableCheck) (p : PropertyDef)
    (getter setter : MethodDef) : Prop where
  arity : arityObstacle getter setter = none
  getterEmitted : check getter = .ok none
  setterEmitted : check setter = .ok none
  getter : c.method? ⟨p.getter⟩ = some getter
  setter : ∃ name, p.setter = some name ∧ c.method? ⟨name⟩ = some setter

section Served

variable {c : ClassDef} {p : PropertyDef} {check : EmittableCheck} {getter setter m : MethodDef}

theorem method?_of_findGetter (h : findGetter c p = .ok (.ok m)) :
    c.method? ⟨p.getter⟩ = some m := by
  unfold findGetter at h
  split at h
  · next name hname =>
    rw [hname]
    split at h
    · cases h
    · split at h
      · cases h
      · split at h
        · next hfound =>
          cases h
          exact hfound
        · cases h
  · cases h

theorem method?_of_findSetter (h : findSetter c p = .ok m) :
    ∃ name, p.setter = some name ∧ c.method? ⟨name⟩ = some m := by
  unfold findSetter at h
  split at h
  · cases h
  · next name hname =>
    split at h
    · next hfound =>
      cases h
      exact ⟨name, hname, hfound⟩
    · cases h

/-- Both accessors pass a check of several methods that finds none unemitted. -/
theorem check_of_unemitted (h : unemitted check [getter, setter] = .ok none) :
    check getter = .ok none ∧ check setter = .ok none := by
  obtain ⟨found, hgetter, h⟩ := bind_eq_ok.mp h
  cases found with
  | some reason => cases h
  | none =>
    obtain ⟨found, hsetter, h⟩ := bind_eq_ok.mp h
    cases found with
    | some reason => cases h
    | none => exact ⟨hgetter, hsetter⟩

theorem served_of_propertyAccessors
    (h : propertyAccessors c (some check) p = .ok (.ok (getter, setter))) :
    Served c check p getter setter := by
  obtain ⟨found, hgetter, h⟩ := bind_eq_ok.mp h
  cases found with
  | error reason => cases h
  | ok g =>
    dsimp only at h
    split at h
    · cases h
    · next s hsetter =>
      split at h
      · cases h
      · next harity =>
        obtain ⟨found, hcheck, h⟩ := bind_eq_ok.mp h
        cases found with
        | some reason => cases h
        | none =>
          cases h
          obtain ⟨getterEmitted, setterEmitted⟩ := check_of_unemitted hcheck
          exact ⟨harity, getterEmitted, setterEmitted, method?_of_findGetter hgetter,
            method?_of_findSetter hsetter⟩

theorem Served.getter_mem (h : Served c check p getter setter) : getter ∈ c.methods :=
  List.mem_of_find?_eq_some h.getter

theorem Served.setter_mem (h : Served c check p getter setter) : setter ∈ c.methods := by
  obtain ⟨name, _, hsetter⟩ := h.setter
  exact List.mem_of_find?_eq_some hsetter

/-- A method that was looked up has the name that it was looked up by. -/
theorem beq_of_method? {n : Name} (h : c.method? n = some m) : (m.name == n) = true := by
  have hname : m.name.equals n = true := by simpa using List.find?_some h
  rw [Name.equals, Bool.and_eq_true] at hname
  exact hname.1

/-- A property names just the methods that are called like its accessors. -/
theorem Served.names_iff (h : Served c check p getter setter) {n : Name} :
    p.Names n ↔ (n == getter.name) = true ∨ (n == setter.name) = true := by
  obtain ⟨name, hname, hsetter⟩ := h.setter
  have getterName := BEq.congr_right (a := n) (beq_of_method? h.getter)
  have setterName := BEq.congr_right (a := n) (beq_of_method? hsetter)
  rw [PropertyDef.Names, hname, getterName, setterName]
  simp

end Served

namespace Registry

variable {r : Registry} {flags : Flags} {c : ClassDef} {p : PropertyDef} {m : MethodDef}

/-! ### Plans of properties -/

/-- What the plan of a property carries over from the property and its accessors. -/
structure Presents (referenced : List Name) (p : PropertyDef) (getter setter : MethodDef)
    (a : PropertyAccessor) : Prop where
  getterName : accessorName getter referenced = .ok a.getterName
  setterName : accessorName setter referenced = .ok a.setterName
  property : a.property = p
  getter : a.getter = getter
  setter : a.setter = setter

theorem presents_of_propertyAccessor {referenced : List Name} {getter setter : MethodDef}
    {a : PropertyAccessor} (h : r.propertyAccessor c referenced p getter setter = .ok a) :
    Presents referenced p getter setter a := by
  unfold propertyAccessor at h
  obtain ⟨target, _, h⟩ := bind_eq_ok.mp h
  obtain ⟨index, _, h⟩ := bind_eq_ok.mp h
  obtain ⟨⟨value, requires⟩, _, h⟩ := bind_eq_ok.mp h
  obtain ⟨exposed, _, h⟩ := bind_eq_ok.mp h
  obtain ⟨getterName, hgetter, h⟩ := bind_eq_ok.mp h
  obtain ⟨setterName, hsetter, h⟩ := bind_eq_ok.mp h
  rw [← pure_eq_ok.mp h]
  exact ⟨mapError_eq_ok.mp hgetter, mapError_eq_ok.mp hsetter, rfl, rfl, rfl⟩

/-- A planned property, and what its accessors were found to be. -/
structure PlansProperty (r : Registry) (c : ClassDef) (check : EmittableCheck)
    (referenced : List Name) (a : PropertyAccessor) : Prop where
  served : Served c check a.property a.getter a.setter
  getterName : accessorName a.getter referenced = .ok a.getterName
  setterName : accessorName a.setter referenced = .ok a.setterName
  planned : r.propertyAccessor c referenced a.property a.getter a.setter = .ok a

theorem plansProperty_of_properties {check : EmittableCheck} {s : PropertySet}
    (h : r.properties c (some check) = .ok s) :
    ∀ a ∈ s.accessors, PlansProperty r c check s.referenced a := by
  obtain ⟨checked, hchecked, h⟩ := bind_eq_ok.mp h
  obtain ⟨accessors, haccessors, h⟩ := bind_eq_ok.mp h
  cases h
  intro a ha
  obtain ⟨⟨p, getter, setter⟩, hentry, hplan⟩ := exists_left (mapM_eq_ok.mp haccessors) ha
  obtain ⟨x, hx, hentry⟩ := List.mem_filterMap.mp hentry
  obtain ⟨q, _, hqx, hfound⟩ := exists_left (checked_of_mapM hchecked) hx
  obtain ⟨q', found⟩ := x
  dsimp only at hqx hfound hentry hplan
  subst hqx
  cases found with
  | error reason => cases hentry
  | ok found =>
    cases hentry
    obtain ⟨getterName, setterName, rfl, rfl, rfl⟩ := presents_of_propertyAccessor hplan
    exact ⟨served_of_propertyAccessors hfound, getterName, setterName, hplan⟩

/-- The hidden names are those of the planned accessors. -/
theorem referenced_eq {check : EmittableCheck} {s : PropertySet}
    (h : r.properties c (some check) = .ok s) :
    s.referenced = s.accessors.flatMap fun a => [a.getter.name, a.setter.name] := by
  obtain ⟨checked, _, h⟩ := bind_eq_ok.mp h
  obtain ⟨accessors, haccessors, h⟩ := bind_eq_ok.mp h
  cases h
  have names := map_eq_map (f := fun entry => [entry.2.1.name, entry.2.2.name])
    (g := fun a : PropertyAccessor => [a.getter.name, a.setter.name]) (mapM_eq_ok.mp haccessors)
    fun entry _ a ha => by
      obtain ⟨_, _, _, hgetter, hsetter⟩ := presents_of_propertyAccessor ha
      rw [hgetter, hsetter]
  dsimp only
  rw [List.flatMap_def, List.flatMap_def, names]

/-! ### Members of a class -/

/-- A method that was found emittable becomes a member, under the name of an accessor. -/
theorem kept_of_emittable {referenced : List Name} {o : Outcome}
    (hm : r.emittable flags m = .ok none) (h : r.planMethod flags c referenced m = .ok o) :
    ∃ x, o.member? = some x ∧ x.method = m ∧ accessorName m referenced = .ok x.exposedName := by
  unfold emittable at hm
  by_cases hb : m.hash.isSome
  · rw [if_pos hb] at hm
    rw [planMethod_of_bound hb] at h
    obtain ⟨b, hbind, rfl⟩ := map_eq_ok.mp h
    obtain ⟨exposed, hexposed, carries⟩ := carries_of_bindMethod hbind
    rw [MethodBinding.settled, carries.outcome, Except.ok.inj hm]
    refine ⟨.bound b, rfl, carries.method, ?_⟩
    rw [hexposed, ← carries.exposedName]
    rfl
  · have hn : m.hash = none := by simpa using hb
    rw [if_neg hb] at hm
    cases hv : flags.virtuals with
    | false =>
      rw [hv] at hm
      cases hm
    | true =>
      rw [hv, if_pos rfl] at hm
      rw [planMethod_of_virtual hn hv] at h
      obtain ⟨x, hx, h⟩ := bind_eq_ok.mp h
      rcases acceptVirtual_eq_ok.mp hx with ⟨reason, hreject, _⟩ | ⟨_, t, ht, rfl⟩
      · rw [hm] at hreject
        cases hreject
      · cases h
        have answers := answers_of_trampoline ht
        refine ⟨.overridable t, rfl, answers.method, ?_⟩
        rw [accessorName, if_neg hb]
        exact answers.exposedName

/-- A bound member is named as an accessor of its method is. -/
theorem exposedName_of_planMethod {referenced : List Name} {o : Outcome} {b : MethodBinding}
    (h : r.planMethod flags c referenced m = .ok o) (ho : o.member? = some (.bound b)) :
    b.method.hash.isSome ∧ accessorName b.method referenced = .ok b.exposedName := by
  by_cases hb : m.hash.isSome
  · rw [planMethod_of_bound hb] at h
    obtain ⟨b', hbind, rfl⟩ := map_eq_ok.mp h
    obtain ⟨exposed, hexposed, carries⟩ := carries_of_bindMethod hbind
    rw [MethodBinding.settled, carries.outcome] at ho
    cases hs : signatureObstacle m with
    | some reason =>
      rw [hs] at ho
      cases ho
    | none =>
      rw [hs] at ho
      cases ho
      rw [carries.method, carries.exposedName]
      exact ⟨hb, hexposed⟩
  · have hn : m.hash = none := by simpa using hb
    cases hv : flags.virtuals with
    | false =>
      rw [planMethod_of_disabled hn hv] at h
      cases h
      cases ho
    | true =>
      rw [planMethod_of_virtual hn hv] at h
      obtain ⟨x, _, h⟩ := bind_eq_ok.mp h
      cases x <;> (cases h; cases ho)

/-- The name of a bound method tells whether a property hides it. -/
theorem accessorName_of_bound {referenced : List Name} {exposed : String} (hb : m.hash.isSome)
    (h : accessorName m referenced = .ok exposed) :
    (referenced.contains m.name = true → exposed = "__" ++ m.name.display) ∧
      (¬referenced.contains m.name = true → m.name.sanitize = .ok exposed) := by
  rw [accessorName, if_pos hb] at h
  obtain ⟨name, hname, h⟩ := bind_eq_ok.mp h
  obtain ⟨_, rfl⟩ := Name.keyed_eq_ok.mp hname
  constructor
  · intro hidden
    rw [if_pos hidden] at h
    exact (pure_eq_ok.mp h).symm
  · intro shown
    rwa [if_neg shown] at h

/-- What the accessors of a planned class come to, and the names of its bound members. -/
structure PlansAccessors (r : Registry) (flags : Flags) (c : ClassDef) (p : ClassPlan)
    (referenced : List Name) : Prop where
  properties : ∀ a ∈ p.properties, PlansProperty r c (r.emittable flags) referenced a
  hidden : referenced = p.properties.flatMap fun a => [a.getter.name, a.setter.name]
  emits : ∀ m ∈ c.methods, r.emittable flags m = .ok none →
    ∀ name, accessorName m referenced = .ok name → p.Emits m name
  bound : ∀ b ∈ p.bindings,
    b.method.hash.isSome ∧ accessorName b.method referenced = .ok b.exposedName

theorem plansAccessors_of_planClass {p : ClassPlan} (h : r.planClass flags c = .ok p) :
    ∃ referenced, PlansAccessors r flags c p referenced := by
  obtain ⟨s, outcomes, dispatch, hs, houtcomes, _, rfl⟩ := planClass_eq_ok.mp h
  have outcome := mapM_eq_ok.mp houtcomes
  refine ⟨s.referenced, ?_⟩
  have synthesized : (∀ a ∈ s.accessors, PlansProperty r c (r.emittable flags) s.referenced a) ∧
      s.referenced = s.accessors.flatMap fun a => [a.getter.name, a.setter.name] := by
    unfold planProperties at hs
    split at hs
    · exact ⟨plansProperty_of_properties hs, referenced_eq hs⟩
    · cases hs
      exact ⟨fun a ha => (List.not_mem_nil ha).elim, rfl⟩
  constructor
  case properties => exact synthesized.1
  case hidden => exact synthesized.2
  case emits =>
    intro m hm hemitted name hname
    obtain ⟨o, ho, hplan⟩ := exists_right outcome hm
    obtain ⟨x, hx, hmethod, hexposed⟩ := kept_of_emittable hemitted hplan
    rw [hname] at hexposed
    exact ⟨x, List.mem_filterMap.mpr ⟨o, ho, hx⟩, hmethod, (Except.ok.inj hexposed).symm⟩
  case bound =>
    intro b hb
    obtain ⟨x, hx, hbinding⟩ := List.mem_filterMap.mp hb
    obtain ⟨o, ho, hmember⟩ := List.mem_filterMap.mp hx
    cases x with
    | overridable t => cases hbinding
    | bound b' =>
      cases hbinding
      obtain ⟨m, _, hplan⟩ := exists_left outcome ho
      exact exposedName_of_planMethod hplan hmember

/-- A name is hidden where some emitted property names it. -/
theorem PlansAccessors.contains_iff {p : ClassPlan} {referenced : List Name}
    (h : PlansAccessors r flags c p referenced) {n : Name} :
    referenced.contains n = true ↔ ∃ a ∈ p.properties, a.property.Names n := by
  rw [h.hidden, List.contains_iff_exists_mem_beq]
  constructor
  · rintro ⟨name, hname, hn⟩
    obtain ⟨a, ha, hname⟩ := List.mem_flatMap.mp hname
    refine ⟨a, ha, (h.properties a ha).served.names_iff.mpr ?_⟩
    rcases List.mem_pair.mp hname with rfl | rfl
    · exact .inl hn
    · exact .inr hn
  · rintro ⟨a, ha, hn⟩
    rcases (h.properties a ha).served.names_iff.mp hn with hn | hn
    · exact ⟨a.getter.name, List.mem_flatMap.mpr ⟨a, ha, by simp⟩, hn⟩
    · exact ⟨a.setter.name, List.mem_flatMap.mpr ⟨a, ha, by simp⟩, hn⟩

/-- The accessors of a planned property are the methods that the property names, and the plan
emits each under the name by which the property calls it. A bound member is emitted under two
underscores and its own name where an emitted property names it, and under its name as an
identifier elsewhere. -/
theorem accessors_resolve {p : ClassPlan} (h : r.planClass flags c = .ok p) :
    (∀ a ∈ p.properties, c.method? ⟨a.property.getter⟩ = some a.getter ∧
      (∃ name, a.property.setter = some name ∧ c.method? ⟨name⟩ = some a.setter) ∧
      p.Emits a.getter a.getterName ∧ p.Emits a.setter a.setterName) ∧
    ∀ b ∈ p.bindings,
      ((∃ a ∈ p.properties, a.property.Names b.method.name) →
        b.exposedName = "__" ++ b.method.name.display) ∧
      ((¬∃ a ∈ p.properties, a.property.Names b.method.name) →
        b.method.name.sanitize = .ok b.exposedName) := by
  obtain ⟨referenced, plans⟩ := plansAccessors_of_planClass h
  constructor
  · intro a ha
    obtain ⟨served, getterName, setterName, _⟩ := plans.properties a ha
    exact ⟨served.getter, served.setter,
      plans.emits _ served.getter_mem served.getterEmitted _ getterName,
      plans.emits _ served.setter_mem served.setterEmitted _ setterName⟩
  · intro b hb
    obtain ⟨hbound, hname⟩ := plans.bound b hb
    rw [← plans.contains_iff]
    exact accessorName_of_bound hbound hname

/-- A lamp whose levels share a pair of bound accessors, whose glow is served by virtual methods,
and one of whose methods is named by a reserved word. -/
def lamp : ClassDef :=
  .declaring "Lamp" none
    [{ name := "get_level", arguments := [{ name := "which", type := .primitive .int }],
       returnType := some (.primitive .float), hash := some 1 },
     { name := "set_level",
       arguments := [{ name := "which", type := .primitive .int },
         { name := "level", type := .primitive .float }],
       hash := some 2 },
     { name := "glow", returnType := some (.primitive .bool), isVirtual := true },
     { name := "set_glow", arguments := [{ name := "on", type := .primitive .bool }],
       isVirtual := true },
     { name := "import", hash := some 3 }]
    [⟨"low", .str "float", .str "get_level", some (.str "set_level"), some 0⟩,
     ⟨"high", .str "float", .str "get_level", some (.str "set_level"), some 1⟩,
     ⟨"glowing", .str "bool", .str "glow", some (.str "set_glow"), none⟩]

/-- All three properties of a lamp call methods that its plan emits. -/
theorem accessors_resolve_lamp :
    ∃ p, (ofClasses [lamp]).planClass {} lamp = .ok p ∧ p.properties.length = 3 ∧
      ∀ a ∈ p.properties, p.Emits a.getter a.getterName ∧ p.Emits a.setter a.setterName := by
  have returns : ((ofClasses [lamp]).planClass {} lamp).toOption.any
      (fun p : ClassPlan => p.properties.length == 3) := by rfl
  obtain ⟨p, hp, hlength⟩ := exists_eq_ok_of_any returns
  exact ⟨p, hp, by simpa using hlength, fun a ha => ((accessors_resolve hp).1 a ha).2.2⟩

end Registry

end EngineBindings
