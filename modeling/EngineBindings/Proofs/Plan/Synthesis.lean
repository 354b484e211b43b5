import EngineBindings.Proofs.Name
import EngineBindings.Proofs.Plan.Accessor
import EngineBindings.Proofs.Plan.Accounting

/-! Synthesis brings no refusal of its own.

What synthesis asks for before any method is planned is asked for again by planning the methods and
the accessors, so the properties of a class can be planned wherever its methods can
(`exists_properties`). -/
namespace EngineBindings

open Attempt Text

namespace Registry

variable {r : Registry} {c : ClassDef} {m : MethodDef} {v : Bool}

/-! ### What synthesis asks for -/

/-- Every type of a method's signature has a target. -/
structure MapsTypes (r : Registry) (m : MethodDef) : Prop where
  arguments : ∀ a ∈ m.arguments, ∃ target, r.argumentTarget a .member = .ok target
  result : ∀ type, m.result? = some type → ∃ target, r.target type m.returnTag .member = .ok target

theorem mapsTypes_of_bindMethod {referenced : List Name} {b : MethodBinding}
    (hs : signatureObstacle m = none) (h : r.bindMethod c m referenced = .ok b) :
    r.MapsTypes m := by
  obtain ⟨exposed, _, h⟩ := bind_eq_ok.mp h
  rw [planCall_eq, hs] at h
  obtain ⟨args, hargs, h⟩ := bind_eq_ok.mp h
  obtain ⟨ret, hret, _⟩ := bind_eq_ok.mp h
  obtain ⟨slots, hslots, _⟩ := bind_eq_ok.mp hargs
  constructor
  case arguments =>
    intro a ha
    obtain ⟨slot, _, hslot⟩ := exists_right (mapM_eq_ok.mp hslots) ha
    exact ⟨_, (fresh_of_argSlot hslot).target⟩
  case result =>
    intro type htype
    rw [resultPlan, htype] at hret
    obtain ⟨plan, hplan, _⟩ := map_eq_ok.mp hret
    exact ⟨_, target_of_returnPlan hplan⟩

theorem mapsTypes_of_trampoline {t : Trampoline} (h : r.trampoline c m = .ok t) :
    r.MapsTypes m := by
  obtain ⟨⟨args, ret⟩, hslots, _⟩ := bind_eq_ok.mp h
  obtain ⟨loads, hloads, hslots⟩ := bind_eq_ok.mp hslots
  constructor
  case arguments =>
    intro a ha
    obtain ⟨i, hi⟩ := List.mem_iff_getElem?.mp ha
    obtain ⟨arg, _, harg⟩ :=
      exists_right (mapM_eq_ok.mp hloads) (List.mk_mem_zipIdx_iff_getElem?.mpr hi)
    obtain ⟨target, htarget, _⟩ := bind_eq_ok.mp harg
    exact ⟨target, htarget⟩
  case result =>
    intro type htype
    rw [htype] at hslots
    obtain ⟨target, htarget, _⟩ := bind_eq_ok.mp hslots
    exact ⟨target, htarget⟩

/-- Whether a method is emitted can be asked where it can be planned, and where it is emitted its
types have targets. -/
theorem emittable_of_planMethod {o : Outcome} (h : r.planMethod ⟨false, v⟩ c [] m = .ok o) :
    ∃ found, r.emittable ⟨true, v⟩ m = .ok found ∧ (found = none → r.MapsTypes m) := by
  by_cases hb : m.hash.isSome
  · refine ⟨signatureObstacle m, if_pos hb, fun hs => ?_⟩
    rw [planMethod_of_bound hb] at h
    obtain ⟨b, hbind, _⟩ := map_eq_ok.mp h
    exact mapsTypes_of_bindMethod hs hbind
  · have hn : m.hash = none := by simpa using hb
    cases v with
    | false => exact ⟨_, by rw [emittable, hn]; rfl, fun hs => by cases hs⟩
    | true =>
      rw [planMethod_of_virtual hn rfl] at h
      obtain ⟨x, hx, _⟩ := bind_eq_ok.mp h
      have hcheck : r.emittable ⟨true, true⟩ m = r.rejection m := by
        rw [emittable, hn]
        rfl
      rw [hcheck]
      rcases acceptVirtual_eq_ok.mp hx with ⟨reason, hreject, _⟩ | ⟨hreject, t, ht, _⟩
      · exact ⟨some reason, hreject, fun hs => by cases hs⟩
      · exact ⟨none, hreject, fun _ => mapsTypes_of_trampoline ht⟩

end Registry

/-! ### Accessors -/

/-- Properties that are named, read and written by texts. -/
structure ClassDef.HasTextProperties (c : ClassDef) : Prop where
  names : ∀ p ∈ c.properties, p.name.IsText
  getters : ∀ p ∈ c.properties, ∃ name : String, p.getter = .str name
  setters : ∀ p ∈ c.properties, ∀ setter, p.setter = some setter →
    ∃ name : String, setter = .str name

/-- A method of a class that can be looked up by a text. -/
def ClassDef.Offers (c : ClassDef) (m : MethodDef) : Prop :=
  m ∈ c.methods ∧ m.name.IsText

theorem ClassDef.offers_of_method? {c : ClassDef} {name : String} {m : MethodDef}
    (h : c.method? (name : Name) = some m) : c.Offers m :=
  have hname : m.name.equals (name : Name) = true := by simpa using List.find?_some h
  ⟨List.mem_of_find?_eq_some h, name, Name.eq_text_of_equals hname⟩

section Accessors

variable {c : ClassDef} {p : PropertyDef} {check : EmittableCheck}

theorem exists_findGetter (hp : ∃ name : String, p.getter = .str name) :
    ∃ x, findGetter c p = .ok x := by
  obtain ⟨name, hname⟩ := hp
  rw [findGetter, hname]
  dsimp only
  split
  · exact ⟨_, rfl⟩
  · split
    · exact ⟨_, rfl⟩
    · cases c.method? name with
      | some m => exact ⟨_, rfl⟩
      | none => exact ⟨_, rfl⟩

/-- The methods that serve an emitted property. -/
structure Serves (c : ClassDef) (check : EmittableCheck) (getter setter : MethodDef) : Prop where
  offersGetter : c.Offers getter
  offersSetter : c.Offers setter
  arity : arityObstacle getter setter = none
  getterEmitted : check getter = .ok none
  setterEmitted : check setter = .ok none

theorem exists_unemitted {methods : List MethodDef}
    (h : ∀ m ∈ methods, ∃ found, check m = .ok found) :
    ∃ found, unemitted check methods = .ok found := by
  induction methods with
  | nil => exact ⟨none, rfl⟩
  | cons m rest ih =>
    obtain ⟨⟨found, hfound⟩, hrest⟩ := List.forall_mem_cons.mp h
    unfold unemitted
    rw [hfound]
    cases found with
    | some reason => exact ⟨_, rfl⟩
    | none => exact ih hrest

theorem serves_of_propertyAccessors {getter setter : MethodDef}
    (hp : ∃ name : String, p.getter = .str name)
    (hs : ∀ setter, p.setter = some setter → ∃ name : String, setter = .str name)
    (h : propertyAccessors c (some check) p = .ok (.ok (getter, setter))) :
    Serves c check getter setter := by
  have served := served_of_propertyAccessors h
  have hgetter := served.getter
  obtain ⟨getterName, hname⟩ := hp
  obtain ⟨setterName, hsetterName, hsetter⟩ := served.setter
  obtain ⟨setterText, rfl⟩ := hs setterName hsetterName
  rw [hname] at hgetter
  exact ⟨ClassDef.offers_of_method? hgetter, ClassDef.offers_of_method? hsetter, served.arity,
    served.getterEmitted, served.setterEmitted⟩

theorem exists_propertyAccessors (hp : ∃ name : String, p.getter = .str name)
    (hcheck : ∀ m ∈ c.methods, ∃ found, check m = .ok found) :
    ∃ x, propertyAccessors c (some check) p = .ok x := by
  obtain ⟨found, hgetter⟩ := exists_findGetter (c := c) hp
  unfold propertyAccessors
  rw [hgetter, ok_bind]
  cases found with
  | error reason => exact ⟨_, rfl⟩
  | ok getter =>
    dsimp only
    cases hsetter : findSetter c p with
    | error reason => exact ⟨_, rfl⟩
    | ok setter =>
      dsimp only
      cases arityObstacle getter setter with
      | some reason => exact ⟨_, rfl⟩
      | none =>
        have getterFound := method?_of_findGetter hgetter
        obtain ⟨_, _, setterFound⟩ := method?_of_findSetter hsetter
        have accessors : ∀ m ∈ [getter, setter], ∃ found, check m = .ok found := by
          simpa using And.intro (hcheck _ (List.mem_of_find?_eq_some getterFound))
            (hcheck _ (List.mem_of_find?_eq_some setterFound))
        obtain ⟨found, hfound⟩ := exists_unemitted accessors
        dsimp only
        rw [hfound, ok_bind]
        cases found with
        | some reason => exact ⟨_, rfl⟩
        | none => exact ⟨_, rfl⟩

theorem exists_acceptProperty (hp : ∃ name : String, p.getter = .str name)
    (hs : ∀ setter, p.setter = some setter → ∃ name : String, setter = .str name)
    (hcheck : ∀ m ∈ c.methods, ∃ found, check m = .ok found) :
    ∃ x, Registry.acceptProperty c (some check) p = .ok x := by
  obtain ⟨found, hfound⟩ := exists_propertyAccessors hp hcheck
  unfold Registry.acceptProperty
  rw [hfound, ok_bind]
  cases found with
  | error reason => exact ⟨_, rfl⟩
  | ok accessors =>
    have serves := serves_of_propertyAccessors hp hs hfound
    refine ⟨.ok accessors, ?_⟩
    simp only [List.mapM_cons, List.mapM_nil, Name.keyed_of_isText serves.offersGetter.2,
      Name.keyed_of_isText serves.offersSetter.2]
    rfl

end Accessors

namespace Registry

variable {r : Registry} {c : ClassDef} {p : PropertyDef} {v : Bool}

theorem exists_propertyIndex {getter : MethodDef} (h : r.MapsTypes getter) :
    ∃ x, r.propertyIndex p getter = .ok x := by
  unfold propertyIndex
  split
  · next index a _ _ hargs =>
    obtain ⟨target, htarget⟩ := h.arguments a (by rw [hargs]; exact List.mem_cons_self ..)
    rw [htarget, ok_bind]
    cases target <;> exact ⟨_, rfl⟩
  · exact ⟨_, rfl⟩

theorem exists_propertyValue (target : Target) {setter : MethodDef} (h : r.MapsTypes setter) :
    ∃ x, r.propertyValue target setter = .ok x := by
  unfold propertyValue
  dsimp only
  split
  · exact ⟨_, rfl⟩
  · next a ha =>
    obtain ⟨type, htype⟩ := h.arguments a (List.mem_of_getLast? ha)
    rw [htype, ok_bind]
    cases type with
    | string =>
      dsimp only
      split <;> exact ⟨_, rfl⟩
    | _ => exact ⟨_, rfl⟩

theorem exists_accessorName {m : MethodDef} (h : m.name.IsText) (referenced : List Name) :
    ∃ e, accessorName m referenced = .ok e := by
  unfold accessorName
  obtain ⟨e, he⟩ := Name.exists_sanitize_of_isText h
  rw [Name.keyed_of_isText h, ok_bind, he]
  split
  · split
    · exact ⟨_, rfl⟩
    · exact ⟨e, rfl⟩
  · exact ⟨e, rfl⟩

theorem exists_propertyAccessor {getter setter : MethodDef} (hname : p.name.IsText)
    (hget : r.MapsTypes getter) (hset : r.MapsTypes setter) (hgetter : getter.name.IsText)
    (hsetter : setter.name.IsText) (referenced : List Name) :
    ∃ a, r.propertyAccessor c referenced p getter setter = .ok a := by
  have hresult : ∃ target, r.resultTarget getter .member = .ok target := by
    unfold resultTarget
    cases htype : getter.result? with
    | none => exact ⟨_, rfl⟩
    | some type => exact hget.result type htype
  obtain ⟨target, htarget⟩ := hresult
  obtain ⟨index, hindex⟩ := exists_propertyIndex (p := p) hget
  obtain ⟨value, hvalue⟩ := exists_propertyValue target hset
  obtain ⟨exposed, hexposed⟩ := Name.exists_sanitize_of_isText hname
  obtain ⟨getterName, hgetterName⟩ := exists_accessorName hgetter referenced
  obtain ⟨setterName, hsetterName⟩ := exists_accessorName hsetter referenced
  unfold propertyAccessor
  rw [htarget, ok_bind, hindex, ok_bind, hvalue, ok_bind, hexposed, hgetterName, hsetterName]
  exact ⟨_, rfl⟩

/-! ### The properties of a class -/

/-- A property that is accepted is one of the class's and is served by methods of the class. -/
theorem serves_of_checked (hc : c.HasTextProperties) {check : EmittableCheck}
    {checked : List (PropertyDef × Except String (MethodDef × MethodDef))}
    (h : (c.properties.mapM fun p => return (p, ← acceptProperty c (some check) p)) = .ok checked) :
    ∀ entry ∈ checked.filterMap fun x => x.2.toOption.map fun accessors => (x.1, accessors),
      entry.1 ∈ c.properties ∧ Serves c check entry.2.1 entry.2.2 := by
  intro entry hentry
  obtain ⟨x, hx, hentry⟩ := List.mem_filterMap.mp hentry
  obtain ⟨p, hp, hxp, hfound⟩ := exists_left (checked_of_mapM h) hx
  obtain ⟨q, found⟩ := x
  dsimp only at hxp hfound hentry
  subst hxp
  cases found with
  | error reason => cases hentry
  | ok accessors =>
    cases hentry
    exact ⟨hp, serves_of_propertyAccessors (hc.getters q hp) (hc.setters q hp) hfound⟩

/-- Only texts are hidden. -/
theorem isText_of_referenced (hc : c.HasTextProperties) {check : EmittableCheck} {s : PropertySet}
    (h : r.properties c (some check) = .ok s) : ∀ n ∈ s.referenced, n.IsText := by
  obtain ⟨checked, hchecked, h⟩ := bind_eq_ok.mp h
  obtain ⟨accessors, _, h⟩ := bind_eq_ok.mp h
  cases h
  intro n hn
  obtain ⟨entry, hentry, hn⟩ := List.mem_flatMap.mp hn
  obtain ⟨_, serves⟩ := serves_of_checked hc hchecked entry hentry
  rcases List.mem_pair.mp hn with rfl | rfl
  · exact serves.offersGetter.2
  · exact serves.offersSetter.2

/-- Where the methods of a class can be planned, so can its properties: whatever synthesis asks
for is asked for again by planning the accessors. -/
theorem exists_properties (hc : c.HasTextProperties)
    (hplan : ∀ m ∈ c.methods, ∃ o, r.planMethod ⟨false, v⟩ c [] m = .ok o) :
    ∃ s, r.properties c (some (r.emittable ⟨true, v⟩)) = .ok s := by
  have hcheck : ∀ m ∈ c.methods, ∃ found, r.emittable ⟨true, v⟩ m = .ok found := by
    intro m hm
    obtain ⟨o, ho⟩ := hplan m hm
    obtain ⟨found, hfound, _⟩ := emittable_of_planMethod ho
    exact ⟨found, hfound⟩
  have hmaps : ∀ m ∈ c.methods, r.emittable ⟨true, v⟩ m = .ok none → r.MapsTypes m := by
    intro m hm hnone
    obtain ⟨o, ho⟩ := hplan m hm
    obtain ⟨found, hfound, maps⟩ := emittable_of_planMethod ho
    rw [hnone] at hfound
    exact maps (Except.ok.inj hfound).symm
  have hchecked : ∃ checked, (c.properties.mapM fun p =>
      return (p, ← acceptProperty c (some (r.emittable ⟨true, v⟩)) p)) = .ok checked := by
    refine exists_mapM_eq_ok.mpr fun p hp => ?_
    obtain ⟨found, hfound⟩ := exists_acceptProperty (hc.getters p hp) (hc.setters p hp) hcheck
    exact ⟨(p, found), by rw [hfound]; rfl⟩
  obtain ⟨checked, hchecked⟩ := hchecked
  have serves := serves_of_checked hc hchecked
  unfold properties
  rw [hchecked, ok_bind]
  generalize (checked.filterMap fun x => x.2.toOption.map fun accessors => (x.1, accessors)) =
    accepted at serves ⊢
  have haccessors (referenced : List Name) : ∃ accessors, (accepted.mapM fun entry =>
      r.propertyAccessor c referenced entry.1 entry.2.1 entry.2.2) = .ok accessors := by
    refine exists_mapM_eq_ok.mpr fun entry hentry => ?_
    obtain ⟨hp, serves⟩ := serves entry hentry
    exact exists_propertyAccessor (hc.names _ hp)
      (hmaps _ serves.offersGetter.1 serves.getterEmitted)
      (hmaps _ serves.offersSetter.1 serves.setterEmitted) serves.offersGetter.2
      serves.offersSetter.2 referenced
  obtain ⟨accessors, haccessors⟩ :=
    haccessors (accepted.flatMap fun entry => [entry.2.1.name, entry.2.2.name])
  dsimp only
  rw [haccessors]
  exact ⟨_, rfl⟩

end Registry

end EngineBindings
