import EngineBindings.Proofs.Plan.Accounting
import EngineBindings.Proofs.Plan.Agreeing

/-! A method that is left out leaves nothing else behind.

A class is planned once as it is and once without a method that is reported as left out. The
method may be named by properties, but no property with an accessor that is not emitted is planned,
so the same properties are planned without it, the same names are hidden, and every other method
comes to the same (`skip_isolated`). All that is lost is the report on the method itself, and all
that changes is why a property that named it is left out: its accessor is not unfit any more, but
missing. -/
namespace EngineBindings

open Attempt

/-- A class without its method at a given place. -/
def ClassDef.dropping (c : ClassDef) (i : Nat) : ClassDef :=
  { c with methods := c.methods.eraseIdx i }

/-- No two methods of a class have equal names. -/
def ClassDef.HasDistinctMethods (c : ClassDef) : Prop :=
  c.methods.Pairwise fun a b => a.name.equals b.name = false

/-- What is found about a property is the same, or it is left out for two reasons because it names
a method. -/
inductive Reworded (m : MethodDef) (p : PropertyDef) : Except String α → Except String α → Prop
  | same (x : Except String α) : Reworded m p x x
  | names (reason reason' : String) (h : p.Names m.name) :
    Reworded m p (.error reason) (.error reason')

namespace Registry

section Dropping

variable {c : ClassDef} {m : MethodDef} {i : Nat} {p : PropertyDef} {check : EmittableCheck}

theorem exists_split_of_getElem? (hm : c.methods[i]? = some m) :
    c.methods = c.methods.take i ++ m :: c.methods.drop (i + 1) ∧
      (c.dropping i).methods = c.methods.take i ++ c.methods.drop (i + 1) := by
  obtain ⟨inside, rfl⟩ := List.getElem?_eq_some_iff.mp hm
  refine ⟨?_, List.eraseIdx_eq_take_drop_succ ..⟩
  rw [← List.drop_eq_getElem_cons, List.take_append_drop]

/-- Without a method every other one is still found by its name. -/
theorem method?_dropping (hm : c.methods[i]? = some m) (distinct : c.HasDistinctMethods)
    (n : Name) :
    (c.dropping i).method? n = c.method? n ∨
      c.method? n = some m ∧ (c.dropping i).method? n = none := by
  obtain ⟨methods, others⟩ := exists_split_of_getElem? hm
  rw [ClassDef.HasDistinctMethods] at distinct
  rw [ClassDef.method?, ClassDef.method?, others]
  generalize c.methods.take i = before at methods
  generalize c.methods.drop (i + 1) = after at methods
  rw [methods, List.pairwise_append] at distinct
  have apart := (List.pairwise_cons.mp distinct.2.1).1
  rw [methods, List.find?_append, List.find?_append]
  cases before.find? (·.name.equals n) with
  | some found => exact .inl rfl
  | none =>
    cases named : m.name.equals n with
    | false =>
      rw [List.find?_cons, named]
      exact .inl rfl
    | true =>
      -- no method behind it has the name
      refine .inr ⟨by rw [List.find?_cons, named]; rfl, ?_⟩
      rw [Option.none_or, List.find?_eq_none]
      intro other hother same
      rw [Name.equals, Bool.and_eq_true] at named same
      have equal : m.name.equals other.name = true := by
        rw [Name.equals, Bool.and_eq_true]
        exact ⟨BEq.trans named.1 (BEq.symm same.1), named.2⟩
      rw [apart other hother] at equal
      cases equal

theorem findGetter_dropping (hm : c.methods[i]? = some m) (distinct : c.HasDistinctMethods) :
    findGetter (c.dropping i) p = findGetter c p ∨
      findGetter c p = .ok (.ok m) ∧
        ∃ reason, findGetter (c.dropping i) p = .ok (.error reason) := by
  unfold findGetter
  split
  · next name _ =>
    split
    · exact .inl rfl
    · split
      · exact .inl rfl
      · rcases method?_dropping hm distinct name with same | ⟨found, missing⟩
        · rw [same]
          exact .inl rfl
        · rw [found, missing]
          exact .inr ⟨rfl, _, rfl⟩
  · exact .inl rfl

theorem findSetter_dropping (hm : c.methods[i]? = some m) (distinct : c.HasDistinctMethods) :
    findSetter (c.dropping i) p = findSetter c p ∨
      findSetter c p = .ok m ∧ ∃ reason, findSetter (c.dropping i) p = .error reason := by
  unfold findSetter
  split
  · exact .inl rfl
  · next name _ =>
    rcases method?_dropping hm distinct ⟨name⟩ with same | ⟨found, missing⟩
    · rw [same]
      exact .inl rfl
    · rw [found, missing]
      exact .inr ⟨rfl, _, rfl⟩

/-- A property that a left-out method was to serve is left out. -/
theorem error_of_unemitted {x : Except String (MethodDef × MethodDef)}
    (unemitted : ∃ reason, check m = .ok (some reason))
    (role : findGetter c p = .ok (.ok m) ∨ findSetter c p = .ok m)
    (h : propertyAccessors c (some check) p = .ok x) : ∃ reason, x = .error reason := by
  obtain ⟨reason, unemitted⟩ := unemitted
  cases x with
  | error reason => exact ⟨reason, rfl⟩
  | ok accessors =>
    obtain ⟨getter, setter⟩ := accessors
    have served := served_of_propertyAccessors h
    rcases role with found | found
    · have same := served.getter.symm.trans (method?_of_findGetter found)
      cases same
      rw [served.getterEmitted] at unemitted
      cases unemitted
    · obtain ⟨name, hname, hsetter⟩ := served.setter
      obtain ⟨name', hname', hfound⟩ := method?_of_findSetter found
      rw [hname] at hname'
      cases hname'
      cases hsetter.symm.trans hfound
      rw [served.setterEmitted] at unemitted
      cases unemitted

theorem acceptProperty_of_error {reason : String}
    (h : propertyAccessors c (some check) p = .ok (.error reason)) :
    acceptProperty c (some check) p = .ok (.error reason) := by
  rw [acceptProperty, h]
  rfl

/-- Every check of a property ends alike without a left-out method. -/
theorem exists_acceptProperty_dropping (hm : c.methods[i]? = some m)
    (distinct : c.HasDistinctMethods) (unemitted : ∃ reason, check m = .ok (some reason))
    {x : Except String (MethodDef × MethodDef)}
    (h : acceptProperty c (some check) p = .ok x) :
    ∃ x', acceptProperty (c.dropping i) (some check) p = .ok x' ∧ Reworded m p x x' := by
  have found := propertyAccessors_of_acceptProperty h
  rcases findGetter_dropping (p := p) hm distinct with sameGetter | ⟨getter, reason', missing⟩
  · rcases findSetter_dropping (p := p) hm distinct with sameSetter | ⟨setter, reason', missing⟩
    · -- neither accessor is the method
      refine ⟨x, ?_, .same x⟩
      rw [acceptProperty, propertyAccessors, sameGetter, sameSetter]
      exact h
    · obtain ⟨reason, rfl⟩ := error_of_unemitted unemitted (.inr setter) found
      obtain ⟨y, hy, rest⟩ := bind_eq_ok.mp found
      cases y with
      | error other =>
        cases rest
        refine ⟨_, acceptProperty_of_error ?_, .same _⟩
        rw [propertyAccessors, sameGetter, hy]
        rfl
      | ok getter =>
        obtain ⟨name, hname, hfound⟩ := method?_of_findSetter setter
        refine ⟨_, acceptProperty_of_error ?_, .names reason reason' (.inr ⟨name, hname, ?_⟩)⟩
        · rw [propertyAccessors, sameGetter, hy, missing]
          rfl
        · exact beq_of_method? hfound
  · obtain ⟨reason, rfl⟩ := error_of_unemitted unemitted (.inl getter) found
    refine ⟨_, acceptProperty_of_error ?_, .names reason reason' (.inl ?_)⟩
    · rw [propertyAccessors, missing]
      rfl
    · exact beq_of_method? (method?_of_findGetter getter)

end Dropping

/-! ### Registries -/

/-- A registry without one method of one class, each at a given place. -/
def dropping (r : Registry) (k i : Nat) : Registry :=
  { r with classes := r.classes.modify k (·.dropping i) }

/-- What a class shows to others stays without a method. -/
theorem map_dropping {α : Type} (f : ClassDef → α) (hf : ∀ c i, f (ClassDef.dropping c i) = f c)
    (r : Registry) (k i : Nat) : (r.dropping k i).classes.map f = r.classes.map f := by
  apply List.ext_getElem?
  intro j
  rw [dropping, List.getElem?_map, List.getElem?_map, List.getElem?_modify]
  cases r.classes[j]? with
  | none => rfl
  | some c =>
    split
    · exact congrArg some (hf c i)
    · rfl

theorem alike_dropping (r : Registry) (k i : Nat) :
    Alike (fun _ => True) r (r.dropping k i) where
  profile := rfl
  builtins := rfl
  sizes := rfl
  offsets := rfl
  hasClass name _ := by
    have names := congrArg (List.any · (· == ((Text.splitOwner name).1 : Name)))
      (map_dropping (·.name) (fun _ _ => rfl) r k i)
    simp only [List.any_map] at names
    rw [class?, class?, List.isSome_find?, List.isSome_find?]
    exact names
  enum? := rfl

theorem hasSubclasses_dropping (r : Registry) (k i : Nat) :
    (r.dropping k i).hasSubclasses = r.hasSubclasses := by
  funext name
  have parents := congrArg (List.any · (Option.any (· == name)))
    (map_dropping (·.parent) (fun _ _ => rfl) r k i)
  simp only [List.any_map] at parents
  exact parents

/-! ### Parts of a class -/

section Parts

variable {r : Registry} {flags : Flags} {c : ClassDef} {m : MethodDef} {i : Nat}

/-- A method that is reported as left out is found to be, with the reason reported. -/
theorem emittable_of_methodDiagnostic? {d : Diagnostic}
    (h : r.methodDiagnostic? flags c m = some d) :
    ∃ reason, r.emittable flags m = .ok (some reason) ∧ d = ⟨c.name, m.name, reason⟩ := by
  unfold methodDiagnostic? at h
  unfold emittable
  split at h
  · next bound =>
    rw [if_pos bound]
    obtain ⟨reason, hreason, rfl⟩ := Option.map_eq_some_iff.mp h
    exact ⟨reason, by rw [hreason], rfl⟩
  · next unbound =>
    rw [if_neg unbound]
    split at h
    · next virtuals =>
      rw [if_pos virtuals]
      split at h
      · next reason rejected =>
        cases h
        exact ⟨reason, rejected, rfl⟩
      · cases h
    · cases h

/-- A report on a property that may read differently: on a property that names a method. -/
def MayReword (c : ClassDef) (m : MethodDef) (d d' : Diagnostic) : Prop :=
  d' = d ∨ d'.owner = d.owner ∧ d'.member = d.member ∧
    ∃ p ∈ c.properties, p.name = d.member ∧ p.Names m.name

/-- The properties that are planned, with their accessors. -/
def accepted (checked : List (PropertyDef × Except String (MethodDef × MethodDef))) :
    List (PropertyDef × MethodDef × MethodDef) :=
  checked.filterMap fun x => x.2.toOption.map fun accessors => (x.1, accessors)

/-- What is reported about a property that was checked, if anything is. -/
def report? (c : ClassDef) (x : PropertyDef × Except String (MethodDef × MethodDef)) :
    Option Diagnostic :=
  match x.2 with
  | .error reason => some ⟨c.name, x.1.name, reason⟩
  | .ok _ => none

/-- The plans of properties follow from what the checks of all of them have found. -/
theorem properties_eq_ok {check : Option EmittableCheck} {s : PropertySet} :
    r.properties c check = .ok s ↔ ∃ checked accessors,
      (c.properties.mapM fun p => return (p, ← acceptProperty c check p)) = .ok checked ∧
      ((accepted checked).mapM fun entry => r.propertyAccessor c
        ((accepted checked).flatMap fun entry => [entry.2.1.name, entry.2.2.name])
        entry.1 entry.2.1 entry.2.2) = .ok accessors ∧
      s = ⟨accessors, checked.filterMap (report? c),
        (accepted checked).flatMap fun entry => [entry.2.1.name, entry.2.2.name]⟩ := by
  unfold properties
  constructor
  · intro h
    obtain ⟨checked, hchecked, h⟩ := bind_eq_ok.mp h
    obtain ⟨accessors, haccessors, h⟩ := bind_eq_ok.mp h
    exact ⟨checked, accessors, hchecked, haccessors, (pure_eq_ok.mp h).symm⟩
  · rintro ⟨checked, accessors, hchecked, haccessors, rfl⟩
    exact bind_eq_ok.mpr ⟨checked, hchecked, bind_eq_ok.mpr ⟨accessors, haccessors, rfl⟩⟩

/-- What a check of a property comes to without a left-out method. -/
structure Rechecked (c : ClassDef) (m : MethodDef)
    (x x' : PropertyDef × Except String (MethodDef × MethodDef)) : Prop where
  property : x'.1 = x.1
  mem : x.1 ∈ c.properties
  found : Reworded m x.1 x.2 x'.2

theorem Rechecked.accepted {x x' : PropertyDef × Except String (MethodDef × MethodDef)}
    (h : Rechecked c m x x') :
    (x'.2.toOption.map fun accessors => (x'.1, accessors)) =
      x.2.toOption.map fun accessors => (x.1, accessors) := by
  obtain ⟨p, found⟩ := x
  obtain ⟨p', found'⟩ := x'
  obtain ⟨rfl, _, reworded⟩ := h
  cases reworded with
  | same => rfl
  | names => rfl

theorem Rechecked.report {x x' : PropertyDef × Except String (MethodDef × MethodDef)}
    (h : Rechecked c m x x') : Option.Rel (MayReword c m) (report? c x) (report? c x') := by
  obtain ⟨p, found⟩ := x
  obtain ⟨p', found'⟩ := x'
  obtain ⟨rfl, hp, reworded⟩ := h
  cases reworded with
  | same =>
    cases found with
    | error reason => exact .some (.inl rfl)
    | ok accessors => exact .none
  | names reason reason' names => exact .some (.inr ⟨rfl, rfl, p', hp, rfl, names⟩)

theorem exists_properties_dropping {check : EmittableCheck} {s : PropertySet}
    (hm : c.methods[i]? = some m) (distinct : c.HasDistinctMethods)
    (unemitted : ∃ reason, check m = .ok (some reason))
    (h : r.properties c (some check) = .ok s) :
    ∃ s', r.properties (c.dropping i) (some check) = .ok s' ∧ s'.accessors = s.accessors ∧
      s'.referenced = s.referenced ∧
      List.Forall₂ (MayReword c m) s.diagnostics s'.diagnostics := by
  obtain ⟨checked, accessors, hchecked, haccessors, rfl⟩ := properties_eq_ok.mp h
  obtain ⟨checked', hchecked', related⟩ := exists_mapM_of_forall
    (g := fun p => do return (p, ← acceptProperty (c.dropping i) (some check) p))
    (R := Rechecked c m) hchecked fun p hp x hx => by
      obtain ⟨found, hfound, hx⟩ := bind_eq_ok.mp hx
      cases hx
      obtain ⟨found', hfound', reworded⟩ :=
        exists_acceptProperty_dropping hm distinct unemitted hfound
      exact ⟨(p, found'), by rw [hfound']; rfl, rfl, hp, reworded⟩
  have same : accepted checked' = accepted checked :=
    filterMap_eq_filterMap related fun _ _ _ again => again.accepted
  refine ⟨⟨accessors, checked'.filterMap (report? c), _⟩,
    properties_eq_ok.mpr ⟨checked', accessors, hchecked', ?_, ?_⟩, rfl, rfl,
    List.rel_filterMap (fun _ _ again => again.report) related⟩
  · rw [same]
    exact haccessors
  · rw [same]
    rfl

theorem exists_planProperties_dropping {s : PropertySet} (hm : c.methods[i]? = some m)
    (distinct : c.HasDistinctMethods)
    (unemitted : ∃ reason, r.emittable flags m = .ok (some reason))
    (h : r.planProperties flags c = .ok s) :
    ∃ s', r.planProperties flags (c.dropping i) = .ok s' ∧ s'.accessors = s.accessors ∧
      s'.referenced = s.referenced ∧
      List.Forall₂ (MayReword c m) s.diagnostics s'.diagnostics := by
  unfold planProperties at h ⊢
  split at h
  · next on =>
    rw [if_pos on]
    exact exists_properties_dropping hm distinct unemitted h
  · next off =>
    cases h
    rw [if_neg off]
    exact ⟨_, rfl, rfl, rfl, .nil⟩

end Parts

/-! ### Classes -/

/-- What is reported about the properties of a class. -/
def propertyDiagnostics (r : Registry) (flags : Flags) (c : ClassDef) : List Diagnostic :=
  if flags.properties then c.properties.filterMap (r.propertyDiagnostic? flags c) else []

/-- The plan of a class beside that of the class without a method that is left out. -/
structure DropsSkipped (r : Registry) (flags : Flags) (c : ClassDef) (i : Nat) (m : MethodDef)
    (d : Diagnostic) (p p' : ClassPlan) : Prop where
  cls : p'.cls = c.dropping i
  members : p'.members = p.members
  properties : p'.properties = p.properties
  dispatch : p'.dispatch = p.dispatch
  /-- The report on the method stands among those on the other methods, behind the properties'. -/
  reported : p.diagnostics =
    r.propertyDiagnostics flags c ++ (c.methods.take i).filterMap (r.methodDiagnostic? flags c) ++
      d :: (c.methods.drop (i + 1)).filterMap (r.methodDiagnostic? flags c)
  /-- Without the method it is gone, and a property that names the method may be left out for
  another reason. -/
  unreported : ∃ reworded, p'.diagnostics =
      reworded ++ (c.methods.take i).filterMap (r.methodDiagnostic? flags c) ++
        (c.methods.drop (i + 1)).filterMap (r.methodDiagnostic? flags c) ∧
    List.Forall₂ (MayReword c m) (r.propertyDiagnostics flags c) reworded

section Classes

variable {r : Registry} {flags : Flags} {c : ClassDef} {m : MethodDef} {d : Diagnostic}

theorem diagnostics_of_outcomes {methods : List MethodDef} {referenced : List Name}
    {outcomes : List Outcome} (h : methods.mapM (r.planMethod flags c referenced) = .ok outcomes) :
    outcomes.filterMap Outcome.diagnostic? = methods.filterMap (r.methodDiagnostic? flags c) :=
  filterMap_eq_filterMap ((mapM_eq_ok.mp h).imp fun _ _ => settles_of_planMethod)
    fun _ _ _ settles => settles.diagnostic

/-- A method that is reported as left out becomes no member. -/
theorem member?_eq_none {referenced : List Name} {o : Outcome}
    (hd : r.methodDiagnostic? flags c m = some d)
    (h : r.planMethod flags c referenced m = .ok o) : o.member? = none := by
  have settles := settles_of_planMethod h
  have diagnostic := settles.diagnostic
  rw [hd] at diagnostic
  cases o with
  | skipped _ => rfl
  | kept _ => cases diagnostic
  | omitted => cases diagnostic

/-- On its own registry, a class without a left-out method is planned like the class. -/
theorem exists_planClass_dropping {i : Nat} {p : ClassPlan} (hm : c.methods[i]? = some m)
    (distinct : c.HasDistinctMethods) (hd : r.methodDiagnostic? flags c m = some d)
    (h : r.planClass flags c = .ok p) :
    ∃ p', r.planClass flags (c.dropping i) = .ok p' ∧ DropsSkipped r flags c i m d p p' := by
  obtain ⟨s, outcomes, dispatch, hs, houtcomes, hdispatch, rfl⟩ := planClass_eq_ok.mp h
  obtain ⟨reason, unemitted, -⟩ := emittable_of_methodDiagnostic? hd
  obtain ⟨s', hs', accessors, referenced, reworded⟩ :=
    exists_planProperties_dropping hm distinct ⟨reason, unemitted⟩ hs
  obtain ⟨methods, others⟩ := exists_split_of_getElem? hm
  have split := mapM_eq_ok.mp houtcomes
  rw [methods] at split
  obtain ⟨before, rest, rfl, hbefore, hrest⟩ := exists_append split
  cases hrest with
  | @cons _ o _ after ho hafter =>
    have left := member?_eq_none hd ho
    have reported := (settles_of_planMethod ho).diagnostic.trans hd
    have members : (before ++ o :: after).filterMap Outcome.member? =
        (before ++ after).filterMap Outcome.member? := by
      rw [List.filterMap_append, List.filterMap_cons_none left, ← List.filterMap_append]
    have earlier := diagnostics_of_outcomes (mapM_eq_ok.mpr hbefore)
    have later := diagnostics_of_outcomes (mapM_eq_ok.mpr hafter)
    have properties : s.diagnostics = r.propertyDiagnostics flags c :=
      (coversProperties_of_planProperties hs).diagnostics
    refine ⟨classPlan (c.dropping i) s' (before ++ after) dispatch,
      planClass_eq_ok.mpr ⟨s', before ++ after, dispatch, hs', ?_, ?_, rfl⟩, ?_⟩
    · -- another method is planned by its own declaration, the class's name and the hidden names
      rw [referenced, others]
      exact mapM_eq_ok.mpr (List.rel_append hbefore hafter)
    · rw [members] at hdispatch
      exact hdispatch
    · refine ⟨rfl, members.symm, accessors, rfl, ?_, s'.diagnostics, ?_, properties ▸ reworded⟩
      · show s.diagnostics ++ (before ++ o :: after).filterMap Outcome.diagnostic? = _
        rw [List.filterMap_append, List.filterMap_cons_some reported, earlier, later, properties,
          List.append_assoc]
      · show s'.diagnostics ++ (before ++ after).filterMap Outcome.diagnostic? = _
        rw [List.filterMap_append, earlier, later, List.append_assoc]

/-- Skipping is isolated. Take away from a class whose methods have distinct names one that is
reported as left out: planned in its place, the class has the same members, the same properties
and the same dispatch table, the report on the method is gone, and every other report stands where
it stood with the reason it had, except that a property with the method as an accessor may be left
out for another reason. -/
theorem skip_isolated {k i : Nat} {p : ClassPlan} (hc : r.classes[k]? = some c)
    (hm : c.methods[i]? = some m) (distinct : c.HasDistinctMethods)
    (h : r.planClass flags c = .ok p) (hd : r.methodDiagnostic? flags c m = some d) :
    (r.dropping k i).classes[k]? = some (c.dropping i) ∧
      ∃ p', (r.dropping k i).planClass flags (c.dropping i) = .ok p' ∧
        DropsSkipped r flags c i m d p p' := by
  constructor
  · rw [dropping, List.getElem?_modify, hc]
    exact congrArg some (if_pos rfl)
  · rw [planClass_congr (alike_dropping r k i) (hasSubclasses_dropping r k i)]
    exact exists_planClass_dropping hm distinct hd h

/-- A class with a method that takes any number of arguments, which a property names as its
getter. -/
def valve : ClassDef :=
  .declaring "Valve" none
    [{ name := "get_flow", returnType := some (.primitive .float), hash := some 7 },
     { name := "get_trace", returnType := some (.primitive .float), isVararg := true,
       hash := some 8 },
     { name := "set_flow", arguments := [{ name := "flow", type := .primitive .float }],
       hash := some 9 }]
    [⟨"flow", .str "float", .str "get_flow", some (.str "set_flow"), none⟩,
     ⟨"trace", .str "float", .str "get_trace", some (.str "set_flow"), none⟩]

theorem skip_isolated_valve :
    ∃ m d p p', (ofClasses [valve]).classes[0]? = some valve ∧ valve.methods[1]? = some m ∧
      valve.HasDistinctMethods ∧ (ofClasses [valve]).planClass {} valve = .ok p ∧
      (ofClasses [valve]).methodDiagnostic? {} valve m = some d ∧
      ((ofClasses [valve]).dropping 0 1).planClass {} (valve.dropping 1) = .ok p' ∧
      DropsSkipped (ofClasses [valve]) {} valve 1 m d p p' := by
  have returns : ((ofClasses [valve]).planClass {} valve).toOption.isSome := by rfl
  obtain ⟨p, hp⟩ := exists_eq_ok returns
  have distinct : valve.HasDistinctMethods := by
    simp only [ClassDef.HasDistinctMethods, valve, ClassDef.declaring]
    decide
  obtain ⟨-, p', hp', drops⟩ := skip_isolated (k := 0) (i := 1) rfl rfl distinct hp rfl
  exact ⟨_, _, p, p', rfl, rfl, distinct, hp, rfl, hp', drops⟩

end Classes

end Registry

end EngineBindings
