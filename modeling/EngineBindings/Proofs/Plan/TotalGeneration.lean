import EngineBindings.Proofs.Plan.Total
import EngineBindings.Proofs.Schema.Resolved
import EngineBindings.Proofs.Target.Mapped

/-! Whole generations stop for stale tables alone.

Properties ask about the types of the methods that serve them, and whether these are emitted; a
dispatch table asks for names that can be looked up. Both are as regular as the methods of the
class, and so planning a class returns or stops where one of its methods does
(`returnsUnless_planClass`), and so does planning everything (`generate_or_stale`). -/
namespace EngineBindings

open Attempt

namespace Registry

variable {r : Registry} {flags : Flags} {c : ClassDef} {m : MethodDef} {reason : Prop}

/-! ### Methods of a class -/

namespace Regular

theorem planMethod (h : r.Regular m) (enums : r.HasTextEnums) (hc : c ∈ r.classes)
    (hm : m ∈ c.methods) (referenced : List Name) :
    ReturnsUnless r.IsStale (r.planMethod flags c referenced m) := by
  unfold Registry.planMethod
  split
  · refine (h.bindMethod enums referenced).bind fun b _ => ?_
    split <;> exact .ok _
  · next unbound =>
    split
    · refine (h.acceptVirtual enums ⟨hc, hm, by simpa using unbound⟩).bind fun x _ => ?_
      split <;> exact .ok _
    · exact .ok _

theorem emittable (h : r.Regular m) : ReturnsUnless r.IsStale (r.emittable flags m) := by
  unfold Registry.emittable
  split
  · exact .ok _
  · split
    · exact h.rejection
    · exact .ok _

end Regular

/-! ### Properties of a class -/

section Properties

variable {p : PropertyDef} {check : EmittableCheck}

theorem returnsUnless_unemitted {methods : List MethodDef}
    (h : ∀ m ∈ methods, ReturnsUnless reason (check m)) :
    ReturnsUnless reason (unemitted check methods) := by
  induction methods with
  | nil => exact .ok none
  | cons m rest ih =>
    obtain ⟨hm, hrest⟩ := List.forall_mem_cons.mp h
    unfold unemitted
    refine hm.bind fun found _ => ?_
    cases found with
    | some reason => exact .ok _
    | none => exact ih hrest

theorem returnsUnless_propertyAccessors (hp : ∃ name : String, p.getter = .str name)
    (hcheck : ∀ m ∈ c.methods, ReturnsUnless reason (check m)) :
    ReturnsUnless reason (propertyAccessors c (some check) p) := by
  unfold propertyAccessors
  refine .bind (.of_exists (exists_findGetter hp)) fun found hgetter => ?_
  cases found with
  | error reason => exact .ok _
  | ok getter =>
    dsimp only
    cases hsetter : findSetter c p with
    | error reason => exact .ok _
    | ok setter =>
      dsimp only
      cases arityObstacle getter setter with
      | some reason => exact .ok _
      | none =>
        have getterMem := List.mem_of_find?_eq_some (method?_of_findGetter hgetter)
        obtain ⟨_, _, setterFound⟩ := method?_of_findSetter hsetter
        have setterMem := List.mem_of_find?_eq_some setterFound
        have accessors : ∀ m ∈ [getter, setter], ReturnsUnless reason (check m) := by
          simpa using And.intro (hcheck _ getterMem) (hcheck _ setterMem)
        refine (returnsUnless_unemitted accessors).bind fun found _ => ?_
        cases found <;> exact .ok _

theorem returnsUnless_acceptProperty (texts : c.HasTextProperties) (hp : p ∈ c.properties)
    (hcheck : ∀ m ∈ c.methods, ReturnsUnless reason (check m)) :
    ReturnsUnless reason (acceptProperty c (some check) p) := by
  unfold acceptProperty
  refine (returnsUnless_propertyAccessors (texts.getters p hp) hcheck).bind fun found hfound => ?_
  cases found with
  | error reason => exact .ok _
  | ok accessors =>
    have serves := serves_of_propertyAccessors (texts.getters p hp) (texts.setters p hp) hfound
    refine .bind (.mapM fun name hname => ?_) fun _ _ => .ok _
    rcases List.mem_pair.mp hname with rfl | rfl
    · exact .of_returns ⟨_, Name.keyed_of_isText serves.offersGetter.2⟩
    · exact .of_returns ⟨_, Name.keyed_of_isText serves.offersSetter.2⟩

theorem Regular.propertyIndex {getter : MethodDef} (h : r.Regular getter) :
    ReturnsUnless r.IsStale (r.propertyIndex p getter) := by
  unfold Registry.propertyIndex
  split
  · next index a rest _ hargs =>
    refine (h.argumentTarget (hargs ▸ List.mem_cons_self ..)).bind fun target _ => ?_
    cases target <;> exact .ok _
  · exact .ok _

theorem Regular.propertyValue {setter : MethodDef} (h : r.Regular setter) (target : Target) :
    ReturnsUnless r.IsStale (r.propertyValue target setter) := by
  unfold Registry.propertyValue
  dsimp only
  split
  · exact .ok _
  · next a ha =>
    refine (h.argumentTarget (List.mem_of_getLast? ha)).bind fun target _ => ?_
    cases target with
    | string =>
      dsimp only
      split <;> exact .ok _
    | _ => exact .ok _

theorem returnsUnless_propertyAccessor {getter setter : MethodDef} (hname : p.name.IsText)
    (hget : r.Regular getter) (hset : r.Regular setter) (referenced : List Name) :
    ReturnsUnless r.IsStale (r.propertyAccessor c referenced p getter setter) := by
  unfold propertyAccessor
  exact hget.resultTarget.bind fun target _ =>
    hget.propertyIndex.bind fun index _ =>
      (hset.propertyValue target).bind fun value _ =>
        .bind (.of_returns (Name.exists_sanitize_of_isText hname)) fun _ _ =>
          .bind (.of_returns (exists_accessorName hget.texts.name referenced)) fun _ _ =>
            .bind (.of_returns (exists_accessorName hset.texts.name referenced)) fun _ _ => .ok _

/-- The properties of a class whose methods are regular. -/
theorem returnsUnless_properties (texts : c.HasTextProperties)
    (regular : ∀ m ∈ c.methods, r.Regular m)
    (hcheck : ∀ m ∈ c.methods, ReturnsUnless r.IsStale (check m)) :
    ReturnsUnless r.IsStale (r.properties c (some check)) := by
  unfold properties
  refine .bind (.mapM fun p hp => (returnsUnless_acceptProperty texts hp hcheck).bind
    fun _ _ => .ok _) fun checked hchecked => .bind (.mapM fun entry hentry => ?_) fun _ _ => .ok _
  obtain ⟨x, hx, hentry⟩ := List.mem_filterMap.mp hentry
  obtain ⟨p, hp, hpx, hfound⟩ := exists_left (checked_of_mapM hchecked) hx
  obtain ⟨q, found⟩ := x
  dsimp only at hpx hfound hentry
  subst hpx
  cases found with
  | error reason => cases hentry
  | ok accessors =>
    cases hentry
    have served := served_of_propertyAccessors hfound
    exact returnsUnless_propertyAccessor (texts.names q hp) (regular _ served.getter_mem)
      (regular _ served.setter_mem) _

end Properties

/-! ### Classes -/

/-- The trampolines among planned methods are those of methods of the class. -/
theorem method_mem_of_trampoline {referenced : List Name} {outcomes : List Outcome}
    (h : c.methods.mapM (r.planMethod flags c referenced) = .ok outcomes) {t : Trampoline}
    (ht : t ∈ (outcomes.filterMap Outcome.member?).filterMap Member.trampoline?) :
    t.method ∈ c.methods := by
  obtain ⟨x, hx, htrampoline⟩ := List.mem_filterMap.mp ht
  obtain ⟨o, ho, hmember⟩ := List.mem_filterMap.mp hx
  obtain ⟨m, hm, hplan⟩ := exists_left (mapM_eq_ok.mp h) ho
  rcases member_of_planMethod hplan hmember with ⟨b, _, rfl⟩ | ⟨t', accepted, rfl⟩
  · cases htrampoline
  · cases htrampoline
    rw [(answers_of_acceptVirtual accepted).method]
    exact hm

theorem exists_dispatch {virtuals : List Trampoline} (h : ∀ t ∈ virtuals, t.method.name.IsText) :
    ∃ table, DispatchTable.ofTrampolines c virtuals = .ok table := by
  unfold DispatchTable.ofTrampolines
  have entries : ∃ entries, (virtuals.mapM fun t => do
      return (← t.method.name.keyed, t)) = (.ok entries : Except ValueFault _) :=
    exists_mapM_eq_ok.mpr fun t ht => ⟨_, by rw [Name.keyed_of_isText (h t ht)]; rfl⟩
  obtain ⟨entries, hentries⟩ := entries
  exact ⟨_, by rw [hentries]; rfl⟩

/-- A class whose methods are regular is planned unless the registry is stale. -/
theorem returnsUnless_planClass (enums : r.HasTextEnums) (texts : c.HasTextProperties)
    (hc : c ∈ r.classes) (regular : ∀ m ∈ c.methods, r.Regular m) :
    ReturnsUnless r.IsStale (r.planClass flags c) := by
  have properties : ReturnsUnless r.IsStale (r.planProperties flags c) := by
    unfold planProperties
    split
    · exact returnsUnless_properties texts regular fun m hm => (regular m hm).emittable
    · exact .ok _
  unfold planClass
  refine properties.bind fun s _ =>
    .bind (.mapM fun m hm => (regular m hm).planMethod enums hc hm s.referenced)
      fun outcomes houtcomes => .bind (.of_returns (exists_dispatch fun t ht => ?_))
        fun _ _ => .ok _
  exact (regular _ (method_mem_of_trampoline houtcomes ht)).texts.name

/-! ### Builtins -/

section Builtins

variable {b : BuiltinDef}

theorem returnsUnless_planBuiltin (enums : r.HasTextEnums)
    (members : ∀ x ∈ b.members, x.name.IsText) (regular : ∀ m ∈ b.methods, r.Regular m) :
    ReturnsUnless r.IsStale (r.planBuiltin b) := by
  have names : checkMemberNames b = .ok () := forM_of_forall fun x hx => by
    rw [Name.keyed_of_isText (members x hx)]
    rfl
  unfold planBuiltin
  rw [names, ok_bind]
  refine .bind (.mapM fun m hm => ?_) fun _ _ => .ok _
  unfold planBuiltinMethod
  refine ((regular m hm).bindBuiltin enums).bind fun binding _ => ?_
  split
  · exact .ok _
  · split <;> exact .ok _

end Builtins

/-! ### Whole registries -/

/-- A registry whose callables are regular is planned unless it is stale. -/
theorem returnsUnless_generate (enums : r.HasTextEnums) (texts : r.HasTexts)
    (regular : ∀ m ∈ r.callables, r.Regular m) :
    ReturnsUnless r.IsStale (r.generate flags) := by
  have ofClass (c : ClassDef) (hc : c ∈ r.classes) : ∀ m ∈ c.methods, r.Regular m :=
    fun m hm => regular m (List.mem_append_left _
      (List.mem_append_left _ (List.mem_flatMap.mpr ⟨c, hc, hm⟩)))
  have ofBuiltin (b : BuiltinDef) (hb : b ∈ r.builtins) : ∀ m ∈ b.methods, r.Regular m :=
    fun m hm => regular m (List.mem_append_left _
      (List.mem_append_right _ (List.mem_flatMap.mpr ⟨b, hb, hm⟩)))
  have ofUtility (u : UtilityDef) (hu : u ∈ r.utilities) : r.Regular u.asMethod :=
    regular _ (List.mem_append_right _ (List.mem_map_of_mem hu))
  unfold generate
  refine .bind (.mapM fun c hc => ?_) fun _ _ =>
    .bind (.mapM fun u hu => (ofUtility u hu).bindUtility enums) fun _ _ =>
      .bind (.mapM fun b hb => ?_) fun _ _ => .ok _
  · exact returnsUnless_planClass enums (texts.classes c hc).properties hc (ofClass c hc)
  · have declared := (List.mem_filter.mp hb).1
    exact returnsUnless_planBuiltin enums (texts.builtins b declared).members (ofBuiltin b declared)

/-! ### Registries that were read -/

variable {configuration : String} {document : Json}

theorem regular_of_ofDocument (h : ofDocument configuration document = .ok r) (texts : r.HasTexts) :
    ∀ m ∈ r.callables, r.Regular m := by
  intro m hm
  exact ⟨hm, texts.methods hm, types_of_ofDocument h (fun _ _ text type _ hread =>
    KnownNames.isClassified_of_resolveChars text.toList type hread) m hm⟩

/-- A dial that is turned by a number of steps of a given width. -/
def dialDocument (tag : String) : Json :=
  .obj [("builtin_class_sizes",
      .arr [.obj [("build_configuration", .str "float_64"), ("sizes", .arr [])]]),
    ("classes", .arr [.obj [("name", .str "Dial"),
      ("methods", .arr [.obj [("name", .str "turn"), ("hash", .int 7),
        ("arguments", .arr [.obj [("name", .str "steps"), ("type", .str "int"),
          ("meta", .str tag)]])]])]])]

end Registry

end EngineBindings
