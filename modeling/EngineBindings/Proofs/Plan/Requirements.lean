import EngineBindings.Proofs.Plan.Accessor
import EngineBindings.Proofs.Target.Needs

/-! Where the requirements of a generation come from.

Members, properties and bindings require symbols in many places. All of them are symbols of the
runtime module, or needed to name a type in the signature of some method that the schema declares
(`stems_of_requires`). -/
namespace EngineBindings

open Attempt

/-- A symbol that something planned requires. -/
inductive Generation.Requires (g : Generation) : Requirement → Prop
  | member {p : ClassPlan} {x : Member} {q : Requirement} (hp : p ∈ g.plans) (hx : x ∈ p.members)
      (hq : q ∈ x.requires) : Requires g q
  | property {p : ClassPlan} {a : PropertyAccessor} {q : Requirement} (hp : p ∈ g.plans)
      (ha : a ∈ p.properties) (hq : q ∈ a.requires) : Requires g q
  | utility {b : MethodBinding} {q : Requirement} (hb : b ∈ g.utilities) (hq : q ∈ b.requires) :
      Requires g q
  | builtin {p : BuiltinPlan} {b : MethodBinding} {q : Requirement} (hp : p ∈ g.builtins)
      (hb : b ∈ p.bindings) (hq : q ∈ b.requires) : Requires g q

namespace Registry

variable {r : Registry} {flags : Flags} {c : ClassDef} {m : MethodDef}

/-- A symbol of the runtime module, or one that names a type in a method's signature. -/
def Stems (r : Registry) (m : MethodDef) (q : Requirement) : Prop :=
  q.origin = .runtime ∨ ∃ type ∈ m.types, r.Needs type.leaf q

theorem stems_of_argument {a : ArgumentDef} {use : TypeUse} {t : Target} {q : Requirement}
    (ha : a ∈ m.arguments) (h : r.argumentTarget a use = .ok t) (hq : q ∈ t.requirements) :
    r.Stems m q := by
  rcases needs_of_target h hq with hruntime | hneeds
  · exact .inl hruntime
  · exact .inr ⟨a.type, List.mem_append_left _ (List.mem_map.mpr ⟨a, ha, rfl⟩), hneeds⟩

theorem stems_of_result {type : TypeRef} {tag : Json} {use : TypeUse} {t : Target}
    {q : Requirement} (hm : m.result? = some type) (h : r.target type tag use = .ok t)
    (hq : q ∈ t.requirements) : r.Stems m q := by
  rcases needs_of_target h hq with hruntime | hneeds
  · exact .inl hruntime
  · exact .inr ⟨type, List.mem_append_right _ (by simp [hm]), hneeds⟩

/-! ### Calls into the engine -/

/-- Giving arguments defaults leaves everything else about them alone. -/
theorem keeps_of_attachDefaults {pairs : List (ArgumentDef × ArgSlot)} {slots : List ArgSlot}
    (h : attachDefaults pairs = .ok slots) :
    List.Forall₂ (fun entry slot => ∃ default, slot = { entry.2 with default }) pairs slots := by
  induction pairs generalizing slots with
  | nil =>
    cases h
    exact .nil
  | cons entry rest ih =>
    obtain ⟨a, slot⟩ := entry
    obtain ⟨literal?, _, h⟩ := bind_eq_ok.mp h
    cases literal? with
    | none =>
      cases h
      refine .cons ⟨slot.default, rfl⟩ (List.forall₂_map_right_iff.mpr ?_)
      exact List.forall₂_same.mpr fun entry _ => ⟨entry.2.default, rfl⟩
    | some literal =>
      obtain ⟨others, hothers, h⟩ := bind_eq_ok.mp h
      cases h
      exact .cons ⟨some literal, rfl⟩ (ih hothers)

/-- The slots are those of the arguments in order, up to their defaults. -/
theorem planned_of_argSlots {use : TypeUse} {args : List ArgumentDef} {slots : List ArgSlot}
    (h : r.argSlots use args = .ok slots) :
    List.Forall₂ (fun a slot => ∃ fresh, r.argSlot use a = .ok fresh ∧
      ∃ default, slot = { fresh with default }) args slots := by
  obtain ⟨bare, hbare, h⟩ := bind_eq_ok.mp h
  obtain ⟨attached, hattached, h⟩ := bind_eq_ok.mp h
  cases h
  have planned := List.forall₂_iff_zip.mp (mapM_eq_ok.mp hbare)
  have kept := List.rel_reverse (keeps_of_attachDefaults hattached)
  rw [List.reverse_reverse] at kept
  have both := (List.forall₂_and_left _ _).mpr ⟨fun entry hentry => planned.2 hentry, kept⟩
  have hargs : (args.zip bare).map Prod.fst = args :=
    List.map_fst_zip (Nat.le_of_eq planned.1)
  rw [← hargs]
  exact List.forall₂_map_left_iff.mpr (both.imp fun entry slot h => ⟨entry.2, h.1, h.2⟩)

/-- Every slot is that of an argument, up to its default. -/
theorem exists_argSlot_of_argSlots {use : TypeUse} {args : List ArgumentDef}
    {slots : List ArgSlot} (h : r.argSlots use args = .ok slots) :
    ∀ slot ∈ slots, ∃ a ∈ args, ∃ fresh, r.argSlot use a = .ok fresh ∧
      ∃ default, slot = { fresh with default } :=
  fun _ hslot => exists_left (planned_of_argSlots h) hslot

theorem target_of_argSlots {use : TypeUse} {args : List ArgumentDef} {slots : List ArgSlot}
    (h : r.argSlots use args = .ok slots) :
    ∀ slot ∈ slots, ∃ a ∈ args, r.argumentTarget a use = .ok slot.target := by
  intro slot hslot
  obtain ⟨a, ha, fresh, hfresh, default, rfl⟩ := exists_argSlot_of_argSlots h slot hslot
  exact ⟨a, ha, (fresh_of_argSlot hfresh).target⟩

theorem stems_of_planCall {owner : Name} {exposedName handleName : String} {isPrivate : Bool}
    {kind : BindingKind} {use : TypeUse} {b : MethodBinding}
    (h : r.planCall owner m exposedName handleName isPrivate kind use = .ok b) :
    ∀ q ∈ b.requires, r.Stems m q := by
  rw [planCall_eq] at h
  intro q hq
  cases hs : signatureObstacle m with
  | some reason =>
    rw [hs] at h
    cases h
    cases hq
  | none =>
    rw [hs] at h
    obtain ⟨args, hargs, h⟩ := bind_eq_ok.mp h
    obtain ⟨ret, hret, h⟩ := bind_eq_ok.mp h
    cases h
    rcases List.mem_append.mp (List.mem_filter.mp hq).1 with hq | hq
    · obtain ⟨slot, hslot, hq⟩ := List.mem_flatMap.mp hq
      obtain ⟨a, ha, htarget⟩ := target_of_argSlots hargs slot hslot
      exact stems_of_argument ha htarget hq
    · cases hm : m.result? with
      | none =>
        rw [resultPlan, hm] at hret
        cases hret
        cases hq
      | some type =>
        rw [resultPlan, hm] at hret
        obtain ⟨plan, hplan, rfl⟩ := map_eq_ok.mp hret
        rcases List.mem_append.mp hq with hq | hlookup
        · exact stems_of_result hm (target_of_returnPlan hplan) hq
        · -- A class with subclasses is looked up by a function of the runtime module.
          split at hlookup
          · split at hlookup
            · rw [List.mem_singleton.mp hlookup]
              exact .inl rfl
            · cases hlookup
          · cases hlookup

/-! ### Virtual methods -/

/-- The targets of a trampoline's arguments and of its result are those of its method's types, and
so is the zero value. -/
theorem targets_of_trampolineSlots {args : List TrampolineArg}
    {ret : Option (Target × List Code.Stmt × Code.Expr)}
    (h : r.trampolineSlots m = .ok (args, ret)) :
    (∀ arg ∈ args, ∃ a ∈ m.arguments, r.argumentTarget a .member = .ok arg.target) ∧
      ∀ found, ret = some found → ∃ type, m.result? = some type ∧
        r.target type m.returnTag .member = .ok found.1 ∧ r.defaultValue type = .ok found.2.2 := by
  obtain ⟨loads, hloads, h⟩ := bind_eq_ok.mp h
  have arguments : ∀ arg ∈ loads, ∃ a ∈ m.arguments,
      r.argumentTarget a .member = .ok arg.target := by
    intro arg harg
    obtain ⟨⟨a, index⟩, hentry, hload⟩ := exists_left (mapM_eq_ok.mp hloads) harg
    obtain ⟨target, htarget, hload⟩ := bind_eq_ok.mp hload
    obtain ⟨name, _, hload⟩ := bind_eq_ok.mp hload
    obtain ⟨load, _, hload⟩ := bind_eq_ok.mp hload
    cases hload
    exact ⟨a, List.fst_mem_of_mem_zipIdx hentry, htarget⟩
  cases hm : m.result? with
  | none =>
    rw [hm] at h
    cases h
    exact ⟨arguments, fun found hfound => by cases hfound⟩
  | some type =>
    rw [hm] at h
    obtain ⟨target, htarget, h⟩ := bind_eq_ok.mp h
    obtain ⟨store, _, h⟩ := bind_eq_ok.mp h
    obtain ⟨default, hdefault, h⟩ := bind_eq_ok.mp h
    cases h
    refine ⟨arguments, fun found hfound => ?_⟩
    cases hfound
    exact ⟨type, rfl, htarget, hdefault⟩

theorem stems_of_trampoline {t : Trampoline} (h : r.trampoline c m = .ok t) :
    ∀ q ∈ t.requires, r.Stems m q := by
  obtain ⟨⟨args, ret⟩, hslots, h⟩ := bind_eq_ok.mp h
  obtain ⟨exposed, _, h⟩ := bind_eq_ok.mp h
  cases h
  obtain ⟨arguments, returned⟩ := targets_of_trampolineSlots hslots
  intro q hq
  rcases List.mem_append.mp (List.mem_filter.mp hq).1 with hq | hq
  · obtain ⟨arg, harg, hq⟩ := List.mem_flatMap.mp hq
    obtain ⟨a, ha, htarget⟩ := arguments arg harg
    rcases List.mem_append.mp hq with hq | hlive
    · exact stems_of_argument ha htarget hq
    · -- Objects are looked up by a function of the runtime module.
      dsimp only at hlive
      split at hlive
      · rw [List.mem_singleton.mp hlive]
        exact .inl rfl
      · cases hlive
  · cases ret with
    | none => cases hq
    | some found =>
      obtain ⟨type, hm, htarget, _⟩ := returned found rfl
      exact stems_of_result hm htarget hq

/-! ### Members and properties of a class -/

theorem stems_of_member {p : ClassPlan} {x : Member} (h : r.planClass flags c = .ok p)
    (hx : x ∈ p.members) : ∀ q ∈ x.requires, ∃ m ∈ c.methods, r.Stems m q := by
  intro q hq
  obtain ⟨m, hm, ⟨b, _, hbind, rfl⟩ | ⟨t, haccept, rfl⟩⟩ := member_of_planClass h hx
  · obtain ⟨exposed, _, hcall⟩ := bind_eq_ok.mp hbind
    exact ⟨m, hm, stems_of_planCall hcall q hq⟩
  · rcases acceptVirtual_eq_ok.mp haccept with ⟨_, _, hx⟩ | ⟨_, t', ht, hx⟩
    · cases hx
    · cases hx
      exact ⟨m, hm, stems_of_trampoline ht q hq⟩

/-- An index is a number, or a value of the type of the getter's argument. -/
theorem stems_of_propertyIndex {p : PropertyDef} {getter : MethodDef}
    {index : Option (Code.Expr × List Requirement)} (h : r.propertyIndex p getter = .ok index) :
    ∀ found, index = some found → ∀ q ∈ found.2, r.Stems getter q := by
  unfold propertyIndex at h
  split at h
  · next number a rest _ harguments =>
    obtain ⟨target, htarget, h⟩ := bind_eq_ok.mp h
    have ha : a ∈ getter.arguments := by
      rw [harguments]
      exact List.mem_cons_self ..
    intro found hfound q hq
    split at h
    · cases h
      cases hfound
      cases hq
    · cases h
      cases hfound
      exact stems_of_argument ha htarget hq
  · cases h
    exact fun found hfound => by cases hfound

/-- Writing a property requires nothing but the text type of the runtime module. -/
theorem runtime_of_propertyValue {target : Target} {setter : MethodDef}
    {found : Code.Expr × List Requirement} (h : r.propertyValue target setter = .ok found) :
    ∀ q ∈ found.2, q.origin = .runtime := by
  unfold propertyValue at h
  dsimp only at h
  split at h
  · cases h
    exact fun q hq => (List.not_mem_nil hq).elim
  · obtain ⟨parameter, _, h⟩ := bind_eq_ok.mp h
    split at h
    · split at h
      · cases h
        intro q hq
        rw [List.mem_singleton.mp hq]
      · cases h
        exact fun q hq => (List.not_mem_nil hq).elim
    · cases h
      exact fun q hq => (List.not_mem_nil hq).elim

/-- A property requires what its getter's types are known by, and the text type. -/
theorem stems_of_propertyAccessor {referenced : List Name} {p : PropertyDef}
    {getter setter : MethodDef} {a : PropertyAccessor}
    (h : r.propertyAccessor c referenced p getter setter = .ok a) :
    ∀ q ∈ a.requires, r.Stems getter q := by
  unfold propertyAccessor at h
  obtain ⟨target, htarget, h⟩ := bind_eq_ok.mp h
  obtain ⟨index, hindex, h⟩ := bind_eq_ok.mp h
  obtain ⟨⟨value, requires⟩, hvalue, h⟩ := bind_eq_ok.mp h
  obtain ⟨exposed, _, h⟩ := bind_eq_ok.mp h
  obtain ⟨getterName, _, h⟩ := bind_eq_ok.mp h
  obtain ⟨setterName, _, h⟩ := bind_eq_ok.mp h
  rw [← pure_eq_ok.mp h]
  intro q hq
  rcases List.mem_append.mp (List.mem_filter.mp hq).1 with hq | hq
  · rcases List.mem_append.mp hq with hq | hq
    · cases hm : getter.result? with
      | none =>
        rw [resultTarget, hm] at htarget
        cases htarget
        cases hq
      | some type =>
        rw [resultTarget, hm] at htarget
        exact stems_of_result hm htarget hq
    · cases index with
      | none => cases hq
      | some found => exact stems_of_propertyIndex hindex found rfl q hq
  · exact .inl (runtime_of_propertyValue hvalue q hq)

theorem stems_of_planClass {p : ClassPlan} (h : r.planClass flags c = .ok p) :
    (∀ x ∈ p.members, ∀ q ∈ x.requires, ∃ m ∈ c.methods, r.Stems m q) ∧
      ∀ a ∈ p.properties, ∀ q ∈ a.requires, ∃ m ∈ c.methods, r.Stems m q := by
  obtain ⟨referenced, accessors⟩ := plansAccessors_of_planClass h
  constructor
  · exact fun x hx => stems_of_member h hx
  · intro a ha q hq
    have plans := accessors.properties a ha
    exact ⟨a.getter, plans.served.getter_mem, stems_of_propertyAccessor plans.planned q hq⟩

/-! ### The whole generation -/

theorem stems_of_planBuiltin {v : BuiltinDef} {p : BuiltinPlan} (h : r.planBuiltin v = .ok p) :
    ∀ b ∈ p.bindings, ∀ q ∈ b.requires, ∃ m ∈ v.methods, r.Stems m q := by
  intro b hb q hq
  obtain ⟨m, hm, hbind⟩ := bindBuiltin_of_mem h b hb
  obtain ⟨exposed, _, hcall⟩ := bind_eq_ok.mp hbind
  exact ⟨m, hm, stems_of_planCall hcall q hq⟩

theorem stems_of_bindUtility {u : UtilityDef} {b : MethodBinding}
    (h : r.bindUtility u = .ok b) : ∀ q ∈ b.requires, r.Stems u.asMethod q := by
  obtain ⟨exposed, _, hcall⟩ := bind_eq_ok.mp h
  exact stems_of_planCall hcall

/-- Whatever a generation requires is a symbol of the runtime module, or names a type in the
signature of a callable that the schema declares. -/
theorem stems_of_requires {g : Generation} (h : r.generate flags = .ok g) {q : Requirement}
    (hq : g.Requires q) : ∃ m ∈ r.callables, r.Stems m q := by
  have generates := generates_of_generate h
  have ofClass {c : ClassDef} (hc : c ∈ r.classes) (found : ∃ m ∈ c.methods, r.Stems m q) :
      ∃ m ∈ r.callables, r.Stems m q := by
    obtain ⟨m, hm, stems⟩ := found
    exact ⟨m, List.mem_append_left _ (List.mem_append_left _ (List.mem_flatMap.mpr ⟨c, hc, hm⟩)),
      stems⟩
  cases hq with
  | member hp hx hq =>
    obtain ⟨c, hc, hplan⟩ := exists_left generates.plans hp
    exact ofClass hc ((stems_of_planClass hplan).1 _ hx q hq)
  | property hp ha hq =>
    obtain ⟨c, hc, hplan⟩ := exists_left generates.plans hp
    exact ofClass hc ((stems_of_planClass hplan).2 _ ha q hq)
  | utility hb hq =>
    obtain ⟨u, hu, hbind⟩ := generates.utilities _ hb
    exact ⟨u.asMethod, List.mem_append_right _ (List.mem_map.mpr ⟨u, hu, rfl⟩),
      stems_of_bindUtility hbind q hq⟩
  | builtin hp hb hq =>
    obtain ⟨v, hv, hplan⟩ := exists_left generates.builtins hp
    obtain ⟨m, hm, stems⟩ := stems_of_planBuiltin hplan _ hb q hq
    exact ⟨m, List.mem_append_left _ (List.mem_append_right _
      (List.mem_flatMap.mpr ⟨v, (List.mem_filter.mp hv).1, hm⟩)), stems⟩

end Registry

end EngineBindings
