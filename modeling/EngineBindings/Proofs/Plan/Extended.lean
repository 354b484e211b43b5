import EngineBindings.Proofs.Plan.Agreeing
import EngineBindings.Proofs.Schema.Extended

/-! What a further class changes.

A class without members, under a name that the document does not mention, gets a plan without
members, and every other plan stays as it was but for one thing: where the class is the first that
follows another one, a binding that returns an object of that one looks the object up, where it
constructed it before, and imports the look-up besides (`MethodBinding.Follows`). The registries
agree on everything else that planning asks for, which is what `Registry.Alike` is about. -/
namespace EngineBindings

open Attempt Text

/-! ### What may change -/

/-- A class gets its first subclass with a further class. -/
def Registry.FirstChild (r : Registry) (c : ClassDef) (name : String) : Prop :=
  c.parent.any (· == (name : Name)) = true ∧ r.hasSubclasses name = false

/-- A reference to an enumeration that does not belong to a class of a given name. -/
def OwnedElsewhere (name reference : String) : Prop :=
  (splitOwner reference).1 ≠ name

/-- What becomes of a binding with a further class: it is the same, unless it returns an object of a
class that gets its first subclass. That object was constructed and is looked up now. -/
inductive MethodBinding.Follows (r : Registry) (c : ClassDef) : MethodBinding → MethodBinding → Prop
  | same {b : MethodBinding} (h : ∀ name, b.Returns name → ¬r.FirstChild c name) : Follows r c b b
  | looksUp {b : MethodBinding} {ret : ReturnPlan} {name : String} {width : Width}
      (hret : b.ret = some ret) (target : ret.target = .object name width)
      (first : r.FirstChild c name) (constructs : ret.unwrapped = constructed name) :
      Follows r c b { b with
        ret := some { ret with unwrapped := lookedUp }
        requires := b.requires ++ [⟨.runtime, "lookup_object"⟩] }

/-- What becomes of a member with a further class. -/
inductive Member.Follows (r : Registry) (c : ClassDef) : Member → Member → Prop
  | bound {b b' : MethodBinding} (h : b.Follows r c b') : Follows r c (.bound b) (.bound b')
  | overridable (t : Trampoline) : Follows r c (.overridable t) (.overridable t)

/-- What becomes of the plan of a class with a further class. -/
structure ClassPlan.Follows (r : Registry) (c : ClassDef) (p p' : ClassPlan) : Prop where
  members : List.Forall₂ (Member.Follows r c) p.members p'.members
  others : p' = { p with members := p'.members }

/-- What becomes of the plan of a builtin with a further class. -/
structure BuiltinPlan.Follows (r : Registry) (c : ClassDef) (p p' : BuiltinPlan) : Prop where
  bindings : List.Forall₂ (MethodBinding.Follows r c) p.bindings p'.bindings
  others : p' = { p with bindings := p'.bindings }

/-- The plan of a class with nothing in it. -/
def ClassDef.barePlan (c : ClassDef) : ClassPlan :=
  ⟨c, [], [], ⟨c.name, c.parent, .empty⟩, []⟩

/-- Two generations of which one has the plan of a further class besides. -/
structure Generation.Inserts (r : Registry) (c : ClassDef) (g g' : Generation) : Prop where
  plans : ∃ before after before' after', g.plans = before ++ after ∧
    g'.plans = before' ++ c.barePlan :: after' ∧
    List.Forall₂ (ClassPlan.Follows r c) before before' ∧
    List.Forall₂ (ClassPlan.Follows r c) after after'
  utilities : List.Forall₂ (MethodBinding.Follows r c) g.utilities g'.utilities
  builtins : List.Forall₂ (BuiltinPlan.Follows r c) g.builtins g'.builtins
  diagnostics : g'.diagnostics = g.diagnostics

namespace Registry

variable {r r' : Registry} {c : ClassDef} {name : String} {flags : Flags}

/-! ### What the registries agree on -/

/-- A registry with a further class has the same classes under all other names. -/
theorem Inserts.alike (h : Inserts c r r') (named : c.name = (name : Name)) :
    Alike (OwnedElsewhere name) r r' := by
  obtain ⟨before, after, split, rfl⟩ := h
  refine ⟨rfl, rfl, rfl, rfl, fun reference apart => ?_, rfl⟩
  have other : ((c.name : Name) == ((splitOwner reference).1 : Name)) = false := by
    rw [named, Name.beq_text]
    exact decide_eq_false (Ne.symm apart)
  simp [class?, split, other]

theorem Inserts.hasSubclasses (h : Inserts c r r') (name : Name) :
    r'.hasSubclasses name = (c.parent.any (· == name) || r.hasSubclasses name) := by
  obtain ⟨before, after, split, rfl⟩ := h
  simp [Registry.hasSubclasses, split, Bool.or_left_comm]

/-! ### What becomes of plans -/

/-- The symbols of a call that returns an object, the look-up behind the others if it is needed. -/
theorem callRequirements_of_object {owner : Name} {args : List ArgSlot} {ret : ReturnPlan}
    {width : Width} (h : ret.target = .object name width) :
    r.callRequirements owner args (some ret) =
      (args.flatMap (·.target.requirements) ++ ret.target.requirements).filter
          (!·.isClass owner) ++
        if r.hasSubclasses name then [⟨.runtime, "lookup_object"⟩] else [] := by
  have kept : (⟨.runtime, "lookup_object"⟩ : Requirement).isClass owner = false := rfl
  simp only [callRequirements, h, ← List.append_assoc]
  rw [List.filter_append]
  congr 1
  split
  · rw [List.filter_singleton, kept]
    rfl
  · rfl

/-- The result of a binding that constructed it is looked up where the class has subclasses now. -/
theorem wrappedBy_of_constructs {b : MethodBinding} {ret : ReturnPlan} {width : Width}
    (hb : b.wrappedBy r = b) (hret : b.ret = some ret) (htarget : ret.target = .object name width)
    (without : r.hasSubclasses name = false) (within : r'.hasSubclasses name = true) :
    ret.unwrapped = constructed name ∧ b.wrappedBy r' = { b with
      ret := some { ret with unwrapped := lookedUp }
      requires := b.requires ++ [⟨.runtime, "lookup_object"⟩] } := by
  have results := congrArg MethodBinding.ret hb
  have requirements := congrArg MethodBinding.requires hb
  simp only [MethodBinding.wrappedBy, hret, Option.map_some, Option.some.injEq]
    at results requirements
  have wrapped := congrArg ReturnPlan.unwrapped results
  rw [callRequirements_of_object htarget, without] at requirements
  simp only [ReturnPlan.wrappedBy, htarget, wrapping, without] at wrapped
  refine ⟨wrapped.symm, ?_⟩
  have extended : r'.callRequirements b.owner b.args b.ret =
      b.requires ++ [⟨.runtime, "lookup_object"⟩] := by
    rw [hret, callRequirements_of_object htarget, within, ← requirements]
    simp
  have result : ret.wrappedBy r' = { ret with unwrapped := lookedUp } := by
    simp only [ReturnPlan.wrappedBy, htarget, wrapping, within, if_true]
  rw [MethodBinding.wrappedBy, extended, hret, Option.map_some, result]

theorem follows_wrappedBy (h : Inserts c r r') {b : MethodBinding} (hb : b.wrappedBy r = b) :
    b.Follows r c (b.wrappedBy r') := by
  by_cases hfirst : ∃ name, b.Returns name ∧ r.FirstChild c name
  · obtain ⟨name, ⟨ret, width, hret, htarget⟩, first⟩ := hfirst
    have within : r'.hasSubclasses name = true := by rw [h.hasSubclasses, first.1, Bool.true_or]
    obtain ⟨constructs, hwrapped⟩ := wrappedBy_of_constructs hb hret htarget first.2 within
    rw [hwrapped]
    exact .looksUp hret htarget first constructs
  · have same : b.wrappedBy r' = b := by
      refine (wrappedBy_congr fun name hname => ?_).trans hb
      rw [h.hasSubclasses]
      cases hparent : c.parent.any (· == (name : Name)) with
      | false => rfl
      | true =>
        have known : r.hasSubclasses name ≠ false :=
          fun without => hfirst ⟨name, hname, hparent, without⟩
        rw [Bool.true_or, Bool.of_not_eq_false known]
    rw [same]
    exact .same fun name hname first => hfirst ⟨name, hname, first⟩

theorem follows_classPlan (h : Inserts c r r') {p : ClassPlan} (hp : p.wrappedBy r = p) :
    p.Follows r c (p.wrappedBy r') := by
  have members := congrArg ClassPlan.members hp
  refine ⟨?_, rfl⟩
  show List.Forall₂ _ p.members (p.members.map (·.wrappedBy r'))
  rw [List.forall₂_map_right_iff, List.forall₂_same]
  intro x hx
  have hx : x.wrappedBy r = x := List.map_inj_left.mp (members.trans (List.map_id _).symm) x hx
  cases x with
  | bound b => exact .bound (follows_wrappedBy h (Member.bound.inj hx))
  | overridable t => exact .overridable t

theorem follows_builtinPlan (h : Inserts c r r') {p : BuiltinPlan} (hp : p.wrappedBy r = p) :
    p.Follows r c (p.wrappedBy r') := by
  have bindings := congrArg BuiltinPlan.bindings hp
  refine ⟨?_, rfl⟩
  show List.Forall₂ _ p.bindings (p.bindings.map (·.wrappedBy r'))
  rw [List.forall₂_map_right_iff, List.forall₂_same]
  intro b hb
  exact follows_wrappedBy h (List.map_inj_left.mp (bindings.trans (List.map_id _).symm) b hb)

theorem planClass_of_isBare (bare : c.IsBare) (flags : Flags) :
    r.planClass flags c = .ok c.barePlan := by
  have properties : r.planProperties flags c = .ok ⟨[], [], []⟩ := by
    unfold planProperties Registry.properties
    rw [bare.properties]
    split <;> rfl
  unfold planClass
  rw [properties, bare.methods]
  rfl

/-! ### Generations -/

section Wrapped

variable {α β : Type} {xs : List α} {ys : List β} {f g : α → Except Fault β} {wrap : β → β}

/-- What is planned with another wrapping can be wrapped once all of it is planned. -/
theorem mapM_of_wrapped (h : xs.mapM f = .ok ys) (hg : ∀ x ∈ xs, g x = (f x).map wrap) :
    xs.mapM g = .ok (ys.map wrap) := by
  rw [mapM_congr hg, ← map_mapM, h]
  rfl

/-- What is planned with the wrapping that it has is wrapped already. -/
theorem eq_of_wrapped (h : xs.mapM f = .ok ys) (hf : ∀ x ∈ xs, f x = (f x).map wrap) :
    ∀ y ∈ ys, wrap y = y := by
  intro y hy
  obtain ⟨x, hx, hfx⟩ := exists_left (mapM_eq_ok.mp h) hy
  have fixed := hf x hx
  rw [hfx] at fixed
  exact (Except.ok.inj fixed).symm

theorem forall₂_wrapped {R : β → β → Prop} (h : ∀ y ∈ ys, R y (wrap y)) :
    List.Forall₂ R ys (ys.map wrap) := by
  rwa [List.forall₂_map_right_iff, List.forall₂_same]

end Wrapped

section Inserted

variable (h : Inserts c r r') (named : c.name = (name : Name))
  (apart : ∀ m ∈ r.callables, m.Within (OwnedElsewhere name))
include h named apart

theorem plans_inserted {plans : List ClassPlan}
    (hplans : r.classes.mapM (r.planClass flags) = .ok plans) :
    r.classes.mapM (r'.planClass flags) = .ok (plans.map (·.wrappedBy r')) ∧
      ∀ p ∈ plans, p.Follows r c (p.wrappedBy r') := by
  have within : ∀ x ∈ r.classes, x.Within (OwnedElsewhere name) := fun x hx m hm =>
    apart m (List.mem_append_left _ (List.mem_append_left _ (List.mem_flatMap.mpr ⟨x, hx, hm⟩)))
  refine ⟨mapM_of_wrapped hplans fun x hx => (h.alike named).planClass (within x hx) flags, ?_⟩
  exact fun p hp => follows_classPlan h
    (eq_of_wrapped hplans (fun x hx => (Alike.refl _ r).planClass (within x hx) flags) p hp)

theorem utilities_inserted {utilities : List MethodBinding}
    (hutilities : r.utilities.mapM r.bindUtility = .ok utilities) :
    r.utilities.mapM r'.bindUtility = .ok (utilities.map (·.wrappedBy r')) ∧
      ∀ b ∈ utilities, b.Follows r c (b.wrappedBy r') := by
  have within : ∀ u ∈ r.utilities, u.asMethod.Within (OwnedElsewhere name) := fun u hu =>
    apart _ (List.mem_append_right _ (List.mem_map_of_mem hu))
  refine ⟨mapM_of_wrapped hutilities fun u hu => (h.alike named).bindUtility (within u hu), ?_⟩
  exact fun b hb => follows_wrappedBy h
    (eq_of_wrapped hutilities (fun u hu => (Alike.refl _ r).bindUtility (within u hu)) b hb)

theorem builtins_inserted {builtins : List BuiltinPlan}
    (hbuiltins : r.plannedBuiltins.mapM r.planBuiltin = .ok builtins) :
    r'.plannedBuiltins.mapM r'.planBuiltin = .ok (builtins.map (·.wrappedBy r')) ∧
      ∀ p ∈ builtins, p.Follows r c (p.wrappedBy r') := by
  have within : ∀ b ∈ r.plannedBuiltins, ∀ m ∈ b.methods, m.Within (OwnedElsewhere name) :=
    fun b hb m hm => apart m (List.mem_append_left _ (List.mem_append_right _
      (List.mem_flatMap.mpr ⟨b, List.mem_of_mem_filter hb, hm⟩)))
  rw [(h.alike named).plannedBuiltins]
  refine ⟨mapM_of_wrapped hbuiltins fun b hb => (h.alike named).planBuiltin (within b hb), ?_⟩
  exact fun p hp => follows_builtinPlan h
    (eq_of_wrapped hbuiltins (fun b hb => (Alike.refl _ r).planBuiltin (within b hb)) p hp)

theorem exists_generate_inserted {g : Generation} (bare : c.IsBare)
    (hg : r.generate flags = .ok g) :
    ∃ g', r'.generate flags = .ok g' ∧ g.Inserts r c g' := by
  obtain ⟨plans, hplans, hg⟩ := bind_eq_ok.mp hg
  obtain ⟨utilities, hutilities, hg⟩ := bind_eq_ok.mp hg
  obtain ⟨builtins, hbuiltins, hg⟩ := bind_eq_ok.mp hg
  cases hg
  obtain ⟨hplans', planFollows⟩ := plans_inserted h named apart hplans
  obtain ⟨hutilities', utilityFollows⟩ := utilities_inserted h named apart hutilities
  obtain ⟨hbuiltins', builtinFollows⟩ := builtins_inserted h named apart hbuiltins
  have outcomes : (utilities.map (·.wrappedBy r')).map MethodBinding.outcome =
      (utilities.map MethodBinding.outcome).map (·.map (·.wrappedBy r')) := by
    simp only [List.map_map, Function.comp_def, MethodBinding.outcome_wrappedBy]
  obtain ⟨before, after, split, rfl⟩ := h
  rw [split] at hplans'
  obtain ⟨before', after', hmap, hread⟩ :=
    exists_mapM_insert hplans' (planClass_of_isBare bare flags)
  obtain ⟨first, last, rfl, rfl, rfl⟩ := List.map_eq_append_iff.mp hmap
  rw [generate, hread, ok_bind, hutilities', ok_bind, hbuiltins', ok_bind, outcomes,
    successes_map, failures_map]
  refine ⟨_, rfl, ?_⟩
  constructor
  case plans =>
    exact ⟨first, last, _, _, rfl, rfl,
      forall₂_wrapped fun p hp => planFollows p (List.mem_append_left _ hp),
      forall₂_wrapped fun p hp => planFollows p (List.mem_append_right _ hp)⟩
  case utilities => exact forall₂_wrapped fun b hb => utilityFollows b (mem_of_successes hb)
  case builtins => exact forall₂_wrapped builtinFollows
  case diagnostics =>
    simp [ClassDef.barePlan, ClassPlan.wrappedBy, BuiltinPlan.wrappedBy, List.flatMap_map]

end Inserted

/-- Adding a class changes nothing else. Where a document is read and planned, so it is with a
further class that has no members, inherits from one of the classes or from none and has a name that
the document does not mention: the class gets a plan with nothing in it, and every other plan,
utility function and builtin stays as it was, except that a binding that returns an object of a
class which had no subclass before, and which the new class inherits from, looks the object up
instead of constructing it and requires the look-up besides. -/
theorem further_class_changes_no_more {configuration : String} {document document' entry : Json}
    {names : KnownNames} {g : Generation} (hr : ofDocument configuration document = .ok r)
    (hg : r.generate flags = .ok g) (inserts : Schema.Inserts entry document document')
    (hentry : Schema.classDef names entry = .ok c) (bare : c.IsBare)
    (named : c.name = (name : Name)) (unmentioned : document.Unmentioned name)
    (parent : ∀ p ∈ c.parent, ∃ x ∈ r.classes, x.name = p) :
    ∃ r' g', ofDocument configuration document' = .ok r' ∧ r'.generate flags = .ok g' ∧
      Inserts c r r' ∧ g.Inserts r c g' := by
  obtain ⟨r', hr', inserted⟩ := ofDocument_inserted inserts hr hentry bare named unmentioned parent
  have apart : ∀ m ∈ r.callables, m.Within (OwnedElsewhere name) :=
    owner_ne_of_unmentioned hr unmentioned
  obtain ⟨g', hg', generated⟩ := exists_generate_inserted inserted named apart bare hg
  exact ⟨r', g', hr', hg', inserted, generated⟩

/-- A garden that returns its plant, with further classes between the two. -/
def gardenFields (further : List Json) : Schema.Fields :=
  [("builtin_class_sizes",
      .arr [.obj [("build_configuration", .str "float_64"), ("sizes", .arr [])]]),
    ("classes", .arr (.obj [("name", .str "Plant")] :: further ++
      [.obj [("name", .str "Garden"),
        ("methods", .arr [.obj [("name", .str "get_plant"), ("hash", .int 7),
          ("return_value", .obj [("type", .str "Plant")])]])]]))]

/-- The entry of the first class that inherits from a plant. -/
def fern : Json :=
  .obj [("name", .str "Fern"), ("inherits", .str "Plant")]

/-- With the first fern the garden looks its plant up, which it constructed before. -/
theorem further_class_changes_no_more_fern :
    ∃ r g c r' g', ofDocument "float_64" (.obj (gardenFields [])) = .ok r ∧
      r.generate {} = .ok g ∧
      Schema.Inserts fern (.obj (gardenFields [])) (.obj (gardenFields [fern])) ∧
      Schema.classDef ⟨[], [], []⟩ fern = .ok c ∧ c.IsBare ∧ c.name = ("Fern" : Name) ∧
      (Json.obj (gardenFields [])).Unmentioned "Fern" ∧
      (∀ p ∈ c.parent, ∃ x ∈ r.classes, x.name = p) ∧ r.FirstChild c "Plant" ∧
      (∃ p ∈ g.plans, ∃ b ∈ p.bindings, b.Returns "Plant") ∧
      ofDocument "float_64" (.obj (gardenFields [fern])) = .ok r' ∧ r'.generate {} = .ok g' ∧
      Inserts c r r' ∧ g.Inserts r c g' := by
  have returns : (ofDocument "float_64" (.obj (gardenFields []))).toOption.any fun r =>
      (r.generate {}).toOption.any (fun g => g.plans.any fun p => p.bindings.any fun b =>
        b.ret.any fun ret => ret.target = .object "Plant" .w64) &&
      !r.hasSubclasses "Plant" && r.classes.any (·.name.text? = some "Plant") := by
    decide +kernel
  obtain ⟨r, hr, facts⟩ := exists_eq_ok_of_any returns
  simp only [Bool.and_eq_true, Bool.not_eq_true', List.any_eq_true, decide_eq_true_eq] at facts
  obtain ⟨⟨planned, without⟩, plant, hplant, hname⟩ := facts
  obtain ⟨g, hg, hany⟩ := exists_eq_ok_of_any planned
  simp only [List.any_eq_true, Option.any_eq_true, decide_eq_true_eq] at hany
  obtain ⟨p, hp, b, hb, ret, hret, target⟩ := hany
  have inserts : Schema.Inserts fern (.obj (gardenFields [])) (.obj (gardenFields [fern])) :=
    .classes (fun key hkey => by
      simp [Json.find?, gardenFields, List.find?_cons, Ne.symm hkey]) rfl rfl
  have hentry : Schema.classDef ⟨[], [], []⟩ fern =
      .ok (.declaring "Fern" (some ("Plant" : Name)) [] []) := rfl
  have bare : (ClassDef.declaring "Fern" (some ("Plant" : Name)) [] []).IsBare := ⟨rfl, rfl, rfl⟩
  have unmentioned : (Json.obj (gardenFields [])).Unmentioned "Fern" :=
    Json.unmentioned_of_contains (by decide) (by decide +kernel)
  have parent : ∀ p ∈ some ("Plant" : Name), ∃ x ∈ r.classes, x.name = p := by
    rintro _ ⟨⟩
    exact ⟨plant, hplant, Name.eq_text_of_text? hname⟩
  obtain ⟨r', g', hr', hg', inserted, generated⟩ :=
    further_class_changes_no_more hr hg inserts hentry bare rfl unmentioned parent
  exact ⟨r, g, _, r', g', hr, hg, inserts, hentry, bare, rfl, unmentioned, parent, ⟨rfl, without⟩,
    ⟨p, hp, b, hb, ret, .w64, hret, target⟩, hr', hg', inserted, generated⟩

end Registry

end EngineBindings
