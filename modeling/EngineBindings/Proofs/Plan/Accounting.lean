import EngineBindings.Manifest
import EngineBindings.Proofs.Plan.Accessor
import EngineBindings.Proofs.Schema.Decoded

/-! Nothing is lost and nothing is reported twice.

Every declaration of a schema is planned, reported with a reason, or belongs to a kind that is
switched off. Which of these it is depends on the declaration alone: `isEmitted` says so for the
methods of a class, and `methodDiagnostic?` and `propertyDiagnostic?` say what is reported for
the others. `accounts_of_generate` reads a whole generation off the registry in these terms; the
counts of the manifest add up because of it. -/
namespace EngineBindings

open Attempt Text

namespace Registry

variable {r : Registry} {flags : Flags} {c : ClassDef} {m : MethodDef}

/-! ### What a declaration comes to -/

/-- Whether a method of a class becomes a member: a bound one with a signature that can cross the
interface, and a virtual one that nothing keeps out, where virtual methods are planned. -/
def isEmitted (r : Registry) (flags : Flags) (m : MethodDef) : Bool :=
  if m.hash.isSome then (signatureObstacle m).isNone
  else flags.virtuals && r.rejection m matches .ok none

/-- Whether a method of a class is of a kind that is switched off. -/
def isSwitchedOff (flags : Flags) (m : MethodDef) : Bool :=
  m.hash.isNone && !flags.virtuals

/-- What is reported for a method of a class, if anything is. -/
def methodDiagnostic? (r : Registry) (flags : Flags) (c : ClassDef) (m : MethodDef) :
    Option Diagnostic :=
  if m.hash.isSome then (signatureObstacle m).map (⟨c.name, m.name, ·⟩)
  else if flags.virtuals then
    match r.rejection m with
    | .ok (some reason) => some ⟨c.name, m.name, reason⟩
    | _ => none
  else none

/-- What is reported for a property of a class, if anything is. -/
def propertyDiagnostic? (r : Registry) (flags : Flags) (c : ClassDef) (p : PropertyDef) :
    Option Diagnostic :=
  match propertyAccessors c (some (r.emittable flags)) p with
  | .ok (.error reason) => some ⟨c.name, p.name, reason⟩
  | _ => none

/-- What is reported for a utility function, if anything is. -/
def utilityDiagnostic? (u : UtilityDef) : Option Diagnostic :=
  (signatureObstacle u.asMethod).map (⟨"utility", u.name, ·⟩)

/-- What is reported for a method of a builtin, if anything is. -/
def builtinDiagnostic? (b : BuiltinDef) (m : MethodDef) : Option Diagnostic :=
  match signatureObstacle m with
  | some reason => some ⟨b.name, m.name, reason⟩
  | none =>
    match m.name.sanitize with
    | .ok exposed =>
      if b.members.any (·.name == (exposed : Name)) then
        some ⟨b.name, m.name, "name clashes with a struct field"⟩
      else none
    | .error _ => none

/-! ### Methods of a class -/

/-- An outcome says about its method what the declaration says. -/
structure Settles (r : Registry) (flags : Flags) (c : ClassDef) (m : MethodDef) (o : Outcome) :
    Prop where
  member : o.member?.map Member.method = Option.guard (r.isEmitted flags) m
  bound : ∀ x, o.member? = some x → x.binding?.isSome = m.hash.isSome
  diagnostic : o.diagnostic? = r.methodDiagnostic? flags c m
  once : (r.methodDiagnostic? flags c m).isNone = (r.isEmitted flags m || isSwitchedOff flags m)

theorem settles_of_bound (hb : m.hash.isSome) {referenced : List Name} {o : Outcome}
    (h : r.planMethod flags c referenced m = .ok o) : Settles r flags c m o := by
  rw [planMethod_of_bound hb] at h
  obtain ⟨b, hbind, rfl⟩ := map_eq_ok.mp h
  obtain ⟨_, _, carries⟩ := carries_of_bindMethod hbind
  have hn : m.hash.isNone = false := by simpa using hb
  rw [MethodBinding.settled, carries.outcome]
  cases hs : signatureObstacle m with
  | some reason =>
    constructor <;> simp [Outcome.member?, Outcome.diagnostic?, isEmitted, methodDiagnostic?,
      isSwitchedOff, hb, hn, hs, Option.guard]
  | none =>
    constructor <;> simp [Outcome.member?, Outcome.diagnostic?, isEmitted, methodDiagnostic?,
      isSwitchedOff, hb, hn, hs, Option.guard, Member.method, Member.binding?, carries.method]

theorem settles_of_virtual (hb : m.hash = none) (hv : flags.virtuals = true)
    {referenced : List Name} {o : Outcome} (h : r.planMethod flags c referenced m = .ok o) :
    Settles r flags c m o := by
  rw [planMethod_of_virtual hb hv] at h
  obtain ⟨x, hx, h⟩ := bind_eq_ok.mp h
  rcases acceptVirtual_eq_ok.mp hx with ⟨reason, hreject, rfl⟩ | ⟨hreject, t, ht, rfl⟩
  · cases h
    constructor <;> simp [Outcome.member?, Outcome.diagnostic?, isEmitted, methodDiagnostic?,
      isSwitchedOff, hb, hv, hreject, Option.guard]
  · cases h
    constructor <;> simp [Outcome.member?, Outcome.diagnostic?, isEmitted, methodDiagnostic?,
      isSwitchedOff, hb, hv, hreject, Option.guard, Member.method, Member.binding?,
      (answers_of_trampoline ht).method]

theorem settles_of_planMethod {referenced : List Name} {o : Outcome}
    (h : r.planMethod flags c referenced m = .ok o) : Settles r flags c m o := by
  by_cases hb : m.hash.isSome
  · exact settles_of_bound hb h
  · have hn : m.hash = none := by simpa using hb
    cases hv : flags.virtuals with
    | true => exact settles_of_virtual hn hv h
    | false =>
      rw [planMethod_of_disabled hn hv] at h
      cases h
      constructor <;> simp [Outcome.member?, Outcome.diagnostic?, isEmitted, methodDiagnostic?,
        isSwitchedOff, hn, hv, Option.guard]

/-! ### Properties of a class -/

/-- What the plans of a class's properties say about the properties. -/
structure CoversProperties (r : Registry) (flags : Flags) (c : ClassDef) (s : PropertySet) :
    Prop where
  accessors : s.accessors.map (·.property) =
    if flags.properties then
      c.properties.filter fun p => (r.propertyDiagnostic? flags c p).isNone
    else []
  diagnostics : s.diagnostics =
    if flags.properties then c.properties.filterMap (r.propertyDiagnostic? flags c) else []

theorem coversProperties_of_properties (hp : flags.properties = true) {s : PropertySet}
    (h : r.properties c (some (r.emittable flags)) = .ok s) : CoversProperties r flags c s := by
  unfold properties at h
  obtain ⟨outcomes, houtcomes, h⟩ := bind_eq_ok.mp h
  obtain ⟨accessors, haccessors, h⟩ := bind_eq_ok.mp h
  cases h
  have hpairs := checked_of_mapM houtcomes
  constructor
  case accessors =>
    dsimp only
    rw [if_pos hp, map_eq_map (mapM_eq_ok.mp haccessors) fun _ _ a ha =>
      (presents_of_propertyAccessor ha).property, List.map_filterMap, ← List.filterMap_eq_filter]
    refine filterMap_eq_filterMap hpairs fun p _ o ⟨ho, hp⟩ => ?_
    subst ho
    cases hx : o.2 <;> simp [propertyDiagnostic?, hp, hx, Option.guard, Except.toOption]
  case diagnostics =>
    dsimp only
    rw [if_pos hp]
    refine filterMap_eq_filterMap hpairs fun p _ o ⟨ho, hp⟩ => ?_
    subst ho
    cases hx : o.2 <;> simp [propertyDiagnostic?, hp, hx]

theorem coversProperties_of_planProperties {s : PropertySet}
    (h : r.planProperties flags c = .ok s) : CoversProperties r flags c s := by
  unfold planProperties at h
  cases hp : flags.properties with
  | true =>
    rw [if_pos hp] at h
    exact coversProperties_of_properties hp h
  | false =>
    rw [hp] at h
    cases h
    constructor <;> simp [hp]

/-! ### Classes -/

/-- What the plan of a class says about the declarations of the class. -/
structure AccountsForClass (r : Registry) (flags : Flags) (c : ClassDef) (p : ClassPlan) :
    Prop where
  cls : p.cls = c
  members : p.members.map Member.method = c.methods.filter (r.isEmitted flags)
  bound : ∀ x ∈ p.members, x.binding?.isSome = x.method.hash.isSome
  properties : p.properties.map (·.property) =
    if flags.properties then
      c.properties.filter fun p => (r.propertyDiagnostic? flags c p).isNone
    else []
  diagnostics : p.diagnostics =
    (if flags.properties then c.properties.filterMap (r.propertyDiagnostic? flags c) else []) ++
      c.methods.filterMap (r.methodDiagnostic? flags c)
  once : ∀ m ∈ c.methods,
    (r.methodDiagnostic? flags c m).isNone = (r.isEmitted flags m || isSwitchedOff flags m)

theorem accountsForClass_of_planClass {p : ClassPlan} (h : r.planClass flags c = .ok p) :
    AccountsForClass r flags c p := by
  obtain ⟨s, outcomes, dispatch, hs, houtcomes, _, rfl⟩ := planClass_eq_ok.mp h
  have settles : List.Forall₂ (fun m o => Settles r flags c m o) c.methods outcomes :=
    (mapM_eq_ok.mp houtcomes).imp fun _ _ => settles_of_planMethod
  have covers := coversProperties_of_planProperties hs
  constructor
  case cls => rfl
  case members =>
    rw [classPlan, List.map_filterMap, ← List.filterMap_eq_filter]
    exact filterMap_eq_filterMap settles fun _ _ _ ho => ho.member
  case bound =>
    intro x hx
    obtain ⟨o, ho, hx⟩ := List.mem_filterMap.mp hx
    obtain ⟨m, _, hm⟩ := exists_left settles ho
    have hmethod := hm.member
    rw [hx, Option.map_some, eq_comm, Option.guard_eq_some_iff] at hmethod
    rw [hm.bound x hx, hmethod.1]
  case properties => exact covers.accessors
  case diagnostics =>
    have hmethods : outcomes.filterMap Outcome.diagnostic? =
        c.methods.filterMap (r.methodDiagnostic? flags c) :=
      filterMap_eq_filterMap settles fun _ _ _ ho => ho.diagnostic
    rw [classPlan, hmethods, covers.diagnostics]
  case once =>
    intro m hm
    obtain ⟨o, _, ho⟩ := exists_right settles hm
    exact ho.once

/-- Where nothing is switched off, the members, the properties and the diagnostics of a class are
together as many as its methods and properties. -/
theorem AccountsForClass.total {p : ClassPlan} (h : AccountsForClass r ⟨true, true⟩ c p) :
    p.members.length + p.properties.length + p.diagnostics.length =
      c.methods.length + c.properties.length := by
  have hmembers := congrArg List.length h.members
  have hproperties := congrArg List.length h.properties
  have hdiagnostics := congrArg List.length h.diagnostics
  rw [List.length_map] at hmembers hproperties
  rw [if_pos rfl] at hproperties hdiagnostics
  rw [List.length_append] at hdiagnostics
  have methods : (c.methods.filter (r.isEmitted ⟨true, true⟩)).length +
      (c.methods.filterMap (r.methodDiagnostic? ⟨true, true⟩ c)).length = c.methods.length :=
    length_filter_add_length_filterMap fun m hm => by simpa [isSwitchedOff] using h.once m hm
  have properties : (c.properties.filter fun p =>
        (r.propertyDiagnostic? ⟨true, true⟩ c p).isNone).length +
      (c.properties.filterMap (r.propertyDiagnostic? ⟨true, true⟩ c)).length =
        c.properties.length :=
    length_filter_add_length_filterMap fun _ _ => rfl
  omega

/-! ### Utility functions and builtins -/

/-- A callable is reported where there is something to report, and bound elsewhere. -/
def IsSorted (diagnostic : Option Diagnostic) (m : MethodDef)
    (x : Except Diagnostic MethodBinding) : Prop :=
  (∃ b, x = .ok b ∧ diagnostic = none ∧ b.method = m) ∨ ∃ d, x = .error d ∧ diagnostic = some d

section Sorted

variable {α : Type} {callables : List α} {results : List (Except Diagnostic MethodBinding)}
  {diagnostic : α → Option Diagnostic} {method : α → MethodDef}

theorem map_successes
    (h : List.Forall₂ (fun a x => IsSorted (diagnostic a) (method a) x) callables results) :
    (successes results).map (·.method) =
      (callables.filter fun a => (diagnostic a).isNone).map method := by
  rw [successes, List.map_filterMap, ← List.filterMap_eq_filter, List.map_filterMap]
  refine filterMap_eq_filterMap h fun a _ x hx => ?_
  rcases hx with ⟨b, rfl, hnone, hmethod⟩ | ⟨d, rfl, hsome⟩
  · simp [Except.toOption, Option.guard, hnone, hmethod]
  · simp [Except.toOption, Option.guard, hsome]

theorem failures_eq
    (h : List.Forall₂ (fun a x => IsSorted (diagnostic a) (method a) x) callables results) :
    failures results = callables.filterMap diagnostic := by
  refine filterMap_eq_filterMap h fun a _ x hx => ?_
  rcases hx with ⟨b, rfl, hnone, _⟩ | ⟨d, rfl, hsome⟩
  · exact hnone.symm
  · exact hsome.symm

end Sorted

theorem isSorted_of_bindUtility {u : UtilityDef} {b : MethodBinding}
    (h : r.bindUtility u = .ok b) :
    IsSorted (utilityDiagnostic? u) u.asMethod b.outcome := by
  obtain ⟨_, _, carries⟩ := carries_of_bindUtility h
  rw [carries.outcome, utilityDiagnostic?]
  cases signatureObstacle u.asMethod with
  | some reason => exact .inr ⟨_, rfl, rfl⟩
  | none => exact .inl ⟨b, rfl, rfl, carries.method⟩

theorem isSorted_of_planBuiltinMethod {b : BuiltinDef} {x : Except Diagnostic MethodBinding}
    (h : r.planBuiltinMethod b m = .ok x) : IsSorted (builtinDiagnostic? b m) m x := by
  obtain ⟨binding, hbind, h⟩ := bind_eq_ok.mp h
  obtain ⟨exposed, hexposed, carries⟩ := carries_of_bindBuiltin hbind
  rw [carries.outcome] at h
  unfold builtinDiagnostic?
  cases hs : signatureObstacle m with
  | some reason =>
    rw [hs] at h
    cases h
    exact .inr ⟨_, rfl, rfl⟩
  | none =>
    rw [hs] at h
    dsimp only at h ⊢
    rw [carries.exposedName] at h
    rw [hexposed]
    dsimp only
    split at h
    · next hclash =>
      cases h
      exact .inr ⟨_, rfl, if_pos hclash⟩
    · next hclash =>
      cases h
      exact .inl ⟨binding, rfl, if_neg hclash, carries.method⟩

/-- What the plan of a builtin says about the builtin's methods. -/
structure AccountsForBuiltin (b : BuiltinDef) (p : BuiltinPlan) : Prop where
  builtin : p.builtin = b
  bindings : p.bindings.map (·.method) =
    b.methods.filter fun m => (builtinDiagnostic? b m).isNone
  diagnostics : p.diagnostics = b.methods.filterMap (builtinDiagnostic? b)

theorem accountsForBuiltin_of_planBuiltin {b : BuiltinDef} {p : BuiltinPlan}
    (h : r.planBuiltin b = .ok p) : AccountsForBuiltin b p := by
  obtain ⟨_, _, h⟩ := bind_eq_ok.mp h
  obtain ⟨results, hresults, h⟩ := bind_eq_ok.mp h
  cases h
  have sorted := (mapM_eq_ok.mp hresults).imp fun _ _ => isSorted_of_planBuiltinMethod
  have kept := map_successes sorted
  rw [List.map_id'] at kept
  exact ⟨rfl, kept, failures_eq sorted⟩

/-! ### The whole schema -/

/-- What the plans of a schema say about its declarations. -/
structure Accounts (r : Registry) (flags : Flags) (g : Generation) : Prop where
  classes : List.Forall₂ (AccountsForClass r flags) r.classes g.plans
  utilities : g.utilities.map (·.method) =
    (r.utilities.filter fun u => (utilityDiagnostic? u).isNone).map (·.asMethod)
  builtins : List.Forall₂ AccountsForBuiltin r.plannedBuiltins g.builtins
  diagnostics : g.diagnostics = g.plans.flatMap (·.diagnostics) ++
    r.utilities.filterMap utilityDiagnostic? ++ g.builtins.flatMap (·.diagnostics)

theorem accounts_of_generate {g : Generation} (h : r.generate flags = .ok g) :
    Accounts r flags g := by
  obtain ⟨plans, hplans, h⟩ := bind_eq_ok.mp h
  obtain ⟨utilities, hutilities, h⟩ := bind_eq_ok.mp h
  obtain ⟨builtins, hbuiltins, h⟩ := bind_eq_ok.mp h
  cases h
  have sorted : List.Forall₂ (fun u x => IsSorted (utilityDiagnostic? u) u.asMethod x)
      r.utilities (utilities.map MethodBinding.outcome) :=
    List.forall₂_map_right_iff.mpr
      ((mapM_eq_ok.mp hutilities).imp fun _ _ => isSorted_of_bindUtility)
  constructor
  case classes => exact (mapM_eq_ok.mp hplans).imp fun _ _ => accountsForClass_of_planClass
  case utilities => exact map_successes sorted
  case builtins => exact (mapM_eq_ok.mp hbuiltins).imp fun _ _ => accountsForBuiltin_of_planBuiltin
  case diagnostics =>
    dsimp only
    rw [failures_eq sorted]

/-- Every member is bound or overridable, and not both. -/
theorem length_bindings_add_length_virtuals (p : ClassPlan) :
    p.bindings.length + p.virtuals.length = p.members.length := by
  unfold ClassPlan.bindings ClassPlan.virtuals
  induction p.members with
  | nil => rfl
  | cons x xs ih =>
    cases x with
    | bound b =>
      simp only [List.filterMap_cons, Member.binding?, Member.trampoline?, List.length_cons]
      omega
    | overridable t =>
      simp only [List.filterMap_cons, Member.binding?, Member.trampoline?, List.length_cons]
      omega

/-- The counts of a class add up to its methods and properties. -/
def CountsAll (c : ClassDef) (n : ClassCount) : Prop :=
  n.name = c.name ∧
    n.methods + n.virtuals + n.properties + n.skipped = c.methods.length + c.properties.length

theorem AccountsForClass.countsAll {p : ClassPlan} (h : AccountsForClass r ⟨true, true⟩ c p) :
    CountsAll c p.count := by
  refine ⟨congrArg ClassDef.name h.cls, ?_⟩
  have total := h.total
  have kinds := length_bindings_add_length_virtuals p
  simp only [ClassPlan.count]
  omega

/-- Nothing is lost and nothing is reported twice. Every method of a class, every property, every
utility function and every method of a sized builtin is planned or reported, in order and with
its reason, and never both; only virtual methods that are switched off leave no trace. With
nothing switched off, the counts in the manifest add up to what each class declares. Where the
schema was read from a document, the methods that are not bound are the virtual ones. -/
theorem every_declaration_accounted {g : Generation} (h : r.generate flags = .ok g) :
    Accounts r flags g ∧
      (flags.properties = true → flags.virtuals = true → ∀ context artifacts,
        List.Forall₂ CountsAll r.classes (Manifest.ofGeneration context g artifacts).classes) ∧
      ∀ configuration document, ofDocument configuration document = .ok r →
        ∀ c ∈ r.classes, ∀ m ∈ c.methods, m.isVirtual = m.hash.isNone := by
  have accounts := accounts_of_generate h
  refine ⟨accounts, fun hp hv context artifacts => ?_, fun _ _ => isVirtual_eq_of_ofDocument⟩
  obtain ⟨properties, virtuals⟩ := flags
  dsimp only at hp hv
  subst hp hv
  exact List.forall₂_map_right_iff.mpr (accounts.classes.imp fun _ _ => AccountsForClass.countsAll)

/-- A class with accessors, a virtual method and one that takes any number of arguments; one of
its properties cannot be written. -/
def timer : ClassDef :=
  .declaring "Timer" none
    [{ name := "get_wait", returnType := some (.primitive .float), hash := some 7 },
     { name := "set_wait", arguments := [{ name := "wait", type := .primitive .float }],
       hash := some 8 },
     { name := "_expire", isVirtual := true },
     { name := "call", isVararg := true, hash := some 9 }]
    [⟨"wait", .str "float", .str "get_wait", some (.str "set_wait"), none⟩,
     ⟨"left", .str "float", .str "get_wait", none, none⟩]

/-- Three members, a property and two diagnostics are what the four methods and the two
properties of a timer come to. -/
theorem every_declaration_accounted_timer :
    ∃ g, (ofClasses [timer]).generate {} = .ok g ∧ Accounts (ofClasses [timer]) {} g := by
  have returns : ((ofClasses [timer]).generate {}).toOption.isSome := by rfl
  obtain ⟨g, hg⟩ := exists_eq_ok returns
  exact ⟨g, hg, (every_declaration_accounted hg).1⟩

end Registry

end EngineBindings
