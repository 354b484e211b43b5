import EngineBindings.Proofs.Plan.Synthesis

/-! Properties only hide methods.

Planning a class with properties and planning it without them are compared step by step. A method
is planned the same way in both up to the name under which it is emitted, and both refuse it
together (`planMethod_anonymous`). -/
namespace EngineBindings

open Attempt Text

/-! ### Plans up to visibility -/

/-- A binding without what a property changes. -/
def MethodBinding.anonymous (b : MethodBinding) : MethodBinding :=
  { b with exposedName := "", isPrivate := false }

/-- A member without what a property changes. -/
def Member.anonymous : Member → Member
  | bound b => .bound b.anonymous
  | overridable t => .overridable t

/-- An outcome without what a property changes. -/
def Outcome.anonymous : Outcome → Outcome
  | kept member => .kept member.anonymous
  | skipped diagnostic => .skipped diagnostic
  | omitted => .omitted

theorem Outcome.member?_anonymous (o : Outcome) :
    o.anonymous.member? = o.member?.map Member.anonymous := by
  cases o <;> rfl

theorem Outcome.diagnostic?_anonymous (o : Outcome) : o.anonymous.diagnostic? = o.diagnostic? := by
  cases o <;> rfl

theorem Member.trampoline?_anonymous (x : Member) : x.anonymous.trampoline? = x.trampoline? := by
  cases x <;> rfl

theorem MethodBinding.settled_anonymous (b : MethodBinding) :
    b.anonymous.settled = b.settled.anonymous := by
  unfold settled outcome
  cases hb : b.unsupported with
  | some reason =>
    rw [show b.anonymous.unsupported = some reason from hb]
    rfl
  | none =>
    rw [show b.anonymous.unsupported = none from hb]
    rfl

namespace Registry

variable {r : Registry} {c : ClassDef} {m : MethodDef} {v : Bool}

/-! ### Planning a method -/

/-- The name and the visibility of a call decide nothing else about its plan. -/
theorem planCall_anonymous (owner : Name) (e₁ e₂ handleName : String) (p₁ p₂ : Bool)
    (kind : BindingKind) (use : TypeUse) :
    (r.planCall owner m e₁ handleName p₁ kind use).map MethodBinding.anonymous =
      (r.planCall owner m e₂ handleName p₂ kind use).map MethodBinding.anonymous := by
  rw [planCall_eq, planCall_eq]
  cases signatureObstacle m with
  | some reason => rfl
  | none =>
    dsimp only
    cases r.argSlots use m.arguments with
    | error e => rfl
    | ok args =>
      cases r.resultPlan use m with
      | error e => rfl
      | ok ret => rfl

/-- A name is refused whatever names are hidden, and otherwise never. -/
theorem accessorName_or {referenced : List Name} (hr : ∀ n ∈ referenced, n.IsText) :
    accessorName m referenced = accessorName m [] ∨
      (∃ e, accessorName m referenced = .ok e) ∧ ∃ e, accessorName m [] = .ok e := by
  unfold accessorName
  by_cases hb : m.hash.isSome
  · rw [if_pos hb, if_pos hb]
    by_cases hm : referenced.contains m.name
    · obtain ⟨n, hn, hmn⟩ := List.contains_iff_exists_mem_beq.mp hm
      obtain ⟨s, rfl⟩ := hr n hn
      have hname := Name.eq_text_of_beq hmn
      right
      rw [hname, Name.keyed_of_isText (Name.isText_text s)]
      rw [hname] at hm
      exact ⟨⟨_, if_pos hm⟩, ⟨_, rfl⟩⟩
    · left
      cases hk : m.name.keyed with
      | error e => rfl
      | ok k =>
        obtain ⟨_, rfl⟩ := Name.keyed_eq_ok.mp hk
        exact if_neg hm
  · rw [if_neg hb, if_neg hb]
    exact .inl rfl

theorem bindMethod_anonymous {referenced : List Name} (hr : ∀ n ∈ referenced, n.IsText) :
    (r.bindMethod c m referenced).map MethodBinding.anonymous =
      (r.bindMethod c m []).map MethodBinding.anonymous := by
  unfold bindMethod
  rcases accessorName_or (m := m) hr with heq | ⟨⟨e₁, h₁⟩, ⟨e₂, h₂⟩⟩
  · rw [heq]
  · rw [h₁, h₂]
    exact planCall_anonymous ..

/-- A method comes to the same outcome with properties and without them, or to the same fault. -/
theorem planMethod_anonymous {referenced : List Name} (hr : ∀ n ∈ referenced, n.IsText) :
    (r.planMethod ⟨true, v⟩ c referenced m).map Outcome.anonymous =
      (r.planMethod ⟨false, v⟩ c [] m).map Outcome.anonymous := by
  by_cases hb : m.hash.isSome
  · have hbind := congrArg (Except.map MethodBinding.settled)
      (bindMethod_anonymous (r := r) (c := c) (m := m) hr)
    rw [map_map, map_map] at hbind
    rw [planMethod_of_bound hb, planMethod_of_bound hb, map_map, map_map]
    simpa only [MethodBinding.settled_anonymous] using hbind
  · have hn : m.hash = none := by simpa using hb
    unfold planMethod
    rw [hn]
    rfl

/-! ### Planning a class -/

/-- Plans of one class that differ in nothing but properties and what they hide. -/
structure HidesOnly (r : Registry) (v : Bool) (c : ClassDef) (p q : ClassPlan) : Prop where
  members : p.members.map Member.anonymous = q.members.map Member.anonymous
  virtuals : p.virtuals = q.virtuals
  dispatch : p.dispatch = q.dispatch
  bodies : p.bindings.map (·.bodyLines) = q.bindings.map (·.bodyLines)
  arguments : p.bindings.map (·.args) = q.bindings.map (·.args)
  results : p.bindings.map (·.ret) = q.bindings.map (·.ret)
  handles : p.bindings.map (·.handleName) = q.bindings.map (·.handleName)
  requires : p.bindings.map (·.requires) = q.bindings.map (·.requires)
  diagnostics : p.diagnostics =
    c.properties.filterMap (r.propertyDiagnostic? ⟨true, v⟩ c) ++ q.diagnostics

/-- The outcomes of a class's methods are the same up to visibility. -/
theorem outcomes_anonymous {referenced : List Name} (hr : ∀ n ∈ referenced, n.IsText) :
    (c.methods.mapM (r.planMethod ⟨true, v⟩ c referenced)).map (List.map Outcome.anonymous) =
      (c.methods.mapM (r.planMethod ⟨false, v⟩ c [])).map (List.map Outcome.anonymous) := by
  rw [map_mapM, map_mapM]
  exact mapM_congr fun _ _ => planMethod_anonymous hr

theorem members_of_anonymous {xs ys : List Outcome}
    (h : xs.map Outcome.anonymous = ys.map Outcome.anonymous) :
    (xs.filterMap Outcome.member?).map Member.anonymous =
      (ys.filterMap Outcome.member?).map Member.anonymous := by
  have hmembers := congrArg (List.filterMap Outcome.member?) h
  rw [List.filterMap_map, List.filterMap_map] at hmembers
  rw [List.map_filterMap, List.map_filterMap]
  simpa only [Function.comp_def, Outcome.member?_anonymous] using hmembers

theorem diagnostics_of_anonymous {xs ys : List Outcome}
    (h : xs.map Outcome.anonymous = ys.map Outcome.anonymous) :
    xs.filterMap Outcome.diagnostic? = ys.filterMap Outcome.diagnostic? := by
  have hdiagnostics := congrArg (List.filterMap Outcome.diagnostic?) h
  rw [List.filterMap_map, List.filterMap_map] at hdiagnostics
  simpa only [Function.comp_def, Outcome.diagnostic?_anonymous] using hdiagnostics

theorem trampolines_of_anonymous {xs ys : List Member}
    (h : xs.map Member.anonymous = ys.map Member.anonymous) :
    xs.filterMap Member.trampoline? = ys.filterMap Member.trampoline? := by
  have htrampolines := congrArg (List.filterMap Member.trampoline?) h
  rw [List.filterMap_map, List.filterMap_map] at htrampolines
  simpa only [Function.comp_def, Member.trampoline?_anonymous] using htrampolines

theorem bindings_of_anonymous {xs ys : List Member}
    (h : xs.map Member.anonymous = ys.map Member.anonymous) :
    (xs.filterMap Member.binding?).map MethodBinding.anonymous =
      (ys.filterMap Member.binding?).map MethodBinding.anonymous := by
  have hbindings := congrArg (List.filterMap Member.binding?) h
  rw [List.filterMap_map, List.filterMap_map] at hbindings
  rw [List.map_filterMap, List.map_filterMap]
  have hmember (x : Member) : x.anonymous.binding? = x.binding?.map MethodBinding.anonymous := by
    cases x <;> rfl
  simpa only [Function.comp_def, hmember] using hbindings

/-- What a binding says apart from its visibility can be read off it without its visibility. -/
theorem map_of_anonymous {xs ys : List MethodBinding} {f : MethodBinding → α}
    (hf : ∀ b, f b.anonymous = f b)
    (h : xs.map MethodBinding.anonymous = ys.map MethodBinding.anonymous) :
    xs.map f = ys.map f := by
  have hmap := congrArg (List.map f) h
  rw [List.map_map, List.map_map] at hmap
  simpa only [Function.comp_def, hf] using hmap

theorem hidesOnly_of_outcomes {s : PropertySet} (hs : CoversProperties r ⟨true, v⟩ c s)
    {xs ys : List Outcome} (h : xs.map Outcome.anonymous = ys.map Outcome.anonymous)
    (dispatch : DispatchTable) :
    HidesOnly r v c (classPlan c s xs dispatch) (classPlan c ⟨[], [], []⟩ ys dispatch) := by
  have members := members_of_anonymous h
  have bindings := bindings_of_anonymous members
  exact {
    members
    virtuals := trampolines_of_anonymous members
    dispatch := rfl
    bodies := map_of_anonymous (fun _ => rfl) bindings
    arguments := map_of_anonymous (fun _ => rfl) bindings
    results := map_of_anonymous (fun _ => rfl) bindings
    handles := map_of_anonymous (fun _ => rfl) bindings
    requires := map_of_anonymous (fun _ => rfl) bindings
    diagnostics := by
      show s.diagnostics ++ xs.filterMap Outcome.diagnostic? =
        _ ++ ([] ++ ys.filterMap Outcome.diagnostic?)
      rw [hs.diagnostics, if_pos rfl, diagnostics_of_anonymous h, List.nil_append] }

theorem planClass_without_properties (hc : c.HasTextProperties) {p : ClassPlan}
    (h : r.planClass ⟨true, v⟩ c = .ok p) :
    ∃ q, r.planClass ⟨false, v⟩ c = .ok q ∧ HidesOnly r v c p q := by
  obtain ⟨s, outcomes, dispatch, hs, houtcomes, hdispatch, rfl⟩ := planClass_eq_ok.mp h
  have hr : ∀ n ∈ s.referenced, n.IsText := isText_of_referenced hc hs
  obtain ⟨plain, hplain, heq⟩ := ok_of_map_eq (outcomes_anonymous hr) houtcomes
  rw [trampolines_of_anonymous (members_of_anonymous heq)] at hdispatch
  exact ⟨classPlan c ⟨[], [], []⟩ plain dispatch,
    planClass_eq_ok.mpr ⟨_, plain, dispatch, rfl, hplain, hdispatch, rfl⟩,
    hidesOnly_of_outcomes (coversProperties_of_planProperties hs) heq dispatch⟩

theorem planClass_with_properties (hc : c.HasTextProperties) {q : ClassPlan}
    (h : r.planClass ⟨false, v⟩ c = .ok q) : ∃ p, r.planClass ⟨true, v⟩ c = .ok p := by
  obtain ⟨s, plain, dispatch, hs, hplain, hdispatch, rfl⟩ := planClass_eq_ok.mp h
  cases hs
  have hplan : ∀ m ∈ c.methods, ∃ o, r.planMethod ⟨false, v⟩ c [] m = .ok o :=
    exists_mapM_eq_ok.mp ⟨plain, hplain⟩
  obtain ⟨s, hs⟩ := exists_properties hc hplan
  have hr : ∀ n ∈ s.referenced, n.IsText := isText_of_referenced hc hs
  obtain ⟨outcomes, houtcomes, heq⟩ := ok_of_map_eq (outcomes_anonymous hr).symm hplain
  rw [trampolines_of_anonymous (members_of_anonymous heq)] at hdispatch
  exact ⟨classPlan c s outcomes dispatch,
    planClass_eq_ok.mpr ⟨s, outcomes, dispatch, hs, houtcomes, hdispatch, rfl⟩⟩

end Registry

end EngineBindings
