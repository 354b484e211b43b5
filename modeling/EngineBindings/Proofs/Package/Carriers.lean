import EngineBindings.Proofs.Package.Declared
import EngineBindings.Proofs.Package.SingleModule
import EngineBindings.Proofs.Plan.Handing

/-! Where the methods of builtins are written.

Core definitions write methods into the structures that are declared and into the mixins of the
builtins that are no structures, and each binding calls itself through the class that its holder
names. The two selections are made apart: a structure is declared for every type that is laid out
(`structCarriers`), a mixin for every plan of a builtin without members (`mixinCarriers`). A plan
is therefore carried by its holder alone, unless its builtin has no members and is laid out all the
same because a structure has a field of its type: then that structure carries the methods a second
time (`carried_once_iff`). -/
namespace EngineBindings

open Attempt EngineBindings.Text

namespace Registry

/-- A builtin's binding names the class that is to carry it. -/
theorem holder_of_generate {r : Registry} {flags : Flags} {g : Generation} {p : BuiltinPlan}
    {b : MethodBinding} (hg : r.generate flags = .ok g) (hp : p ∈ g.builtins)
    (hb : b ∈ p.bindings) : b.holder = builtinHolder (builtinHost p.name) p.builtin.isStruct := by
  obtain ⟨v, _, hplan⟩ := exists_left (generates_of_generate hg).builtins hp
  obtain ⟨m, _, hbind⟩ := bindBuiltin_of_mem hplan b hb
  obtain ⟨exposed, _, hcall⟩ := bind_eq_ok.mp hbind
  obtain ⟨_, _, _, hkind⟩ := planned_of_planCall hcall
  obtain ⟨_, _, hplan⟩ := bind_eq_ok.mp hplan
  obtain ⟨results, _, hplan⟩ := bind_eq_ok.mp hplan
  cases hplan
  rw [MethodBinding.holder, hkind]
  rfl

/-- Only builtins of a declared size are planned. -/
theorem mem_sizedStructs_of_generate {r : Registry} {flags : Flags} {g : Generation}
    {p : BuiltinPlan} (hg : r.generate flags = .ok g) (hp : p ∈ g.builtins)
    (hstruct : p.builtin.isStruct = true) : p.name ∈ r.sizedStructs := by
  obtain ⟨v, hv, hplan⟩ := exists_left (generates_of_generate hg).builtins hp
  obtain ⟨_, _, hplan⟩ := bind_eq_ok.mp hplan
  obtain ⟨results, _, hplan⟩ := bind_eq_ok.mp hplan
  cases hplan
  obtain ⟨hmem, hsized⟩ := List.mem_filter.mp hv
  refine List.mem_map.mpr ⟨v, List.mem_filter.mpr ⟨hmem, ?_⟩, rfl⟩
  rw [Bool.and_eq_true] at hsized ⊢
  exact ⟨hstruct, hsized.2⟩

end Registry

namespace Package

/-- Only a text has a constant of its own. -/
theorem isText_of_typecode {name : Name} {code : String} (h : typecode name = .ok code) :
    name.IsText ∧ name.isGiven = true := by
  obtain ⟨keyed, hkeyed, found⟩ := bind_eq_ok.mp h
  obtain ⟨_, rfl⟩ := Name.keyed_eq_ok.mp (mapError_eq_ok.mp hkeyed)
  cases htext : keyed.text? with
  | none =>
    rw [htext] at found
    cases found
  | some text =>
    obtain rfl := Name.eq_text_of_text? htext
    have given : text ≠ "" := by
      rintro rfl
      cases found
    exact ⟨Name.isText_text text, by simpa [Name.isGiven, Json.isTruthy] using given⟩

/-! ### Classes that carry methods -/

/-- A class that carries the methods of a plan. -/
structure Carrier where
  host : Name
  plan : BuiltinPlan

/-- A class with its methods is what a carrier says. -/
def Carrier.Writes (inPackage : Bool) (c : Carrier) (declared : Name × List String) : Prop :=
  declared.1 = c.host ∧ builtinMethodLines inPackage c.plan = .ok declared.2

/-- The structures of types with bound methods. -/
def structCarriers (g : Generation) (layouts : List (Layout Int)) : List Carrier :=
  layouts.filterMap fun l => ((boundBuiltins g).find? l.name).map (⟨l.host, ·⟩)

/-- The mixins. -/
def mixinCarriers (g : Generation) : List Carrier :=
  ((boundBuiltins g).values.filter (!·.builtin.isStruct)).map fun p => ⟨p.holder, p⟩

/-- The classes that carry the methods of a plan. -/
def hostsOf (p : BuiltinPlan) (carriers : List Carrier) : List Name :=
  (carriers.filter (·.plan.name == p.name)).map (·.host)

theorem hostsOf_append (p : BuiltinPlan) (first second : List Carrier) :
    hostsOf p (first ++ second) = hostsOf p first ++ hostsOf p second := by
  rw [hostsOf, List.filter_append, List.map_append]
  rfl

/-- The declared classes that have methods, with their hosts. -/
def CoreDefs.methodClasses (defs : CoreDefs) : List (Name × List String) :=
  ((defs.structs.map fun s => (s.host, s.methods)) ++
    defs.mixins.map fun m => (m.host, m.methods)).filter (!·.2.isEmpty)

/-- A plan that binds something has lines. -/
theorem builtinMethodLines_ne_nil {inPackage : Bool} {p : BuiltinPlan} {methods : List String}
    (hbound : p.bindings ≠ []) (h : builtinMethodLines inPackage p = .ok methods) :
    methods ≠ [] := by
  obtain ⟨code, _, h⟩ := bind_eq_ok.mp h
  rintro rfl
  have none := lastLine?_dropTrailingEmpty
    ((p.bindings.map fun b =>
        handleLine b.handleName (handleKey code b.method.name b.method.hash)
          "builtin_method_bind") ++
      [""] ++ p.bindings.flatMap (bindingLines ⟨inPackage, ".classes.", []⟩))
  rw [pure_eq_ok.mp h] at none
  obtain ⟨b, rest, hb⟩ := List.exists_cons_of_ne_nil hbound
  have blank := List.find?_eq_none.mp none.symm (handleLine b.handleName
    (handleKey code b.method.name b.method.hash) "builtin_method_bind") (by simp [hb])
  simp [handleLine] at blank

section Gathered

variable {g : Generation} {runtimeModule : String} {inPackage : Bool} {defs : CoreDefs}

theorem bound_of_find? {name : Name} {p : BuiltinPlan}
    (h : (boundBuiltins g).find? name = some p) : p.bindings ≠ [] ∧ (p.name == name) = true := by
  rw [boundBuiltins, OrderedMap.find?_ofList] at h
  obtain ⟨entry, hentry, rfl⟩ := Option.map_eq_some_iff.mp h
  have same := List.find?_some hentry
  obtain ⟨q, hq, rfl⟩ := List.mem_map.mp (List.mem_reverse.mp (List.mem_of_find?_eq_some hentry))
  exact ⟨by simpa using (List.mem_filter.mp hq).2, same⟩

theorem bound_of_mem {p : BuiltinPlan} (h : p ∈ (boundBuiltins g).values) : p.bindings ≠ [] := by
  obtain ⟨entry, hentry, rfl⟩ := List.mem_map.mp h
  obtain ⟨_, hvalue⟩ := OrderedMap.mem_ofList hentry
  obtain ⟨e, he, hvalue⟩ := List.mem_map.mp hvalue
  obtain ⟨q, hq, rfl⟩ := List.mem_map.mp he
  rw [← hvalue]
  simpa using (List.mem_filter.mp hq).2

theorem writes_structs {r : Registry} {layouts : List (Layout Int)} {structs : List StructDecl}
    (h : List.Forall₂ (fun l s => structDecl r (boundBuiltins g) inPackage l = .ok s)
      layouts structs) :
    List.Forall₂ (Carrier.Writes inPackage) (structCarriers g layouts)
      ((structs.map fun s => (s.host, s.methods)).filter (!·.2.isEmpty)) := by
  unfold structCarriers
  induction h with
  | nil => exact .nil
  | @cons l s _ _ hs _ ih =>
    obtain ⟨fields, _, hs⟩ := bind_eq_ok.mp hs
    split at hs
    · next p hfind =>
      obtain ⟨methods, hmethods, hs⟩ := bind_eq_ok.mp hs
      cases hs
      have lines := builtinMethodLines_ne_nil (bound_of_find? hfind).1 hmethods
      rw [List.filterMap_cons, hfind, List.map_cons, List.filter_cons,
        if_pos (by simpa using lines)]
      exact .cons ⟨rfl, hmethods⟩ ih
    · next hfind =>
      cases hs
      rw [List.filterMap_cons, hfind]
      exact ih

theorem writes_mixins {plans : List BuiltinPlan} {mixins : List MixinDecl}
    (h : List.Forall₂ (fun p m => mixinDecl inPackage p = .ok m) plans mixins)
    (bound : ∀ p ∈ plans, p.bindings ≠ []) :
    List.Forall₂ (Carrier.Writes inPackage) (plans.map fun p => ⟨p.holder, p⟩)
      ((mixins.map fun m => (m.host, m.methods)).filter (!·.2.isEmpty)) := by
  induction h with
  | nil => exact .nil
  | @cons p m _ _ hm _ ih =>
    obtain ⟨methods, hmethods, hm⟩ := bind_eq_ok.mp hm
    cases hm
    have lines := builtinMethodLines_ne_nil (bound p (List.mem_cons_self ..)) hmethods
    rw [List.map_cons, List.map_cons, List.filter_cons, if_pos (by simpa using lines)]
    exact .cons ⟨rfl, hmethods⟩ (ih fun q hq => bound q (List.mem_cons_of_mem _ hq))

/-- The declared classes that have methods are the carriers, in order. -/
theorem writes_of_gathers {layouts : List (Layout Int)} (h : Gathers g runtimeModule inPackage defs)
    (hlayouts : g.registry.structLayouts = .ok layouts) :
    List.Forall₂ (Carrier.Writes inPackage) (structCarriers g layouts ++ mixinCarriers g)
      defs.methodClasses := by
  obtain ⟨found, hfound, declared⟩ := h.structs
  obtain rfl := Except.ok.inj (hlayouts.symm.trans hfound)
  rw [CoreDefs.methodClasses, List.filter_append]
  exact List.rel_append (writes_structs declared)
    (writes_mixins h.mixins fun p hp => bound_of_mem (List.mem_filter.mp hp).1)

end Gathered

/-! ### Which classes carry a plan -/

section Distinct

variable {r : Registry} {flags : Flags} {g : Generation} {p : BuiltinPlan}
  {layouts : List (Layout Int)}
  (distinct : g.builtins.Pairwise fun p q => (p.name == q.name) = false)
include distinct

theorem entries_boundBuiltins : (boundBuiltins g).entries =
    (g.builtins.filter (!·.bindings.isEmpty)).map fun p => (p.name, p) :=
  OrderedMap.entries_ofList (List.pairwise_map.mpr (distinct.filter _))

theorem values_boundBuiltins :
    (boundBuiltins g).values = g.builtins.filter (!·.bindings.isEmpty) := by
  rw [OrderedMap.values, entries_boundBuiltins distinct, List.map_map]
  exact List.map_id _

theorem mem_values_boundBuiltins (hp : p ∈ g.builtins) (hbound : p.bindings ≠ []) :
    p ∈ (boundBuiltins g).values := by
  rw [values_boundBuiltins distinct]
  exact List.mem_filter.mpr ⟨hp, by simpa using hbound⟩

theorem find?_boundBuiltins (hp : p ∈ g.builtins) (hbound : p.bindings ≠ []) :
    (boundBuiltins g).find? p.name = some p := by
  have hmem := mem_values_boundBuiltins distinct hp hbound
  rw [values_boundBuiltins distinct] at hmem
  rw [OrderedMap.find?, entries_boundBuiltins distinct, List.find?_map, Option.map_map]
  exact congrArg _ (Name.find?_of_distinct (distinct.filter _) hmem)

theorem hostsOf_mixinCarriers (hp : p ∈ g.builtins) (hbound : p.bindings ≠ []) :
    hostsOf p (mixinCarriers g) = if p.builtin.isStruct then [] else [p.holder] := by
  have hmem := mem_values_boundBuiltins distinct hp hbound
  have only : (boundBuiltins g).values.filter (·.name == p.name) = [p] := by
    refine Name.filter_of_distinct ?_ hmem
    rw [values_boundBuiltins distinct]
    exact distinct.filter _
  calc hostsOf p (mixinCarriers g)
    _ = (((boundBuiltins g).values.filter (!·.builtin.isStruct)).filter
          (·.name == p.name)).map (·.holder) := by
      rw [hostsOf, mixinCarriers, List.filter_map, List.map_map]
      rfl
    _ = (((boundBuiltins g).values.filter (·.name == p.name)).filter
          (!·.builtin.isStruct)).map (·.holder) := by
      rw [List.filter_filter, List.filter_filter]
      simp only [Bool.and_comm]
    _ = if p.builtin.isStruct then [] else [p.holder] := by
      rw [only]
      cases hstruct : p.builtin.isStruct <;> simp [hstruct]

/-- A plan is carried by the structures that are declared for its builtin. -/
theorem hostsOf_structCarriers (hp : p ∈ g.builtins) (hbound : p.bindings ≠ [])
    (text : p.name.IsText) : hostsOf p (structCarriers g layouts) =
      (layouts.filter (·.name == p.name)).map (·.host) := by
  unfold hostsOf structCarriers
  induction layouts with
  | nil => rfl
  | cons l rest ih =>
    rw [List.filterMap_cons, List.filter_cons]
    cases hsame : l.name == p.name with
    | true =>
      have hname := (Name.beq_iff_eq_of_isText text).mp hsame
      rw [hname, find?_boundBuiltins distinct hp hbound, if_pos rfl, List.map_cons, ← ih]
      have own : (p.name == p.name) = true := BEq.rfl
      simp only [Option.map_some, List.filter_cons, own, if_true, List.map_cons]
    | false =>
      cases hfind : (boundBuiltins g).find? l.name with
      | none => exact ih
      | some q =>
        have other : ¬(q.name == p.name) = true := by
          intro hq
          rw [BEq.trans (BEq.symm (bound_of_find? hfind).2) hq] at hsame
          cases hsame
        rw [if_neg Bool.false_ne_true, ← ih]
        exact congrArg (List.map _) (List.filter_cons_of_neg other)

end Distinct

/-! ### Lines of a class -/

/-- Lines of a class body. -/
def AreInside (lines : List String) : Prop :=
  ∀ line ∈ lines, line = "" ∨ ∃ rest, line = "    " ++ rest

theorem infix_flatMap {α β : Type} {xs : List α} {x : α} (hx : x ∈ xs) (f : α → List β) :
    f x <:+: xs.flatMap f := by
  obtain ⟨before, after, rfl⟩ := List.append_of_mem hx
  exact ⟨before.flatMap f, after.flatMap f, by simp⟩

/-- Structures and mixins stand one behind the other. -/
theorem infix_lines (defs : CoreDefs) (standalone : Bool) :
    defs.structs.flatMap CoreDefs.structLines ++ defs.mixins.flatMap CoreDefs.mixinLines <:+:
      defs.lines standalone := by
  unfold CoreDefs.lines
  -- the empty lines and tables behind them, one after another
  iterate 6 refine List.IsInfix.trans ?_ (List.prefix_append _ _).isInfix
  rw [List.append_assoc]
  exact (List.suffix_append _ _).isInfix

theorem areInside_fields (fields : List (Name × Name)) :
    AreInside ("    _fields_ = [" ::
      (fields.map fun f => "        (" ++ f.1.literal ++ ", " ++ f.2.display ++ "),") ++
      ["    ]", ""]) := by
  intro line hline
  simp only [List.cons_append, List.mem_cons, List.mem_append, List.mem_map, List.not_mem_nil,
    or_false] at hline
  rcases hline with rfl | ⟨f, _, rfl⟩ | rfl | rfl
  · exact .inr ⟨"_fields_ = [", rfl⟩
  · exact .inr ⟨"    (" ++ f.1.literal ++ ", " ++ f.2.display ++ "),", by
      rw [← String.toList_inj]; simp⟩
  · exact .inr ⟨"]", rfl⟩
  · exact .inl rfl

/-- The methods of a class stand behind its statement. -/
theorem infix_lines_of_methodClass {defs : CoreDefs} {host : Name} {methods : List String}
    (h : (host, methods) ∈ defs.methodClasses) (standalone : Bool) :
    ∃ base body, AreInside body ∧
      ("class " ++ host.display ++ base) :: (body ++ methods) <:+: defs.lines standalone := by
  obtain ⟨hmem, hmethods⟩ := List.mem_filter.mp h
  rcases List.mem_append.mp hmem with hmem | hmem
  · obtain ⟨s, hs, hsame⟩ := List.mem_map.mp hmem
    cases hsame
    have block : CoreDefs.structLines s <:+: defs.lines standalone :=
      ((infix_flatMap hs CoreDefs.structLines).trans
        (List.prefix_append _ _).isInfix).trans (infix_lines defs standalone)
    refine ⟨"(ctypes.Structure):", _, areInside_fields s.fields,
      List.IsInfix.trans ⟨["", ""], [], ?_⟩ block⟩
    have given : s.methods.isEmpty = false := by simpa using hmethods
    simp [CoreDefs.structLines, given]
  · obtain ⟨m, hm, hsame⟩ := List.mem_map.mp hmem
    cases hsame
    have block : CoreDefs.mixinLines m <:+: defs.lines standalone :=
      ((infix_flatMap hm CoreDefs.mixinLines).trans
        (List.suffix_append _ _).isInfix).trans (infix_lines defs standalone)
    refine ⟨":", ["    \"\"\"Bound methods of " ++ m.name.display ++
      ", mixed into its runtime wrapper.\"\"\"", ""], ?_,
      List.IsInfix.trans ⟨["", ""], [], ?_⟩ block⟩
    · refine List.forall_mem_cons.mpr ⟨.inr ⟨"\"\"\"Bound methods of " ++ m.name.display ++
        ", mixed into its runtime wrapper.\"\"\"", ?_⟩, List.forall_mem_singleton.mpr (.inl rfl)⟩
      rw [← String.toList_inj]
      simp
    · simp [CoreDefs.mixinLines]

/-! ### Carried once -/

section Carried

variable {r : Registry} {flags : Flags} {g : Generation} {inPackage : Bool} {defs : CoreDefs}
  {layouts : List (Layout Int)} {p : BuiltinPlan}

/-- A plan that binds something has a carrier. -/
theorem exists_carrier (hg : r.generate flags = .ok g) (hlayouts : r.structLayouts = .ok layouts)
    (distinct : g.builtins.Pairwise fun p q => (p.name == q.name) = false) (hp : p ∈ g.builtins)
    (hbound : p.bindings ≠ []) :
    ∃ host, ⟨host, p⟩ ∈ structCarriers g layouts ++ mixinCarriers g := by
  cases hstruct : p.builtin.isStruct with
  | true =>
    have sized := Registry.mem_sizedStructs_of_generate hg hp hstruct
    obtain ⟨n, same, l, hl, hmade⟩ := Registry.exists_structLayout hlayouts sized
    have hfind : (boundBuiltins g).find? l.name = some p := by
      rw [Registry.name_of_layout hmade, ← OrderedMap.find?_of_beq _ same]
      exact find?_boundBuiltins distinct hp hbound
    refine ⟨l.host, List.mem_append_left _ (List.mem_filterMap.mpr ⟨l, hl, ?_⟩)⟩
    rw [hfind]
    rfl
  | false =>
    refine ⟨p.holder, List.mem_append_right _ (List.mem_map.mpr ⟨p, ?_, rfl⟩)⟩
    rw [List.mem_filter, hstruct]
    exact ⟨mem_values_boundBuiltins distinct hp hbound, rfl⟩

/-- Methods can only be written for a builtin that is called by a text. -/
theorem isText_of_writes (hg : r.generate flags = .ok g) (hlayouts : r.structLayouts = .ok layouts)
    (distinct : g.builtins.Pairwise fun p q => (p.name == q.name) = false)
    (written : List.Forall₂ (Carrier.Writes inPackage) (structCarriers g layouts ++ mixinCarriers g)
      defs.methodClasses) (hp : p ∈ g.builtins) (hbound : p.bindings ≠ []) :
    p.name.IsText ∧ p.name.isGiven = true := by
  obtain ⟨host, hcarrier⟩ := exists_carrier hg hlayouts distinct hp hbound
  obtain ⟨declared, _, _, hmethods⟩ := exists_right written hcarrier
  obtain ⟨code, hcode, _⟩ := bind_eq_ok.mp hmethods
  exact isText_of_typecode hcode

end Carried

/-- A builtin without members that is laid out all the same: another of its name has members, or
what is laid out has a field of its type. -/
def IsHeld (r : Registry) (layouts : List (Layout Int)) (b : BuiltinDef) : Prop :=
  b.isStruct = false ∧ (b.name ∈ r.sizedStructs ∨ ∃ l ∈ layouts, r.Nests l.name b.name)

/-- The classes of core definitions that have methods are the carriers of the bound plans, each
behind a class statement for its host. A plan is carried once, by the class that its bindings name
as their holder, unless its builtin has no members and is laid out all the same: the structure that
is then declared for it carries the methods too. -/
theorem carried_once_iff {r : Registry} {flags : Flags} {g : Generation} {options : RenderOptions}
    {own : Templates} {artifacts : OrderedMap Name String} (hg : r.generate flags = .ok g)
    (hrender : render g options own = .ok artifacts)
    (distinct : g.builtins.Pairwise fun p q => (p.name == q.name) = false) :
    ∃ defs layouts, coreDefs g options.runtimeModule (!options.singleFile) = .ok defs ∧
      r.structLayouts = .ok layouts ∧
      List.Forall₂ (Carrier.Writes (!options.singleFile))
        (structCarriers g layouts ++ mixinCarriers g) defs.methodClasses ∧
      (∀ c ∈ defs.methodClasses, ∃ base body, AreInside body ∧
        ("class " ++ c.1.display ++ base) :: (body ++ c.2) <:+:
          defs.lines (!options.singleFile)) ∧
      ∀ p ∈ g.builtins, ∀ b ∈ p.bindings,
        (¬IsHeld r layouts p.builtin →
          hostsOf p (structCarriers g layouts ++ mixinCarriers g) = [b.holder]) ∧
        (IsHeld r layouts p.builtin →
          hostsOf p (structCarriers g layouts ++ mixinCarriers g) =
            [builtinHost p.name, b.holder]) := by
  obtain ⟨defs, hdefs, _⟩ := bind_eq_ok.mp hrender
  have hdefs := mapError_eq_ok.mp hdefs
  have gathers := gathers_of_coreDefs hdefs
  have hr := (Registry.generates_of_generate hg).registry
  obtain ⟨layouts, hlayouts, _⟩ := gathers.structs
  have written := writes_of_gathers gathers hlayouts
  rw [hr] at hlayouts
  refine ⟨defs, layouts, hdefs, hlayouts, written,
    fun c hc => infix_lines_of_methodClass hc _, fun p hp b hb => ?_⟩
  have hbound : p.bindings ≠ [] := List.ne_nil_of_mem hb
  obtain ⟨text, given⟩ := isText_of_writes hg hlayouts distinct written hp hbound
  have hholder := Registry.holder_of_generate hg hp hb
  have same : p.holder = b.holder := by
    obtain ⟨first, rest, hfirst⟩ := List.exists_cons_of_ne_nil hbound
    rw [hholder, BuiltinPlan.holder, hfirst]
    exact Registry.holder_of_generate hg hp (hfirst ▸ List.mem_cons_self ..)
  have laidOut := Registry.laidOut_iff hlayouts text given
  rw [hostsOf_append, hostsOf_structCarriers distinct hp hbound text,
    hostsOf_mixinCarriers distinct hp hbound, same]
  by_cases hplaced : ∃ l ∈ layouts, l.name = p.name
  · have single : (layouts.filter (·.name == p.name)).map (·.host) = [builtinHost p.name] := by
      obtain ⟨l, hl, hname⟩ := hplaced
      rw [← hname, Name.filter_of_distinct (Registry.distinct_structLayouts hlayouts) hl,
        List.map_singleton,
        Registry.host_of_layout (Registry.layout_of_structLayouts hlayouts hl)]
    rw [single]
    cases hstruct : p.builtin.isStruct with
    | true =>
      rw [hstruct] at hholder
      refine ⟨fun _ => ?_, fun held => ?_⟩
      · rw [hholder]
        rfl
      · rw [held.1] at hstruct
        cases hstruct
    | false => exact ⟨fun free => absurd ⟨hstruct, laidOut.mp hplaced⟩ free, fun _ => rfl⟩
  · have none : layouts.filter (·.name == p.name) = [] := by
      refine List.filter_eq_nil_iff.mpr fun l hl hsame => hplaced ⟨l, hl, ?_⟩
      exact (Name.beq_iff_eq_of_isText text).mp hsame
    have unmixed : p.builtin.isStruct = false := by
      rw [Bool.eq_false_iff]
      exact fun hstruct =>
        hplaced (laidOut.mpr (.inl (Registry.mem_sizedStructs_of_generate hg hp hstruct)))
    rw [none, unmixed]
    exact ⟨fun _ => rfl, fun held => absurd (laidOut.mpr held.2) hplaced⟩

/-- A structure that holds a string, a handle, and methods of all three. -/
def signals : Json :=
  documentOf
    [.obj [("name", .str "String"), ("size", .int 8)],
     .obj [("name", .str "Signal"), ("size", .int 8)],
     .obj [("name", .str "RID"), ("size", .int 8)]]
    [("builtin_classes",
      [.obj [("name", .str "String"),
        ("methods", .arr [.obj [("name", .str "length"), ("hash", .int 1)]])],
       .obj [("name", .str "Signal"),
        ("members", .arr [.obj [("name", .str "name"), ("type", .str "String")]]),
        ("methods", .arr [.obj [("name", .str "emit"), ("hash", .int 2)]])],
       .obj [("name", .str "RID"),
        ("methods", .arr [.obj [("name", .str "get_id"), ("hash", .int 3)]])]])]

/-- A handle's methods are carried by its mixin alone, a structure's by the structure. -/
theorem carried_once_signals :
    ∃ r g artifacts layouts, Registry.ofDocument "float_64" signals = .ok r ∧
      r.generate {} = .ok g ∧ render g {} [] = .ok artifacts ∧
      g.builtins.Pairwise (fun p q => (p.name == q.name) = false) ∧
      r.structLayouts = .ok layouts ∧
      ∀ host ∈ ["Signal", "RIDMethods"], ∃ p ∈ g.builtins, ¬IsHeld r layouts p.builtin ∧
        hostsOf p (structCarriers g layouts ++ mixinCarriers g) = [(host : Name)] := by
  have returns : (packageOf signals).toOption.any (fun (r, g, _) => r.structLayouts.toOption.any
      fun layouts => decide ((g.builtins.Pairwise fun p q => (p.name == q.name) = false) ∧
        ∀ host ∈ ["Signal", "RIDMethods"], ∃ p ∈ g.builtins,
          (p.builtin.isStruct = true ∨ (∀ n ∈ r.sizedStructs, (n == p.name) = false) ∧
            ∀ l ∈ layouts, ∀ f ∈ l.fields, ∀ n ∈ f.nested, (n == p.name) = false) ∧
          ∃ b ∈ p.bindings, b.holder.text? = some host)) := by
    decide +kernel
  obtain ⟨⟨r, g, modules⟩, hpackage, returns⟩ := exists_eq_ok_of_any returns
  obtain ⟨layouts, hlayouts, hfacts⟩ := exists_eq_ok_of_any returns
  obtain ⟨distinct, carried⟩ := of_decide_eq_true hfacts
  obtain ⟨hr, hg, hmodules⟩ := packageOf_eq_ok hpackage
  have hrender := render_of_packageModules hmodules
  obtain ⟨defs, found, _, hfound, _, _, once⟩ := carried_once_iff hg hrender distinct
  obtain rfl := Except.ok.inj (hlayouts.symm.trans hfound)
  refine ⟨r, g, _, layouts, hr, hg, hrender, distinct, hlayouts, fun host hhost => ?_⟩
  obtain ⟨p, hp, free, b, hb, hholder⟩ := carried host hhost
  have unheld : ¬IsHeld r layouts p.builtin := by
    rintro ⟨memberless, held⟩
    rcases free with hstruct | ⟨unsized, unnested⟩
    · rw [memberless] at hstruct
      cases hstruct
    · rcases held with hsized | ⟨l, hl, l', hl', f, hf, hnested⟩
      · cases (unsized _ hsized).symm.trans BEq.rfl
      · rw [Registry.layout_of_structLayouts hlayouts hl] at hl'
        obtain rfl := Except.ok.inj hl'
        cases (unnested l hl f hf _ hnested).symm.trans BEq.rfl
  refine ⟨p, hp, unheld, ?_⟩
  rw [(once p hp b hb).1 unheld, Name.eq_text_of_text? hholder]

/-- A string that a structure holds is declared as a structure without members, which carries the
methods that its mixin carries. -/
theorem held_carried_twice :
    ∃ r g artifacts layouts, Registry.ofDocument "float_64" signals = .ok r ∧
      r.generate {} = .ok g ∧ render g {} [] = .ok artifacts ∧
      g.builtins.Pairwise (fun p q => (p.name == q.name) = false) ∧
      r.structLayouts = .ok layouts ∧
      ∃ p ∈ g.builtins, ∃ b ∈ p.bindings, b.holder.text? = some "GStringMethods" ∧
        (hostsOf p (structCarriers g layouts ++ mixinCarriers g)).map Name.text? =
          [some "GString", some "GStringMethods"] := by
  have returns : (packageOf signals).toOption.any (fun (r, g, _) => r.structLayouts.toOption.any
      fun layouts => decide ((g.builtins.Pairwise fun p q => (p.name == q.name) = false) ∧
        ∃ p ∈ g.builtins, ∃ b ∈ p.bindings, b.holder.text? = some "GStringMethods" ∧
          (hostsOf p (structCarriers g layouts ++ mixinCarriers g)).map Name.text? =
            [some "GString", some "GStringMethods"])) := by
    decide +kernel
  obtain ⟨⟨r, g, modules⟩, hpackage, returns⟩ := exists_eq_ok_of_any returns
  obtain ⟨layouts, hlayouts, hfacts⟩ := exists_eq_ok_of_any returns
  obtain ⟨distinct, carried⟩ := of_decide_eq_true hfacts
  obtain ⟨hr, hg, hmodules⟩ := packageOf_eq_ok hpackage
  exact ⟨r, g, _, layouts, hr, hg, render_of_packageModules hmodules, distinct, hlayouts, carried⟩

end Package

end EngineBindings
