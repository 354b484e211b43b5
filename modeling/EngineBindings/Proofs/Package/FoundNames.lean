import EngineBindings.Proofs.Package.ResolvedImports
import EngineBindings.Proofs.Package.Scope
import EngineBindings.Proofs.Registry.Plain

/-! Every name that a class module reads is there.

Each thing that planned code may read is led back to what the module has it from: what names a type
to the import that the code requires (`accounts_of_supplied`), the rest to the imports that come
with members of its kind. So every passage of a module accounts for the names that it reads, and
finds them unless they are hidden from it or misnamed (`names_found`). -/
namespace EngineBindings.Package

open Attempt EngineBindings.Code EngineBindings.Text Registry

/-! ### Required symbols -/

section Required

variable {runtimeModule : String} {p : ClassPlan} {code : ClassCode} {s : Passage}
  {requires : List Requirement} (hcode : classCode runtimeModule p = .ok code)
  (imports : s.imports = importedClasses p requires)
  (within : requires ⊆ p.requires) (origins : ∀ q ∈ p.requires, q.origin ≠ .language)
include hcode imports within origins

/-- What a function requires is imported at its head or at the top of the module; the class itself
and its parent are there already. -/
theorem available_of_requires {q : Requirement} (hq : q ∈ requires) :
    q.symbol ∈ s.imports ∨ code.Has q.symbol := by
  have required := within hq
  have origin := origins q required
  obtain ⟨source, symbol⟩ := q
  cases source with
  | language => exact absurd rfl origin
  | runtime => exact .inr (has_runtime hcode (.inr required))
  | core => exact .inr (has_core hcode required)
  | «class» =>
    cases skipped : (classSite p).skip.contains (symbol : Name) with
    | false =>
      left
      rw [imports]
      exact List.mem_filter.mpr ⟨mem_symbolsFrom.mpr hq, by rw [skipped]; rfl⟩
    | true =>
      right
      rw [List.contains_eq_any_beq] at skipped
      obtain ⟨n, hn, same⟩ := List.any_eq_true.mp skipped
      have same : n = (symbol : Name) := Name.eq_text_of_beq (BEq.symm same)
      have named : n.display = symbol := by
        rw [same]
        rfl
      rw [← named]
      rcases List.mem_cons.mp hn with rfl | hparent
      · exact has_self hcode
      · exact has_parent hcode (Option.mem_toList.mp hparent)

/-- What names a type is found, unless it is hidden or misnamed. -/
theorem accounts_of_supplied {name : String} (h : SuppliedBy requires p.name name) :
    s.Accounts code name := by
  rcases h with language | ⟨q, hq, supplies⟩
  · exact Passage.accounts_of_language language
  · have available : q.symbol ∈ s.imports ∨ code.Has q.symbol := by
      rcases hq with hq | hclass
      · exact available_of_requires hcode imports within origins hq
      · right
        have named : p.name.text? = some q.symbol := by
          have hclass := (Bool.and_eq_true_iff.mp hclass).2
          simpa using hclass
        have self := has_self hcode
        rw [Name.eq_text_of_text? named] at self
        exact self
    cases supplies with
    | symbol h =>
      rw [h]
      rcases available with imported | has
      · exact .inl (.imported imported)
      · exact Passage.accounts_of_has has
    | receiver _ receiver h =>
      refine .inr (.inr ⟨q.symbol, receiver, h, ?_⟩)
      rcases available with imported | has
      · exact .imported imported
      · refine .module ?_
        rwa [Passage.mangle_of_receiver _ receiver, ite_self]

end Required

/-! ### Passage by passage -/

/-- The names that the declaration of a class holds are plain. -/
structure PlainClass (c : ClassDef) : Prop where
  name : c.name.IsPlain
  parent : ∀ parent, c.parent = some parent → parent.IsPlain
  methods : ∀ m ∈ c.methods, m.name.IsPlain
  types : ∀ m ∈ c.methods, ∀ type ∈ m.types, type.IsPlain

theorem notMem_of_isPlain {n : Name} (h : n.IsPlain) : '.' ∉ n.display.toList := by
  obtain ⟨s, rfl, identifier⟩ := Name.exists_of_isPlain h
  exact (notMem_of_isIdentifier identifier).1

theorem name_of_planClass {r : Registry} {flags : Flags} {c : ClassDef} {p : ClassPlan}
    (h : r.planClass flags c = .ok p) : p.name = c.name :=
  congrArg ClassDef.name (cls_of_planClass h)

/-- Nothing that code requires comes from the language. -/
theorem origin_of_requires {r : Registry} {flags : Flags} {c : ClassDef} {p : ClassPlan}
    (h : r.planClass flags c = .ok p) : ∀ q ∈ p.requires, q.origin ≠ .language := by
  have origin {m : MethodDef} {q : Requirement} (stems : r.Stems m q) : q.origin ≠ .language := by
    rcases stems with runtime | ⟨type, _, needs⟩
    · rw [runtime]
      nofun
    · generalize type.leaf = leaf at needs
      cases needs <;> nofun
  obtain ⟨members, properties⟩ := stems_of_planClass h
  intro q hq
  rcases List.mem_append.mp hq with hq | hq
  · obtain ⟨x, hx, hq⟩ := List.mem_flatMap.mp hq
    obtain ⟨m, _, stems⟩ := members x hx q hq
    exact origin stems
  · obtain ⟨a, ha, hq⟩ := List.mem_flatMap.mp hq
    obtain ⟨m, _, stems⟩ := properties a ha q hq
    exact origin stems

section Passages

variable {r : Registry} {flags : Flags} {c : ClassDef} {runtimeModule : String} {p : ClassPlan}
  {code : ClassCode} (hcode : classCode runtimeModule p = .ok code)
include hcode

theorem accounts_attributes {enums : List EnumDecl} (henums : p.cls.enums.mapM classEnum = .ok enums)
    (constants : List Block) :
    ∀ s ∈ attributePassages p enums constants, ∀ name ∈ s.reads, s.Accounts code name := by
  intro s hs name hname
  simp only [attributePassages, List.mem_cons, List.not_mem_nil, or_false] at hs
  rcases hs with rfl | rfl | rfl
  · cases hname
  · obtain ⟨decl, hdecl, rfl⟩ := List.mem_map.mp hname
    obtain ⟨e, he, declared⟩ := exists_left (mapM_eq_ok.mp henums) hdecl
    exact Passage.accounts_of_has (has_enumBase hcode he declared)
  · cases hname

theorem accounts_handles :
    ∀ name ∈ (handlePassage p).reads, (handlePassage p).Accounts code name := by
  intro name hname
  obtain ⟨b, hb, hname⟩ := List.mem_flatMap.mp hname
  rcases List.mem_pair.mp hname with rfl | rfl
  · exact Passage.accounts_of_has (has_slot hcode (lazyBinding_mem hb))
  · refine Passage.accounts_of_has (has_runtime hcode (.inl ?_))
    refine List.mem_append_left _ (List.mem_append_right _ ?_)
    rw [ite_isEmpty_of_mem hb]
    exact List.mem_singleton_self _

variable (hp : r.planClass flags c = .ok p) (plain : PlainClass c)
include hp plain

theorem accounts_head :
    ∀ name ∈ (headPassage p).reads, (headPassage p).Accounts code name := by
  intro name hname
  have hname : name = root ((p.parent.map Name.display).getD "Wrapped") :=
    List.mem_singleton.mp hname
  cases hparent : p.parent with
  | none =>
    have base : root "Wrapped" = "Wrapped" := by decide
    rw [hname, hparent, Option.map_none, Option.getD_none, base]
    refine Passage.accounts_of_has (has_runtime hcode (.inl ?_))
    refine List.mem_append_left _ (List.mem_append_left _ (List.mem_cons_of_mem _ ?_))
    rw [hparent]
    exact List.mem_singleton_self _
  | some parent =>
    have named : c.parent = some parent := by rwa [← cls_of_planClass hp]
    rw [hname, hparent, Option.map_some, Option.getD_some,
      root_eq_self (notMem_of_isPlain (plain.parent parent named))]
    exact Passage.accounts_of_has (has_parent hcode hparent)

variable (variant : r.class? ("Variant" : String) = none)
include variant

theorem accounts_property {a : PropertyAccessor} (ha : a ∈ p.properties) :
    ∀ s ∈ propertyPassages p a, ∀ name ∈ s.reads, s.Accounts code name := by
  obtain ⟨referenced, accessors⟩ := plansAccessors_of_planClass hp
  have plans := accessors.properties a ha
  have reads := readsAccessors_of_propertyAccessor variant
    (plain.types _ plans.served.getter_mem) plans.planned
  have owner : a.owner = p.name :=
    (owner_of_propertyAccessor plans.planned).trans (name_of_planClass hp).symm
  have within : a.requires ⊆ p.requires := fun q hq =>
    List.mem_append_right _ (List.mem_flatMap.mpr ⟨a, ha, hq⟩)
  obtain ⟨getter, setter⟩ := reads
  rw [owner] at getter setter
  intro s hs name hname
  simp only [propertyPassages, List.mem_cons, List.not_mem_nil, or_false] at hs
  rcases hs with rfl | rfl | rfl | rfl
  · rw [show name = "property" from List.mem_singleton.mp hname]
    exact Passage.accounts_of_language (by decide)
  · rcases getter name hname with rfl | supplied
    · exact Passage.accounts_of_own (List.mem_append_left _ List.mem_cons_self)
    · exact accounts_of_supplied hcode rfl within (origin_of_requires hp) supplied
  · exact Passage.accounts_of_own hname
  · rcases setter name hname with own | supplied
    · exact Passage.accounts_of_own (List.mem_append_left _ own)
    · exact accounts_of_supplied hcode rfl within (origin_of_requires hp) supplied

theorem accounts_bound {b : MethodBinding} (hx : .bound b ∈ p.members) :
    ∀ s ∈ memberPassages p (.bound b), ∀ name ∈ s.reads, s.Accounts code name := by
  have hb : b ∈ p.bindings := List.mem_filterMap.mpr ⟨_, hx, rfl⟩
  obtain ⟨planned, owner, declared, kind⟩ := planned_of_binding hp hb
  have within : b.requires ⊆ p.requires := fun q hq =>
    List.mem_append_left _ (List.mem_flatMap.mpr ⟨_, hx, hq⟩)
  have reads := MethodBinding.mayRead_body planned variant (plain.types _ declared) kind
  intro s hs name hname
  rcases List.mem_append.mp hs with hs | hs
  · split at hs
    · rw [List.mem_singleton.mp hs] at hname ⊢
      rw [show name = "staticmethod" from List.mem_singleton.mp hname]
      exact Passage.accounts_of_language (by decide)
    · cases hs
  · rw [List.mem_singleton.mp hs] at hname ⊢
    rcases reads name hname with own | fixed | self | supplied
    · exact Passage.accounts_of_own own
    · rcases List.mem_pair.mp fixed with rfl | rfl
      · exact Passage.accounts_of_has (has_ctypes hcode hx)
      · exact Passage.accounts_of_has (has_runtime hcode (.inl List.mem_cons_self))
    · rw [self, owner, ← name_of_planClass hp, root_eq_self]
      · exact Passage.accounts_of_has (has_self hcode)
      · rw [name_of_planClass hp]
        exact notMem_of_isPlain plain.name
    · rw [owner, ← name_of_planClass hp] at supplied
      exact accounts_of_supplied hcode rfl within (origin_of_requires hp) supplied

theorem accounts_overridable {t : Trampoline} (hx : .overridable t ∈ p.members) :
    ∀ s ∈ memberPassages p (.overridable t), ∀ name ∈ s.reads, s.Accounts code name := by
  have ht : t ∈ p.virtuals := List.mem_filterMap.mpr ⟨_, hx, rfl⟩
  obtain ⟨m, hm, haccept⟩ := acceptVirtual_of_virtual hp ht
  have answers := answers_of_acceptVirtual haccept
  have within : t.requires ⊆ p.requires := fun q hq =>
    List.mem_append_left _ (List.mem_flatMap.mpr ⟨_, hx, hq⟩)
  intro s hs name hname
  rw [List.mem_singleton.mp hs] at hname ⊢
  have types : ∀ type ∈ t.method.types, type.IsPlain := answers.method ▸ plain.types m hm
  obtain ⟨returns, supplied⟩ :=
    Trampoline.suppliedBy_baseBody (planned_of_acceptVirtual haccept) variant types name hname
  rw [answers.owner, ← name_of_planClass hp] at supplied
  exact accounts_of_supplied hcode (by rw [if_pos returns]; rfl) within (origin_of_requires hp) supplied

theorem accounts_member {x : Member} (hx : x ∈ p.members) :
    ∀ s ∈ memberPassages p x, ∀ name ∈ s.reads, s.Accounts code name := by
  cases x with
  | bound b => exact accounts_bound hcode hp plain variant hx
  | overridable t => exact accounts_overridable hcode hp plain variant hx

omit variant in
theorem accounts_dispatcher (table : hasTable p = true) :
    ∀ name ∈ (dispatcherPassage p.dispatch).reads,
      (dispatcherPassage p.dispatch).Accounts code name := by
  have tableName : root p.dispatch.tableName = p.dispatch.tableName := by
    refine root_eq_self ?_
    rw [toList_tableName, (dispatches_of_planClass hp).owner]
    simpa using notMem_of_isPlain plain.name
  intro name hname
  simp only [dispatcherPassage, List.mem_cons, List.not_mem_nil, or_false] at hname
  rcases hname with rfl | rfl | rfl | rfl | rfl | rfl
  · exact Passage.accounts_of_language (by decide)
  · rw [tableName]
    exact Passage.accounts_of_has (has_table hcode table)
  · exact Passage.accounts_of_language (by decide)
  · exact Passage.accounts_of_own (List.mem_cons_of_mem _ List.mem_cons_self)
  · exact Passage.accounts_of_own (show "proxy" ∈ ["cls", "name", "proxy"] by decide)
  · exact Passage.accounts_of_language (by decide)

theorem accounts_proxy {t : Trampoline} (ht : t ∈ p.virtuals) :
    ∀ name ∈ (proxyPassage p t).reads, (proxyPassage p t).Accounts code name := by
  obtain ⟨m, hm, haccept⟩ := acceptVirtual_of_virtual hp ht
  have answers := answers_of_acceptVirtual haccept
  obtain ⟨x, hx, htrampoline⟩ := List.mem_filterMap.mp ht
  have member : .overridable t ∈ p.members := by
    cases x with
    | bound b => cases htrampoline
    | overridable found =>
      cases htrampoline
      exact hx
  have within : t.requires ⊆ p.requires := fun q hq =>
    List.mem_append_left _ (List.mem_flatMap.mpr ⟨_, member, hq⟩)
  have types : ∀ type ∈ t.method.types, type.IsPlain := answers.method ▸ plain.types m hm
  intro name hname
  rcases Trampoline.mayRead_proxyBody (planned_of_acceptVirtual haccept) variant types name hname
    with own | slot | ⟨rfl, hargs⟩ | fixed | supplied
  · exact Passage.accounts_of_own own
  · exact Passage.accounts_of_has (has_slot hcode (slotSymbol_mem ht slot hname))
  · exact Passage.accounts_of_has (has_slot hcode (slotAddresses_mem ht hargs))
  · rcases List.mem_pair.mp fixed with rfl | rfl
    · exact Passage.accounts_of_has (has_ctypes hcode member)
    · refine Passage.accounts_of_has (has_runtime hcode (.inl (List.mem_append_right _ ?_)))
      rw [ite_isEmpty_of_mem ht]
      exact List.mem_singleton_self _
  · rw [answers.owner, ← name_of_planClass hp] at supplied
    exact accounts_of_supplied hcode rfl within (origin_of_requires hp) supplied

omit variant in
theorem accounts_table (table : hasTable p = true) :
    ∀ name ∈ (tablePassage p.dispatch).reads, (tablePassage p.dispatch).Accounts code name := by
  intro name hname
  obtain ⟨entry, hentry, rfl⟩ := List.mem_map.mp hname
  have ht : entry.2 ∈ p.virtuals :=
    mem_of_ofTrampolines (dispatches_of_planClass hp).table entry hentry
  obtain ⟨m, hm, haccept⟩ := acceptVirtual_of_virtual hp ht
  have proxyName : '.' ∉ entry.2.proxyName.toList := by
    rw [(answers_of_acceptVirtual haccept).proxyName]
    have className := notMem_of_isPlain plain.name
    have methodName := notMem_of_isPlain (plain.methods m hm)
    simp [className, methodName]
  rw [root_eq_self proxyName]
  exact Passage.accounts_of_has (has_proxy hcode table ht)

/-- Every passage of a module accounts for every name that it reads. -/
theorem accounts_of_passage {suite : List Passage} (hsuite : suitePassages p = .ok suite) :
    ∀ s ∈ suite ++ behindPassages p, ∀ name ∈ s.reads, s.Accounts code name := by
  obtain ⟨enums, henums, hsuite⟩ := bind_eq_ok.mp hsuite
  obtain ⟨constants, _, hsuite⟩ := bind_eq_ok.mp hsuite
  cases hsuite
  intro s hs
  rcases List.mem_append.mp hs with hs | hs
  · simp only [List.cons_append, List.mem_cons, List.mem_append, List.not_mem_nil, or_false,
      List.mem_flatMap] at hs
    rcases hs with rfl | (((own | rfl) | ⟨a, ha, property⟩) | ⟨x, hx, member⟩) | dispatcher
    · exact accounts_head hcode hp plain
    · exact accounts_attributes hcode henums constants s own
    · exact accounts_handles hcode
    · exact accounts_property hcode hp plain variant ha s property
    · exact accounts_member hcode hp plain variant hx s member
    · split at dispatcher
      · next table =>
        rw [List.mem_singleton.mp dispatcher]
        exact accounts_dispatcher hcode hp plain table
      · cases dispatcher
  · unfold behindPassages at hs
    split at hs
    · next table =>
      rcases List.mem_append.mp hs with proxy | last
      · obtain ⟨t, ht, rfl⟩ := List.mem_map.mp proxy
        exact accounts_proxy hcode hp plain variant ht
      · rw [List.mem_singleton.mp last]
        exact accounts_table hcode hp plain table
    · cases hs

end Passages

/-! ### The modules of a package -/

theorem plainClass_of_plainNames {configuration : String} {document : Json} {r : Registry}
    (h : ofDocument configuration document = .ok r) (plain : r.PlainNames) {c : ClassDef}
    (hc : c ∈ r.classes) : PlainClass c := by
  have declared {m : MethodDef} (hm : m ∈ c.methods) : m ∈ r.callables :=
    List.mem_append_left _ (List.mem_append_left _ (List.mem_flatMap.mpr ⟨c, hc, hm⟩))
  obtain ⟨_, _, hbuild⟩ := bind_eq_ok.mp h
  obtain ⟨d, _, hbuild⟩ := bind_eq_ok.mp hbuild
  constructor
  case name => exact plain.classes c hc
  case parent =>
    intro parent hparent
    obtain ⟨found, hfound⟩ := (sound_of_build hbuild).parents c hc parent hparent
    obtain ⟨s, hs, _⟩ := Name.exists_of_isPlain (plain.classes _ (List.mem_of_find?_eq_some hfound))
    have same := List.find?_some hfound
    rw [hs] at same
    have given : parent = (s : Name) := Name.eq_text_of_beq (BEq.symm same)
    rw [given, ← hs]
    exact plain.classes _ (List.mem_of_find?_eq_some hfound)
  case methods => exact plain.methods c hc
  case types => exact fun m hm => isPlain_of_callable h plain (declared hm)

/-- What a class's module reads is there.

Every planned class has a module of its own, and the lines from its class statement on are those of
its passages. A passage finds each name that it reads: the name is its own or that of a class
imported at its head, or the module has it at its top, where the language, the class itself, its
proxies, its table and the imports are. The module has the others under a name that means another
one where it is read, or they are the name of a class that is found, `self` or `cls`, with an
underscore behind it. -/
theorem names_found {configuration runtimeModule : String} {document : Json} {r : Registry}
    {flags : Flags} {g : Generation} {modules : List EmittedModule}
    (h : ofDocument configuration document = .ok r) (plain : r.PlainNames)
    (variant : r.class? ("Variant" : String) = none) (hg : r.generate flags = .ok g)
    (hmodules : packageModules g runtimeModule = .ok modules) :
    ∀ p ∈ parentFirstPlans g, ∃ m ∈ modules, ∃ code suite, m.path = classPath p.name.display ∧
      classCode runtimeModule p = .ok code ∧ suitePassages p = .ok suite ∧
      m.lines = code.lines (headerComment g.registry) ∧
      code.body = dropTrailingEmpty (suite.flatMap (·.lines)) ++
        (behindPassages p).flatMap (·.lines) ∧
      ∀ s ∈ suite ++ behindPassages p, ∀ name ∈ s.reads,
        s.Finds code name ∨ s.Hides code name ∨ s.Misnames code name := by
  intro p hp
  obtain ⟨m, hm, hmodule⟩ := exists_classModule hmodules hp
  obtain ⟨lines, hlines, made⟩ := bind_eq_ok.mp hmodule
  cases made
  rw [classModuleLines_eq] at hlines
  obtain ⟨code, hcode, rfl⟩ := map_eq_ok.mp hlines
  obtain ⟨suite, hsuite, hbody⟩ := body_eq_passages hcode
  obtain ⟨c, hc, hplan⟩ : ∃ c ∈ r.classes, r.planClass flags c = .ok p := by
    obtain ⟨c, _, hfound⟩ := List.mem_filterMap.mp hp
    exact exists_left (generates_of_generate hg).plans (List.mem_of_find?_eq_some hfound)
  exact ⟨_, hm, code, suite, rfl, hcode, hsuite, rfl, hbody,
    accounts_of_passage hcode hplan (plainClass_of_plainNames h plain hc) variant hsuite⟩

/-- A method of rooms returns a hall, which it imports: nothing is hidden there or misnamed. -/
theorem names_found_rooms :
    ∃ r g modules, ofDocument "float_64" rooms = .ok r ∧ r.PlainNames ∧
      r.class? ("Variant" : String) = none ∧ r.generate {} = .ok g ∧
      packageModules g "godot.runtime" = .ok modules ∧
      ∃ p ∈ parentFirstPlans g, ∃ code suite s, classCode "godot.runtime" p = .ok code ∧
        suitePassages p = .ok suite ∧ s ∈ suite ∧ "Hall" ∈ s.reads ∧ s.Finds code "Hall" := by
  have returns : (packageOf rooms).toOption.any (fun (r, g, _) =>
      decide r.PlainNames && (r.class? ("Variant" : String)).isNone &&
        (parentFirstPlans g).any fun p => (suitePassages p).toOption.any fun suite =>
          suite.any (·.reads.contains "Hall")) := by
    decide +kernel
  obtain ⟨⟨r, g, modules⟩, hpackage, hfacts⟩ := exists_eq_ok_of_any returns
  simp only [Bool.and_eq_true, decide_eq_true_eq, Option.isNone_iff_eq_none] at hfacts
  obtain ⟨⟨plain, variant⟩, reads⟩ := hfacts
  obtain ⟨hr, hg, hmodules⟩ := packageOf_eq_ok hpackage
  obtain ⟨p, hp, reads⟩ := List.any_eq_true.mp reads
  obtain ⟨m, hm, code, suite, _, hcode, hsuite, _, _, found⟩ :=
    names_found hr plain variant hg hmodules p hp
  rw [hsuite] at reads
  obtain ⟨s, hs, hreads⟩ := List.any_eq_true.mp reads
  have hreads : "Hall" ∈ s.reads := List.contains_iff_mem.mp hreads
  refine ⟨r, g, modules, hr, plain, variant, hg, hmodules, p, hp, code, suite, s, hcode, hsuite, hs,
    hreads, ?_⟩
  rcases found s (List.mem_append_left _ hs) "Hall" hreads with finds | ⟨_, _, hidden⟩ |
    ⟨owner, receiver, misnamed, _⟩
  · exact finds
  · refine absurd (mangle_eq_self.mpr fun h => ?_) hidden
    exact absurd h.1 (by decide)
  · have others : ∀ owner ∈ receiverNames, "Hall" ≠ owner ++ "_" := by decide
    exact absurd misnamed (others owner receiver)

/-- A class whose name is kept for receivers has an enumeration, another enumeration has a private
name, and a door is of a kind of either. -/
def kinds : Json :=
  documentOf []
    [("classes",
      [.obj [("name", .str "cls"),
        ("enums", .arr [.obj [("name", .str "Kind"),
          ("values", .arr [.obj [("name", .str "PLAIN"), ("value", .int 0)]])]])],
       .obj [("name", .str "Door"),
        ("methods", .arr [
          .obj [("name", .str "kind"), ("hash", .int 1),
            ("return_value", .obj [("type", .str "enum::cls.Kind")])],
          .obj [("name", .str "mode"), ("hash", .int 2),
            ("return_value", .obj [("type", .str "enum::__Mode")])]])]]),
     ("global_enums",
      [.obj [("name", .str "__Mode"),
        ("values", .arr [.obj [("name", .str "OPEN"), ("value", .int 0)]])]])]

/-- One method imports the class and reads it under another name, which nothing has; the other one
reads a name that means another one inside the class statement, which nothing has either. -/
theorem kinds_missed :
    ∃ r g modules, ofDocument "float_64" kinds = .ok r ∧ r.PlainNames ∧
      r.class? ("Variant" : String) = none ∧ r.generate {} = .ok g ∧
      packageModules g "godot.runtime" = .ok modules ∧
      ∃ p ∈ parentFirstPlans g, ∃ code suite, classCode "godot.runtime" p = .ok code ∧
        suitePassages p = .ok suite ∧
        (∃ s ∈ suite, "cls_" ∈ s.reads ∧ ¬s.Finds code "cls_") ∧
        ∃ s ∈ suite, "__Mode" ∈ s.reads ∧ ¬s.Finds code "__Mode" := by
  have returns : (packageOf kinds).toOption.any (fun (r, g, _) =>
      decide r.PlainNames && (r.class? ("Variant" : String)).isNone &&
        (parentFirstPlans g).any fun p => (suitePassages p).toOption.any fun suite =>
          suite.any (·.misses p "cls_") && suite.any (·.misses p "__Mode")) := by
    decide +kernel
  obtain ⟨⟨r, g, modules⟩, hpackage, hfacts⟩ := exists_eq_ok_of_any returns
  simp only [Bool.and_eq_true, decide_eq_true_eq, Option.isNone_iff_eq_none] at hfacts
  obtain ⟨⟨plain, variant⟩, missed⟩ := hfacts
  obtain ⟨hr, hg, hmodules⟩ := packageOf_eq_ok hpackage
  obtain ⟨p, hp, missed⟩ := List.any_eq_true.mp missed
  obtain ⟨m, _, hmodule⟩ := exists_classModule hmodules hp
  obtain ⟨lines, hlines, _⟩ := bind_eq_ok.mp hmodule
  rw [classModuleLines_eq] at hlines
  obtain ⟨code, hcode, rfl⟩ := map_eq_ok.mp hlines
  obtain ⟨suite, hsuite, missed⟩ := exists_eq_ok_of_any missed
  obtain ⟨misnamed, hidden⟩ := Bool.and_eq_true_iff.mp missed
  obtain ⟨s, hs, misnamed⟩ := List.any_eq_true.mp misnamed
  obtain ⟨t, ht, hidden⟩ := List.any_eq_true.mp hidden
  exact ⟨r, g, modules, hr, plain, variant, hg, hmodules, p, hp, code, suite, hcode, hsuite,
    ⟨s, hs, not_finds_of_misses hcode misnamed⟩, ⟨t, ht, not_finds_of_misses hcode hidden⟩⟩

end EngineBindings.Package
