import EngineBindings.Proofs.Name
import EngineBindings.Proofs.Schema.Decoded
import EngineBindings.Proofs.Target.Needs
import EngineBindings.Schema.Decode

/-! What signatures name is declared.

What is said of every spelling in a document holds of every type in a signature, and names under
which the spellings mean the same read the same declarations (`Rereads`). A spelling is read as an
object or as a value only where the document names a class or a builtin so (`resolved_of_spelled`),
and the registry keeps these names (`exists_spelling`). So an object in a signature of a registry
that was read belongs to one of the registry's classes, and a value to a builtin that is declared or
has a size, inside typed arrays as well. -/
namespace EngineBindings

open Attempt

/-! ### Spellings -/

/-- A type is an object of a known class or a value of a known builtin, if it is either. -/
structure TypeRef.Resolved (names : KnownNames) (type : TypeRef) : Prop where
  object : ∀ name, type.leaf = .object name → name ∈ names.classes
  value : ∀ name, type.leaf = .value name → name ∈ names.builtins

/-- A type that some text spells. -/
def TypeRef.Spelled (names : KnownNames) (type : TypeRef) : Prop :=
  ∃ place cs, names.resolveChars place cs = .ok type

namespace KnownNames

variable {names : KnownNames} {place : String}

theorem resolved_of_resolveName {s : String} {type : TypeRef}
    (h : names.resolveName place s = .ok type) : type.Resolved names := by
  unfold resolveName at h
  split at h
  · cases h
    exact ⟨nofun, nofun⟩
  · split at h
    · cases h
      exact ⟨nofun, nofun⟩
    · split at h
      · next hclass =>
        cases h
        refine ⟨fun name hname => ?_, nofun⟩
        cases hname
        simpa using hclass
      · split at h
        · next hbuiltin =>
          cases h
          refine ⟨nofun, fun name hname => ?_⟩
          cases hname
          simpa using hbuiltin
        · split at h
          · cases h
            exact ⟨nofun, nofun⟩
          · cases h

theorem resolved_of_resolveChars (cs : List Char) :
    ∀ type, names.resolveChars place cs = .ok type → type.Resolved names := by
  fun_induction KnownNames.resolveChars names place cs with
  | case1 =>
    intro type h
    cases h
  | case2 | case3 =>
    intro type h
    cases h
    exact ⟨nofun, nofun⟩
  | case4 cs _ _ _ element _ ih =>
    intro type h
    obtain ⟨inner, hinner, rfl⟩ := map_eq_ok.mp h
    have resolved := ih inner hinner
    exact ⟨resolved.object, resolved.value⟩
  | case5 => exact fun type h => resolved_of_resolveName h

theorem resolved_of_spelled {type : TypeRef} (h : type.Spelled names) : type.Resolved names := by
  obtain ⟨place, cs, h⟩ := h
  exact resolved_of_resolveChars cs type h

end KnownNames

namespace Schema

/-! ### Readings

A document is read the same under other names if every type that it spells is. What is said of all
these types then holds of the types in what is read. -/

/-- Whatever the texts of a document spell, other names spell as well, and it has a property. -/
def Rereads (document : Json) (names names' : KnownNames) (P : TypeRef → Prop) : Prop :=
  ∀ place text type, document.Part (.str text) → names.resolve place text = .ok type →
    names'.resolve place text = .ok type ∧ P type

theorem rereads_self (document : Json) (names : KnownNames) :
    Rereads document names names fun type =>
      ∃ place text, document.Part (.str text) ∧ names.resolve place text = .ok type :=
  fun place text _ part h => ⟨h, place, text, part, h⟩

variable {names names' : KnownNames} {document value : Json} {fields : Fields}
  {place owner : String}

section Readings

variable {P : TypeRef → Prop} (h : Rereads document names names' P)
include h

theorem Rereads.type {type : TypeRef} (part : document.Part value)
    (hread : Schema.type names place value = .ok type) :
    Schema.type names' place value = .ok type ∧ P type := by
  cases value with
  | str text =>
    unfold Schema.type at hread ⊢
    dsimp only at hread ⊢
    split at hread
    · cases hread
    · next shallow =>
      obtain ⟨same, property⟩ := h place text type part (mapError_eq_ok.mp hread)
      rw [if_neg shallow]
      exact ⟨mapError_eq_ok.mpr same, property⟩
  | null | bool | int | float | arr | obj => cases hread

theorem Rereads.optionalType {type : Option TypeRef} (part : value ≠ .null → document.Part value)
    (hread : Schema.optionalType names place value = .ok type) :
    Schema.optionalType names' place value = .ok type ∧ ∀ found ∈ type, P found := by
  unfold Schema.optionalType at hread ⊢
  split at hread
  · next given =>
    have present : value ≠ .null := by
      rintro rfl
      cases given
    obtain ⟨found, hfound, rfl⟩ := map_eq_ok.mp hread
    obtain ⟨same, property⟩ := h.type (part present) hfound
    rw [if_pos given, same]
    exact ⟨rfl, fun _ hmem => Option.some.inj hmem ▸ property⟩
  · next missing =>
    cases hread
    rw [if_neg missing]
    exact ⟨rfl, nofun⟩

/-! ### Signatures -/

theorem Rereads.argument {a : ArgumentDef} (part : document.Part value)
    (hread : Schema.argument names place value = .ok a) :
    Schema.argument names' place value = .ok a ∧ P a.type := by
  unfold Schema.argument at hread ⊢
  simp only [bind_eq_ok, pure_eq_ok] at hread ⊢
  obtain ⟨fields, hfields, name, hname, spelling, hspelling, type, htype, rfl⟩ := hread
  have inside := asObject_eq_ok.mp hfields ▸ part
  obtain ⟨same, property⟩ := h.type (inside.field (require_eq_ok.mp hspelling)) htype
  exact ⟨⟨fields, hfields, name, hname, spelling, hspelling, type, same, rfl⟩, property⟩

theorem Rereads.arguments {args : List ArgumentDef} (part : document.Part (.obj fields))
    (hread : Schema.arguments names fields place = .ok args) :
    Schema.arguments names' fields place = .ok args ∧ ∀ a ∈ args, P a.type := by
  unfold Schema.arguments at hread ⊢
  obtain ⟨items, hitems, hread⟩ := bind_eq_ok.mp hread
  rw [hitems, ok_bind]
  exact mapM_of_forall hread fun item hitem _ => h.argument (part_of_list part hitems item hitem)

omit h in
/-- The types of a signature are those of its arguments and the declared result. -/
theorem forall_types {m : MethodDef} (arguments : ∀ a ∈ m.arguments, P a.type)
    (result : ∀ type ∈ m.returnType, P type) : ∀ type ∈ m.types, P type := by
  intro type htype
  rcases List.mem_append.mp htype with htype | htype
  · obtain ⟨a, ha, rfl⟩ := List.mem_map.mp htype
    exact arguments a ha
  · exact result type (Option.filter_eq_some_iff.mp (Option.mem_toList.mp htype)).1

theorem Rereads.method {m : MethodDef} (part : document.Part value)
    (hread : Schema.method names owner value = .ok m) :
    Schema.method names' owner value = .ok m ∧ ∀ type ∈ m.types, P type := by
  unfold Schema.method at hread ⊢
  obtain ⟨fields, hfields, hread⟩ := bind_eq_ok.mp hread
  obtain ⟨name, hname, hread⟩ := bind_eq_ok.mp hread
  obtain ⟨⟨isVirtual, hash⟩, hbinding, hread⟩ := bind_eq_ok.mp hread
  have inside := asObject_eq_ok.mp hfields ▸ part
  rw [hfields, ok_bind, hname, ok_bind]
  dsimp only at hread ⊢
  rw [hbinding, ok_bind]
  dsimp only
  split at hread
  · next given =>
    obtain ⟨inner, hinner, hread⟩ := bind_eq_ok.mp hread
    obtain ⟨spelling, hspelling, hread⟩ := bind_eq_ok.mp hread
    obtain ⟨type, htype, hread⟩ := bind_eq_ok.mp hread
    obtain ⟨_, hpair, hread⟩ := bind_eq_ok.mp hread
    obtain ⟨args, hargs, hread⟩ := bind_eq_ok.mp hread
    obtain ⟨number, hnumber, hread⟩ := bind_eq_ok.mp hread
    cases hpair
    have present : optional fields "return_value" ≠ .null := by
      intro missing
      rw [missing] at given
      cases given
    have result := asObject_eq_ok.mp hinner ▸ part_optional inside present
    obtain ⟨sameType, property⟩ := h.type (result.field (require_eq_ok.mp hspelling)) htype
    obtain ⟨sameArgs, properties⟩ := h.arguments inside hargs
    rw [if_pos given, hinner, ok_bind, hspelling, ok_bind, sameType, ok_bind]
    dsimp only [pure, Except.pure]
    rw [ok_bind, sameArgs, ok_bind, hnumber]
    rw [← pure_eq_ok.mp hread]
    exact ⟨rfl, forall_types properties fun _ found => Option.some.inj found ▸ property⟩
  · next missing =>
    obtain ⟨_, hpair, hread⟩ := bind_eq_ok.mp hread
    obtain ⟨args, hargs, hread⟩ := bind_eq_ok.mp hread
    obtain ⟨number, hnumber, hread⟩ := bind_eq_ok.mp hread
    cases hpair
    obtain ⟨sameArgs, properties⟩ := h.arguments inside hargs
    rw [if_neg missing]
    dsimp only [pure, Except.pure]
    rw [ok_bind, sameArgs, ok_bind, hnumber]
    rw [← pure_eq_ok.mp hread]
    exact ⟨rfl, forall_types properties nofun⟩

/-- What takes arguments and returns a bare spelling has the same signature under other names. -/
theorem Rereads.signature {args : List ArgumentDef} {result : Option TypeRef} {resultPlace : String}
    (part : document.Part (.obj fields))
    (hargs : Schema.arguments names fields place = .ok args)
    (hresult : Schema.optionalType names resultPlace (optional fields "return_type") =
      .ok result) :
    Schema.arguments names' fields place = .ok args ∧
      Schema.optionalType names' resultPlace (optional fields "return_type") = .ok result ∧
      ∀ m : MethodDef, m.arguments = args → m.returnType = result → ∀ type ∈ m.types, P type := by
  obtain ⟨sameArgs, properties⟩ := h.arguments part hargs
  obtain ⟨sameResult, property⟩ := h.optionalType (part_optional part) hresult
  refine ⟨sameArgs, sameResult, ?_⟩
  rintro m rfl rfl
  exact forall_types properties property

theorem Rereads.builtinMethod {m : MethodDef} (part : document.Part value)
    (hread : Schema.builtinMethod names owner value = .ok m) :
    Schema.builtinMethod names' owner value = .ok m ∧ ∀ type ∈ m.types, P type := by
  unfold Schema.builtinMethod at hread ⊢
  simp only [bind_eq_ok, pure_eq_ok] at hread ⊢
  obtain ⟨fields, hfields, name, hname, hash, hhash, args, hargs, result, hresult, number, hnumber,
    rfl⟩ := hread
  obtain ⟨sameArgs, sameResult, properties⟩ :=
    h.signature (asObject_eq_ok.mp hfields ▸ part) hargs hresult
  exact ⟨⟨fields, hfields, name, hname, hash, hhash, args, sameArgs, result, sameResult, number,
    hnumber, rfl⟩, properties _ rfl rfl⟩

theorem Rereads.utility {u : UtilityDef} (part : document.Part value)
    (hread : Schema.utility names value = .ok u) :
    Schema.utility names' value = .ok u ∧ ∀ type ∈ u.asMethod.types, P type := by
  unfold Schema.utility at hread ⊢
  simp only [bind_eq_ok, pure_eq_ok] at hread ⊢
  obtain ⟨fields, hfields, name, hname, hash, hhash, args, hargs, result, hresult, number, hnumber,
    rfl⟩ := hread
  obtain ⟨sameArgs, sameResult, properties⟩ :=
    h.signature (asObject_eq_ok.mp hfields ▸ part) hargs hresult
  exact ⟨⟨fields, hfields, name, hname, hash, hhash, args, sameArgs, result, sameResult, number,
    hnumber, rfl⟩, properties _ rfl rfl⟩

/-! ### Declarations -/

theorem Rereads.classDef {c : ClassDef} (part : document.Part value)
    (hread : Schema.classDef names value = .ok c) :
    Schema.classDef names' value = .ok c ∧ ∀ m ∈ c.methods, ∀ type ∈ m.types, P type := by
  unfold Schema.classDef at hread ⊢
  simp only [bind_eq_ok, pure_eq_ok] at hread ⊢
  obtain ⟨fields, hfields, name, hname, items, hitems, methods, hmethods, others⟩ := hread
  have inside := asObject_eq_ok.mp hfields ▸ part
  obtain ⟨same, properties⟩ := mapM_of_forall hmethods fun item hitem _ =>
    h.method (part_of_list inside hitems item hitem)
  refine ⟨⟨fields, hfields, name, hname, items, hitems, methods, same, others⟩, ?_⟩
  obtain ⟨_, _, _, _, _, _, _, _, _, _, _, _, rfl⟩ := others
  exact properties

theorem Rereads.builtinDef {b : BuiltinDef} (part : document.Part value)
    (hread : Schema.builtinDef names value = .ok b) :
    Schema.builtinDef names' value = .ok b ∧ ∀ m ∈ b.methods, ∀ type ∈ m.types, P type := by
  unfold Schema.builtinDef at hread ⊢
  simp only [bind_eq_ok, pure_eq_ok] at hread ⊢
  obtain ⟨fields, hfields, name, hname, rawMembers, hrawMembers, members, hmembers, rawOperators,
    hrawOperators, operators, hoperators, constructors, hconstructors, rawEnums, hrawEnums, enums,
    henums, items, hitems, methods, hmethods, rfl⟩ := hread
  have inside := asObject_eq_ok.mp hfields ▸ part
  obtain ⟨same, properties⟩ := mapM_of_forall hmethods fun item hitem _ =>
    h.builtinMethod (part_of_list inside hitems item hitem)
  exact ⟨⟨fields, hfields, name, hname, rawMembers, hrawMembers, members, hmembers, rawOperators,
    hrawOperators, operators, hoperators, constructors, hconstructors, rawEnums, hrawEnums, enums,
    henums, items, hitems, methods, same, rfl⟩, properties⟩

/-! ### Sections -/

theorem Rereads.classes {items : List Json} {classes : List ClassDef}
    (parts : ∀ item ∈ items, document.Part item)
    (hread : items.mapM (Schema.classDef names) = .ok classes) :
    items.mapM (Schema.classDef names') = .ok classes :=
  (mapM_of_forall hread fun item hitem _ => h.classDef (parts item hitem)).1

theorem Rereads.builtins {items : List Json} {builtins : List BuiltinDef}
    (parts : ∀ item ∈ items, document.Part item)
    (hread : items.mapM (Schema.builtinDef names) = .ok builtins) :
    items.mapM (Schema.builtinDef names') = .ok builtins :=
  (mapM_of_forall hread fun item hitem _ => h.builtinDef (parts item hitem)).1

theorem Rereads.utilities {items : List Json} {utilities : List UtilityDef}
    (parts : ∀ item ∈ items, document.Part item)
    (hread : items.mapM (Schema.utility names) = .ok utilities) :
    items.mapM (Schema.utility names') = .ok utilities :=
  (mapM_of_forall hread fun item hitem _ => h.utility (parts item hitem)).1

end Readings

/-- What is said of all types that a document spells holds of the types of all its callables. -/
theorem Rereads.callables {P : TypeRef → Prop} (h : Rereads document names names' P)
    {classItems builtinItems utilityItems : List Json} {classes : List ClassDef}
    {builtins : List BuiltinDef} {utilities : List UtilityDef}
    (classParts : ∀ item ∈ classItems, document.Part item)
    (builtinParts : ∀ item ∈ builtinItems, document.Part item)
    (utilityParts : ∀ item ∈ utilityItems, document.Part item)
    (hclasses : classItems.mapM (Schema.classDef names) = .ok classes)
    (hbuiltins : builtinItems.mapM (Schema.builtinDef names) = .ok builtins)
    (hutilities : utilityItems.mapM (Schema.utility names) = .ok utilities) {m : MethodDef}
    (hm : m ∈ classes.flatMap (·.methods) ++ builtins.flatMap (·.methods) ++
      utilities.map (·.asMethod)) {type : TypeRef} (htype : type ∈ m.types) : P type := by
  rcases List.mem_append.mp hm with hm | hm
  · rcases List.mem_append.mp hm with hm | hm
    · obtain ⟨c, hc, hm⟩ := List.mem_flatMap.mp hm
      obtain ⟨item, hitem, hread⟩ := exists_left (mapM_eq_ok.mp hclasses) hc
      exact (h.classDef (classParts item hitem) hread).2 m hm type htype
    · obtain ⟨b, hb, hm⟩ := List.mem_flatMap.mp hm
      obtain ⟨item, hitem, hread⟩ := exists_left (mapM_eq_ok.mp hbuiltins) hb
      exact (h.builtinDef (builtinParts item hitem) hread).2 m hm type htype
  · obtain ⟨u, hu, rfl⟩ := List.mem_map.mp hm
    obtain ⟨item, hitem, hread⟩ := exists_left (mapM_eq_ok.mp hutilities) hu
    exact (h.utility (utilityParts item hitem) hread).2 type htype

/-- The name that the document gives a declaration. -/
def Declares (place : String) (value : Json) (n : Name) : Prop :=
  ∃ fields, asObject place value = .ok fields ∧ name fields place = .ok n

theorem declares_of_classDef {c : ClassDef} (h : classDef names value = .ok c) :
    Declares "classes[]" value c.name := by
  unfold classDef at h
  simp only [bind_eq_ok, pure_eq_ok] at h
  obtain ⟨fields, hfields, name, hname, items, _, methods, _, _, _, _, _, _, _, _, _, _, _, _, _,
    rfl⟩ := h
  exact ⟨fields, hfields, hname⟩

theorem declares_of_builtinDef {b : BuiltinDef} (h : builtinDef names value = .ok b) :
    Declares "builtin_classes[]" value b.name := by
  unfold builtinDef at h
  simp only [bind_eq_ok, pure_eq_ok] at h
  obtain ⟨fields, hfields, name, hname, members, _, _, _, _, _, _, _, _, _, _, _, _, _, _, _,
    methods, _, rfl⟩ := h
  exact ⟨fields, hfields, hname⟩

theorem eq_of_declaredName {n m : Name}
    (h : (do (← name (← asObject place value) place).keyed.mapError .value) = .ok n)
    (hm : Declares place value m) : m = n := by
  obtain ⟨fields, hfields, hname⟩ := hm
  obtain ⟨found, hfound, h⟩ := bind_eq_ok.mp h
  obtain ⟨given, hgiven, hkeyed⟩ := bind_eq_ok.mp h
  rw [hfields] at hfound
  cases hfound
  rw [hname] at hgiven
  cases hgiven
  exact (Name.keyed_eq_ok.mp (mapError_eq_ok.mp hkeyed)).2.symm

/-- The names that stand for declarations are those of the declarations. -/
theorem names_of_declared {α : Type} {read : Json → Except Fault α} {nameOf : α → Name}
    (declares : ∀ {value a}, read value = .ok a → Declares place value (nameOf a))
    {entries : List Json} {names : List Name} {declared : List α}
    (hnames : declaredNames place entries = .ok names) (h : entries.mapM read = .ok declared) :
    declared.map nameOf = names := by
  replace h := mapM_eq_ok.mp h
  replace hnames := mapM_eq_ok.mp hnames
  induction h generalizing names with
  | nil =>
    cases hnames
    rfl
  | cons ha _ ih =>
    cases hnames with
    | cons hn rest => rw [List.map_cons, ih rest, eq_of_declaredName hn (declares ha)]

end Schema

namespace Registry

variable {r : Registry}

/-- Every type in a signature is spelled somewhere in the document, with the names that the registry
knows. -/
theorem exists_spelling {configuration : String} {document : Json}
    (h : ofDocument configuration document = .ok r) {m : MethodDef} (hm : m ∈ r.callables)
    {type : TypeRef} (htype : type ∈ m.types) :
    ∃ place text, document.Part (.str text) ∧ r.knownNames.resolve place text = .ok type := by
  obtain ⟨profile, _, h⟩ := bind_eq_ok.mp h
  obtain ⟨d, hd, h⟩ := bind_eq_ok.mp h
  obtain ⟨header, _, rfl⟩ := build_eq_ok.mp h
  unfold Schema.declarations at hd
  simp only [bind_eq_ok, pure_eq_ok] at hd
  obtain ⟨o, houtline, classes, hclasses, builtins, hbuiltins, _, _, _, _, _, _, _, _, _, hitems,
    utilities, hutilities, rfl⟩ := hd
  have sections := Schema.isOf_of_outline houtline
  have spelled := (Schema.rereads_self document o.names).callables sections.classes
    sections.builtins (Schema.part_of_list (sections.fields ▸ .whole) hitems) hclasses hbuiltins
    hutilities hm htype
  -- The names that the outline has are those of the declarations, which the registry keeps.
  obtain ⟨classNames, builtinNames, _, hclassNames, hbuiltinNames, classNames_eq, builtinNames_eq,
    natives_eq⟩ := Schema.names_of_outline houtline
  rw [← Schema.names_of_declared Schema.declares_of_classDef hclassNames hclasses] at classNames_eq
  rw [← Schema.names_of_declared Schema.declares_of_builtinDef hbuiltinNames hbuiltins]
    at builtinNames_eq
  have same : o.names = KnownNames.ofNames (classes.map (·.name))
      (builtins.map (·.name) ++ o.sizes.keys) (o.natives.map (·.name)) := by
    rw [KnownNames.ofNames, ← classNames_eq, ← builtinNames_eq, ← natives_eq]
  rw [same] at spelled
  exact spelled

/-- What every spelling in a document says holds of the types of all callables that are read. -/
theorem types_of_ofDocument {configuration : String} {document : Json} {P : TypeRef → Prop}
    (h : ofDocument configuration document = .ok r)
    (hP : ∀ (names : KnownNames) place text type, document.Part (.str text) →
      names.resolve place text = .ok type → P type) :
    ∀ m ∈ r.callables, ∀ type ∈ m.types, P type := by
  intro m hm type htype
  obtain ⟨place, text, part, read⟩ := exists_spelling h hm htype
  exact hP r.knownNames place text type part read

theorem spelled_of_callable {configuration : String} {document : Json}
    (h : ofDocument configuration document = .ok r) {m : MethodDef} (hm : m ∈ r.callables)
    {type : TypeRef} (htype : type ∈ m.types) : type.Spelled r.knownNames := by
  obtain ⟨place, text, _, read⟩ := exists_spelling h hm htype
  exact ⟨place, text.toList, read⟩

/-- A type in a signature is of names that the registry declares, if it is an object or a value. -/
structure Known (r : Registry) (type : TypeRef) : Prop where
  object : ∀ name, type.leaf = .object name → ∃ c ∈ r.classes, c.name = name
  value : ∀ name, type.leaf = .value name → (name : Name) ∈ r.builtins.map (·.name) ++ r.sizes.keys

theorem known_of_callable {configuration : String} {document : Json}
    (h : ofDocument configuration document = .ok r) {m : MethodDef} (hm : m ∈ r.callables)
    {type : TypeRef} (htype : type ∈ m.types) : r.Known type := by
  have resolved := KnownNames.resolved_of_spelled (spelled_of_callable h hm htype)
  constructor
  · intro name hname
    obtain ⟨n, hn, htext⟩ := List.mem_filterMap.mp (resolved.object name hname)
    obtain ⟨c, hc, rfl⟩ := List.mem_map.mp hn
    exact ⟨c, hc, Name.eq_text_of_text? htext⟩
  · intro name hname
    obtain ⟨n, hn, htext⟩ := List.mem_filterMap.mp (resolved.value name hname)
    rw [← Name.eq_text_of_text? htext]
    exact hn

/-- An object in a signature is of a declared class. -/
theorem class?_of_leaf {configuration : String} {document : Json}
    (h : ofDocument configuration document = .ok r) {m : MethodDef} (hm : m ∈ r.callables)
    {type : TypeRef} (htype : type ∈ m.types) {name : String} (hname : type.leaf = .object name) :
    (r.class? name).isSome := by
  obtain ⟨c, hc, named⟩ := (known_of_callable h hm htype).object name hname
  rw [class?, List.find?_isSome]
  refine ⟨c, hc, ?_⟩
  rw [named]
  exact BEq.rfl

end Registry

end EngineBindings
