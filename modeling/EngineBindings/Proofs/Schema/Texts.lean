import EngineBindings.Proofs.OrderedMap
import EngineBindings.Proofs.Plan.Synthesis
import EngineBindings.Proofs.Registry.Built
import EngineBindings.Proofs.Schema.Decoded
import EngineBindings.Proofs.Target.Stale

/-! Registries of texts.

A document can put any value where a name, an accessor, a width tag or a default value belongs, and
reading passes such values on as they are. Where the document has texts in these places
(`Json.HasTexts`), so has the registry that is read from it (`hasTexts_of_document`). -/
namespace EngineBindings

open Attempt

/-! ### Declarations of texts -/

/-- An argument that is named and tagged by texts. -/
structure ArgumentDef.HasTexts (a : ArgumentDef) : Prop where
  name : a.name.IsText
  widthTag : a.widthTag.IsTextOrNull
  defaultValue : a.defaultValue.IsTextOrNull

/-- A callable that is named and tagged by texts. -/
structure MethodDef.HasTexts (m : MethodDef) : Prop where
  name : m.name.IsText
  arguments : ∀ a ∈ m.arguments, a.HasTexts
  returnTag : m.returnTag.IsTextOrNull

/-- An enumeration whose members are named by texts. -/
def EnumDef.HasTexts (e : EnumDef) : Prop :=
  ∀ v ∈ e.values, v.name.IsText

/-- A class whose members are named by texts. -/
structure ClassDef.HasTexts (c : ClassDef) : Prop where
  methods : ∀ m ∈ c.methods, m.HasTexts
  properties : c.HasTextProperties
  enums : ∀ e ∈ c.enums, e.HasTexts

/-- A builtin whose members are named by texts. -/
structure BuiltinDef.HasTexts (b : BuiltinDef) : Prop where
  members : ∀ x ∈ b.members, x.name.IsText
  methods : ∀ m ∈ b.methods, m.HasTexts
  enums : ∀ e ∈ b.enums, e.HasTexts

/-- A registry in which what is declared is named by texts, and so are accessors, width tags and
default values. -/
structure Registry.HasTexts (r : Registry) : Prop where
  classes : ∀ c ∈ r.classes, c.HasTexts
  builtins : ∀ b ∈ r.builtins, b.HasTexts
  utilities : ∀ u ∈ r.utilities, u.asMethod.HasTexts
  globalEnums : ∀ e ∈ r.globalEnums, e.HasTexts

theorem Registry.HasTexts.methods {r : Registry} (h : r.HasTexts) {m : MethodDef}
    (hm : m ∈ r.callables) : m.HasTexts := by
  rcases List.mem_append.mp hm with hm | hm
  · rcases List.mem_append.mp hm with hm | hm
    · obtain ⟨c, hc, hm⟩ := List.mem_flatMap.mp hm
      exact (h.classes c hc).methods m hm
    · obtain ⟨b, hb, hm⟩ := List.mem_flatMap.mp hm
      exact (h.builtins b hb).methods m hm
  · obtain ⟨u, hu, rfl⟩ := List.mem_map.mp hm
    exact h.utilities u hu

/-! ### Texts can be checked -/

section Decidability

variable {value : Json}

instance : Decidable (∃ s : String, value = .str s) :=
  decidable_of_iff (value.text?.isSome = true) (by cases value <;> simp [Json.text?])

instance : Decidable value.IsTextOrNull :=
  decidable_of_iff (value.text?.isSome = true ∨ value matches .null)
    (by cases value <;> simp [Json.IsTextOrNull, Json.text?])

instance (n : Name) : Decidable n.IsText :=
  decidable_of_iff (∃ s : String, n.value = .str s)
    (exists_congr fun _ => ⟨fun h => congrArg Name.mk h, fun h => congrArg Name.value h⟩)

instance (a : ArgumentDef) : Decidable a.HasTexts :=
  decidable_of_iff (a.name.IsText ∧ a.widthTag.IsTextOrNull ∧ a.defaultValue.IsTextOrNull)
    ⟨fun ⟨name, tag, value⟩ => ⟨name, tag, value⟩, fun h => ⟨h.name, h.widthTag, h.defaultValue⟩⟩

instance (m : MethodDef) : Decidable m.HasTexts :=
  decidable_of_iff (m.name.IsText ∧ (∀ a ∈ m.arguments, a.HasTexts) ∧ m.returnTag.IsTextOrNull)
    ⟨fun ⟨name, args, tag⟩ => ⟨name, args, tag⟩, fun h => ⟨h.name, h.arguments, h.returnTag⟩⟩

instance (e : EnumDef) : Decidable e.HasTexts :=
  inferInstanceAs (Decidable (∀ v ∈ e.values, v.name.IsText))

instance (c : ClassDef) : Decidable c.HasTextProperties :=
  decidable_of_iff ((∀ p ∈ c.properties, p.name.IsText) ∧
      (∀ p ∈ c.properties, ∃ name : String, p.getter = .str name) ∧
      ∀ p ∈ c.properties, ∀ setter ∈ p.setter, ∃ name : String, setter = .str name)
    ⟨fun ⟨names, getters, setters⟩ => ⟨names, getters, setters⟩,
      fun h => ⟨h.names, h.getters, h.setters⟩⟩

instance (c : ClassDef) : Decidable c.HasTexts :=
  decidable_of_iff ((∀ m ∈ c.methods, m.HasTexts) ∧ c.HasTextProperties ∧ ∀ e ∈ c.enums, e.HasTexts)
    ⟨fun ⟨methods, properties, enums⟩ => ⟨methods, properties, enums⟩,
      fun h => ⟨h.methods, h.properties, h.enums⟩⟩

instance (b : BuiltinDef) : Decidable b.HasTexts :=
  decidable_of_iff ((∀ x ∈ b.members, x.name.IsText) ∧ (∀ m ∈ b.methods, m.HasTexts) ∧
      ∀ e ∈ b.enums, e.HasTexts)
    ⟨fun ⟨members, methods, enums⟩ => ⟨members, methods, enums⟩,
      fun h => ⟨h.members, h.methods, h.enums⟩⟩

instance (r : Registry) : Decidable r.HasTexts :=
  decidable_of_iff ((∀ c ∈ r.classes, c.HasTexts) ∧ (∀ b ∈ r.builtins, b.HasTexts) ∧
      (∀ u ∈ r.utilities, u.asMethod.HasTexts) ∧ ∀ e ∈ r.globalEnums, e.HasTexts)
    ⟨fun ⟨classes, builtins, utilities, enums⟩ => ⟨classes, builtins, utilities, enums⟩,
      fun h => ⟨h.classes, h.builtins, h.utilities, h.globalEnums⟩⟩

end Decidability

/-! ### Enumerations -/

/-- What the table of enumerations finds is declared somewhere. -/
theorem Declarations.declared_of_find?_enumTable {d : Declarations} {name : Name} {e : EnumDef}
    (h : d.enumTable.find? name = some e) :
    e ∈ d.globalEnums ∨ (∃ c ∈ d.classes, e ∈ c.enums) ∨ ∃ b ∈ d.builtins, e ∈ b.enums := by
  unfold enumTable at h
  rcases OrderedMap.mem_or_find?_of_foldl_insertNew h with h | h
  · obtain ⟨entry, hentry, rfl⟩ := List.mem_map.mp h
    obtain ⟨b, hb, hentry⟩ := List.mem_flatMap.mp hentry
    obtain ⟨e, he, rfl⟩ := List.mem_map.mp hentry
    exact .inr (.inr ⟨b, hb, he⟩)
  · rcases OrderedMap.mem_or_find?_of_insertAll h with h | h
    · obtain ⟨entry, hentry, rfl⟩ := List.mem_map.mp h
      obtain ⟨c, hc, hentry⟩ := List.mem_flatMap.mp hentry
      obtain ⟨e, he, rfl⟩ := List.mem_map.mp hentry
      exact .inr (.inl ⟨c, hc, he⟩)
    · rcases OrderedMap.mem_or_find?_of_insertAll h with h | h
      · obtain ⟨entry, hentry, rfl⟩ := List.mem_map.mp h
        obtain ⟨e, he, rfl⟩ := List.mem_map.mp hentry
        exact .inl he
      · cases h

/-- References to enumerations lead to texts as well. -/
theorem Registry.hasTextEnums_of_build {d : Declarations} {r : Registry} (h : build d = .ok r)
    (texts : r.HasTexts) : r.HasTextEnums := by
  obtain ⟨header, _, rfl⟩ := build_eq_ok.mp h
  intro name e he
  rcases Declarations.declared_of_find?_enumTable he with he | ⟨c, hc, he⟩ | ⟨b, hb, he⟩
  · exact texts.globalEnums e he
  · exact (texts.classes c hc).enums e he
  · exact (texts.builtins b hb).enums e he

/-! ### Reading texts -/

/-- A document whose names are texts, and so are the accessors, width tags and default values that
it gives. -/
structure Json.HasTexts (document : Json) : Prop where
  names : ∀ fields value, document.Part (.obj fields) → find? fields "name" = some value →
    ∃ s, value = .str s
  others : ∀ fields key value, document.Part (.obj fields) →
    key ∈ ["getter", "setter", "meta", "default_value"] → find? fields key = some value →
    value.IsTextOrNull

namespace Schema

variable {document value : Json} {fields : Fields} {place : String} {names : KnownNames}

theorem isText_of_name (texts : document.HasTexts) (part : document.Part (.obj fields)) {n : Name}
    (h : name fields place = .ok n) : n.IsText := by
  obtain ⟨value, hvalue, rfl⟩ := map_eq_ok.mp h
  obtain ⟨s, rfl⟩ := texts.names fields value part (require_eq_ok.mp hvalue)
  exact ⟨s, rfl⟩

theorem isTextOrNull_optional (texts : document.HasTexts) (part : document.Part (.obj fields))
    {key : String} (hkey : key ∈ ["getter", "setter", "meta", "default_value"]) :
    (optional fields key).IsTextOrNull := by
  by_cases h : optional fields key = .null
  · exact .inl h
  · exact texts.others fields key _ part hkey (find?_of_optional h)

theorem hasTexts_of_arguments (texts : document.HasTexts) (part : document.Part (.obj fields))
    {args : List ArgumentDef} (h : arguments names fields place = .ok args) :
    ∀ a ∈ args, a.HasTexts := by
  obtain ⟨items, hitems, h⟩ := bind_eq_ok.mp h
  intro a ha
  obtain ⟨item, hitem, h⟩ := exists_left (mapM_eq_ok.mp h) ha
  unfold argument at h
  simp only [bind_eq_ok, pure_eq_ok] at h
  obtain ⟨fields', hfields, name, hname, _, _, _, _, rfl⟩ := h
  have inner := asObject_eq_ok.mp hfields ▸ part_of_list part hitems item hitem
  constructor
  case name => exact isText_of_name texts inner hname
  case widthTag => exact isTextOrNull_optional texts inner (by decide)
  case defaultValue => exact isTextOrNull_optional texts inner (by decide)

theorem hasTexts_of_method (texts : document.HasTexts) (part : document.Part value)
    {owner : String} {m : MethodDef} (h : method names owner value = .ok m) : m.HasTexts := by
  unfold method at h
  obtain ⟨fields, hfields, h⟩ := bind_eq_ok.mp h
  obtain ⟨name, hname, h⟩ := bind_eq_ok.mp h
  obtain ⟨⟨isVirtual, hash⟩, _, h⟩ := bind_eq_ok.mp h
  rw [asObject_eq_ok.mp hfields] at part
  dsimp only at h
  split at h
  · obtain ⟨result, hresult, h⟩ := bind_eq_ok.mp h
    obtain ⟨spelling, _, h⟩ := bind_eq_ok.mp h
    obtain ⟨type, _, h⟩ := bind_eq_ok.mp h
    obtain ⟨_, hpair, h⟩ := bind_eq_ok.mp h
    obtain ⟨args, hargs, h⟩ := bind_eq_ok.mp h
    obtain ⟨number, _, h⟩ := bind_eq_ok.mp h
    cases hpair
    rw [← pure_eq_ok.mp h]
    have returned := asObject_eq_ok.mp hresult
    have inner := returned ▸ part_optional part (by rw [returned]; simp)
    exact ⟨isText_of_name texts part hname, hasTexts_of_arguments texts part hargs,
      isTextOrNull_optional texts inner (by decide)⟩
  · obtain ⟨_, hpair, h⟩ := bind_eq_ok.mp h
    obtain ⟨args, hargs, h⟩ := bind_eq_ok.mp h
    obtain ⟨number, _, h⟩ := bind_eq_ok.mp h
    cases hpair
    rw [← pure_eq_ok.mp h]
    exact ⟨isText_of_name texts part hname, hasTexts_of_arguments texts part hargs, .inl rfl⟩

theorem hasTexts_of_builtinMethod (texts : document.HasTexts) (part : document.Part value)
    {owner : String} {m : MethodDef} (h : builtinMethod names owner value = .ok m) :
    m.HasTexts := by
  unfold builtinMethod at h
  simp only [bind_eq_ok, pure_eq_ok] at h
  obtain ⟨fields, hfields, name, hname, _, _, args, hargs, _, _, _, _, rfl⟩ := h
  rw [asObject_eq_ok.mp hfields] at part
  exact ⟨isText_of_name texts part hname, hasTexts_of_arguments texts part hargs, .inl rfl⟩

theorem hasTexts_of_utility (texts : document.HasTexts) (part : document.Part value)
    {u : UtilityDef} (h : utility names value = .ok u) : u.asMethod.HasTexts := by
  unfold utility at h
  simp only [bind_eq_ok, pure_eq_ok] at h
  obtain ⟨fields, hfields, name, hname, _, _, args, hargs, _, _, _, _, rfl⟩ := h
  rw [asObject_eq_ok.mp hfields] at part
  exact ⟨isText_of_name texts part hname, hasTexts_of_arguments texts part hargs, .inl rfl⟩

theorem hasTexts_of_enumeration (texts : document.HasTexts) (part : document.Part value)
    {e : EnumDef} (h : enumeration place value = .ok e) : e.HasTexts := by
  unfold enumeration at h
  simp only [bind_eq_ok, pure_eq_ok] at h
  obtain ⟨fields, hfields, name, _, items, hitems, values, hvalues, rfl⟩ := h
  rw [asObject_eq_ok.mp hfields] at part
  intro v hv
  obtain ⟨entry, hentry, rfl⟩ := List.mem_map.mp hv
  obtain ⟨item, hitem, h⟩ := exists_left (mapM_eq_ok.mp hvalues) hentry
  unfold namedInteger at h
  simp only [bind_eq_ok, pure_eq_ok] at h
  obtain ⟨fields', hfields', found, hfound, number, _, rfl⟩ := h
  exact isText_of_name texts (asObject_eq_ok.mp hfields' ▸ part_of_list part hitems item hitem)
    hfound

/-- A property that is named, read and written by texts. -/
structure HasTextAccessors (p : PropertyDef) : Prop where
  name : p.name.IsText
  getter : ∃ name : String, p.getter = .str name
  setter : ∀ setter, p.setter = some setter → ∃ name : String, setter = .str name

theorem exists_text_of_isTruthy (h : value.IsTextOrNull) (given : value.isTruthy = true) :
    ∃ s : String, value = .str s := by
  rcases h with rfl | h
  · cases given
  · exact h

theorem hasTextAccessors_of_property (texts : document.HasTexts) (part : document.Part value)
    {owner : String} {p : PropertyDef} (h : property owner value = .ok p) :
    HasTextAccessors p := by
  unfold property at h
  simp only [bind_eq_ok, pure_eq_ok] at h
  obtain ⟨fields, hfields, name, hname, index, _, rfl⟩ := h
  rw [asObject_eq_ok.mp hfields] at part
  constructor
  case name => exact isText_of_name texts part hname
  case getter =>
    dsimp only
    split
    · next given =>
      exact exists_text_of_isTruthy (isTextOrNull_optional texts part (by decide)) given
    · exact ⟨"", rfl⟩
  case setter =>
    dsimp only
    split
    · next given =>
      intro setter hsetter
      cases hsetter
      exact exists_text_of_isTruthy (isTextOrNull_optional texts part (by decide)) given
    · exact nofun

theorem hasTexts_of_classDef (texts : document.HasTexts) (part : document.Part value)
    {c : ClassDef} (h : classDef names value = .ok c) : c.HasTexts := by
  unfold classDef at h
  simp only [bind_eq_ok, pure_eq_ok] at h
  obtain ⟨fields, hfields, name, _, methodItems, hmethodItems, methods, hmethods, propertyItems,
    hpropertyItems, properties, hproperties, enumItems, henumItems, enums, henums, _, _, _, _,
    rfl⟩ := h
  rw [asObject_eq_ok.mp hfields] at part
  have accessors : ∀ p ∈ properties, HasTextAccessors p := by
    intro p hp
    obtain ⟨item, hitem, hp⟩ := exists_left (mapM_eq_ok.mp hproperties) hp
    exact hasTextAccessors_of_property texts (part_of_list part hpropertyItems item hitem) hp
  constructor
  case methods =>
    intro m hm
    obtain ⟨item, hitem, hm⟩ := exists_left (mapM_eq_ok.mp hmethods) hm
    exact hasTexts_of_method texts (part_of_list part hmethodItems item hitem) hm
  case properties =>
    exact ⟨fun p hp => (accessors p hp).name, fun p hp => (accessors p hp).getter,
      fun p hp => (accessors p hp).setter⟩
  case enums =>
    intro e he
    obtain ⟨item, hitem, he⟩ := exists_left (mapM_eq_ok.mp henums) he
    exact hasTexts_of_enumeration texts (part_of_list part henumItems item hitem) he

theorem hasTexts_of_builtinDef (texts : document.HasTexts) (part : document.Part value)
    {b : BuiltinDef} (h : builtinDef names value = .ok b) : b.HasTexts := by
  unfold builtinDef at h
  simp only [bind_eq_ok, pure_eq_ok] at h
  obtain ⟨fields, hfields, name, _, memberItems, hmemberItems, members, hmembers, _, _, _, _, _, _,
    enumItems, henumItems, enums, henums, methodItems, hmethodItems, methods, hmethods, rfl⟩ := h
  rw [asObject_eq_ok.mp hfields] at part
  constructor
  case members =>
    intro x hx
    obtain ⟨item, hitem, hx⟩ := exists_left (mapM_eq_ok.mp hmembers) hx
    unfold builtinMember at hx
    simp only [bind_eq_ok, pure_eq_ok] at hx
    obtain ⟨fields', hfields', found, hfound, type, _, rfl⟩ := hx
    exact isText_of_name texts
      (asObject_eq_ok.mp hfields' ▸ part_of_list part hmemberItems item hitem) hfound
  case methods =>
    intro m hm
    obtain ⟨item, hitem, hm⟩ := exists_left (mapM_eq_ok.mp hmethods) hm
    exact hasTexts_of_builtinMethod texts (part_of_list part hmethodItems item hitem) hm
  case enums =>
    intro e he
    obtain ⟨item, hitem, he⟩ := exists_left (mapM_eq_ok.mp henums) he
    exact hasTexts_of_enumeration texts (part_of_list part henumItems item hitem) he

end Schema

namespace Registry

variable {r : Registry} {document : Json}

/-- A registry that was read from a document of texts holds texts. -/
theorem hasTexts_of_document {configuration : String}
    (h : ofDocument configuration document = .ok r) (texts : document.HasTexts) : r.HasTexts := by
  obtain ⟨profile, _, h⟩ := bind_eq_ok.mp h
  obtain ⟨d, hd, h⟩ := bind_eq_ok.mp h
  obtain ⟨header, _, rfl⟩ := build_eq_ok.mp h
  unfold Schema.declarations at hd
  simp only [bind_eq_ok, pure_eq_ok] at hd
  obtain ⟨o, houtline, classes, hclasses, builtins, hbuiltins, _, _, _, _, enumItems, henumItems,
    enums, henums, utilityItems, hutilityItems, utilities, hutilities, rfl⟩ := hd
  have sections := Schema.isOf_of_outline houtline
  have top : document.Part (.obj o.fields) := sections.fields ▸ .whole
  constructor
  case classes =>
    intro c hc
    obtain ⟨item, hitem, hc⟩ := exists_left (mapM_eq_ok.mp hclasses) hc
    exact Schema.hasTexts_of_classDef texts (sections.classes item hitem) hc
  case builtins =>
    intro b hb
    obtain ⟨item, hitem, hb⟩ := exists_left (mapM_eq_ok.mp hbuiltins) hb
    exact Schema.hasTexts_of_builtinDef texts (sections.builtins item hitem) hb
  case utilities =>
    intro u hu
    obtain ⟨item, hitem, hu⟩ := exists_left (mapM_eq_ok.mp hutilities) hu
    exact Schema.hasTexts_of_utility texts (Schema.part_of_list top hutilityItems item hitem) hu
  case globalEnums =>
    intro e he
    obtain ⟨item, hitem, he⟩ := exists_left (mapM_eq_ok.mp henums) he
    exact Schema.hasTexts_of_enumeration texts (Schema.part_of_list top henumItems item hitem) he

end Registry

end EngineBindings
