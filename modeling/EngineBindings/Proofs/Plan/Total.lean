import EngineBindings.Proofs.Schema.Texts

/-! Planning stops for stale tables alone.

A callable is regular where its names are texts and its types were spelled. One lemma for each
planning function says that on regular callables it returns, or stops with a fault of the type
tables and only where the registry is stale (`IsStale`); each follows from those of the functions
that it calls. What a slot or a storage asks for is the size of the type that the signature names,
since obstacles keep out every other type that has none. -/
namespace EngineBindings

open Attempt

/-! ### Defaults -/

theorem exists_defaultLiteral {a : ArgumentDef} (h : a.defaultValue.IsTextOrNull)
    (target : Target) : ∃ x, defaultLiteral a target = .ok x := by
  unfold defaultLiteral
  rcases h with h | ⟨s, h⟩ <;> (rw [h]; exact ⟨_, rfl⟩)

theorem exists_attachDefaults {entries : List (ArgumentDef × ArgSlot)}
    (h : ∀ entry ∈ entries, entry.1.defaultValue.IsTextOrNull) :
    ∃ slots, attachDefaults entries = .ok slots := by
  induction entries with
  | nil => exact ⟨[], rfl⟩
  | cons entry rest ih =>
    obtain ⟨first, others⟩ := List.forall_mem_cons.mp h
    obtain ⟨slots, hslots⟩ := ih others
    obtain ⟨found, hfound⟩ := exists_defaultLiteral first entry.2.target
    unfold attachDefaults
    rw [hfound, ok_bind]
    cases found with
    | none => exact ⟨_, rfl⟩
    | some literal => exact ⟨_, by rw [hslots]; rfl⟩

namespace Registry

variable {r : Registry} {flags : Flags} {c : ClassDef} {m : MethodDef} {a : ArgumentDef}
  {use : TypeUse}

/-- A callable of a registry that is named and tagged by texts and whose types were spelled. -/
structure Regular (r : Registry) (m : MethodDef) : Prop where
  mem : m ∈ r.callables
  texts : m.HasTexts
  classified : ∀ type ∈ m.types, type.IsClassified

namespace Regular

theorem mem_types_of_argument (ha : a ∈ m.arguments) : a.type ∈ m.types :=
  List.mem_append_left _ (List.mem_map_of_mem ha)

theorem mem_types_of_result {type : TypeRef} (h : m.result? = some type) : type ∈ m.types :=
  List.mem_append_right _ (by rw [h]; exact List.mem_singleton_self type)

/-! ### Bindings -/

theorem argumentTarget (h : r.Regular m) (ha : a ∈ m.arguments) :
    ReturnsUnless r.IsStale (r.argumentTarget a use) :=
  (returnsUnless_target (h.classified _ (mem_types_of_argument ha))
    (h.texts.arguments a ha).widthTag).mono (.argumentTag h.mem ha)

theorem target (h : r.Regular m) {type : TypeRef} (htype : m.result? = some type) :
    ReturnsUnless r.IsStale (r.target type m.returnTag use) :=
  (returnsUnless_target (h.classified _ (mem_types_of_result htype)) h.texts.returnTag).mono
    (.resultTag h.mem htype)

theorem resultTarget (h : r.Regular m) : ReturnsUnless r.IsStale (r.resultTarget m use) := by
  unfold Registry.resultTarget
  cases htype : m.result? with
  | none => exact .ok _
  | some type => exact h.target htype

theorem argSlot (h : r.Regular m) (ha : a ∈ m.arguments) :
    ReturnsUnless r.IsStale (r.argSlot use a) := by
  unfold Registry.argSlot
  refine .bind (.of_returns (Name.exists_sanitize_of_isText (h.texts.arguments a ha).name))
    fun name _ => (h.argumentTarget ha).bind fun target _ => ?_
  dsimp only
  split
  · split
    · split <;> exact .ok _
    · exact .ok _
  · split <;> exact .ok _

theorem argSlots (h : r.Regular m) : ReturnsUnless r.IsStale (r.argSlots use m.arguments) := by
  unfold Registry.argSlots
  refine .bind (.mapM fun a ha => h.argSlot ha) fun slots _ =>
    .bind (.of_exists ?_) fun _ _ => .ok _
  refine exists_attachDefaults fun entry hentry => ?_
  exact (h.texts.arguments _ (List.of_mem_zip (List.mem_reverse.mp hentry)).1).defaultValue

theorem returnPlan (h : r.Regular m) (enums : r.HasTextEnums) {type : TypeRef}
    (htype : m.result? = some type) : ReturnsUnless r.IsStale (r.returnPlan use m type) := by
  unfold Registry.returnPlan
  refine (h.target htype).bind fun target htarget =>
    .bind (.of_exists (exists_defaultValue enums (h.classified _ (mem_types_of_result htype))))
      fun zero _ => ?_
  dsimp only
  split
  · exact .ok _
  · exact .ok _
  · obtain ⟨element, rfl⟩ := exists_element_of_target htarget
    exact ((returnsUnless_storage "Array").mono (.arraySize h.mem htype)).bind fun _ _ => .ok _
  · exact .ok _
  · split
    · exact .ok _
    · split <;> exact .ok _

theorem planCall (h : r.Regular m) (enums : r.HasTextEnums) (owner : Name)
    (exposedName handleName : String) (isPrivate : Bool) (kind : BindingKind) :
    ReturnsUnless r.IsStale (r.planCall owner m exposedName handleName isPrivate kind use) := by
  rw [planCall_eq]
  cases signatureObstacle m with
  | some reason => exact .ok _
  | none =>
    refine h.argSlots.bind fun args _ => .bind ?_ fun ret _ => .ok _
    unfold resultPlan
    cases htype : m.result? with
    | none => exact .ok _
    | some type => exact (h.returnPlan enums htype).map

theorem bindMethod (h : r.Regular m) (enums : r.HasTextEnums) (referenced : List Name) :
    ReturnsUnless r.IsStale (r.bindMethod c m referenced) :=
  .bind (.of_returns (exists_accessorName h.texts.name referenced)) fun _ _ => h.planCall enums ..

theorem bindBuiltin {b : BuiltinDef} (h : r.Regular m) (enums : r.HasTextEnums) :
    ReturnsUnless r.IsStale (r.bindBuiltin b m) :=
  .bind (.of_returns (Name.exists_sanitize_of_isText h.texts.name)) fun _ _ => h.planCall enums ..

theorem bindUtility {u : UtilityDef} (h : r.Regular u.asMethod) (enums : r.HasTextEnums) :
    ReturnsUnless r.IsStale (r.bindUtility u) :=
  .bind (.of_returns (Name.exists_sanitize_of_isText h.texts.name)) fun _ _ => h.planCall enums ..

/-! ### Virtual methods -/

theorem argumentsObstacle (h : r.Regular m) {args : List ArgumentDef}
    (hargs : ∀ a ∈ args, a ∈ m.arguments) :
    ReturnsUnless r.IsStale (r.argumentsObstacle args) := by
  induction args with
  | nil => exact .ok none
  | cons a rest ih =>
    obtain ⟨ha, hrest⟩ := List.forall_mem_cons.mp hargs
    unfold Registry.argumentsObstacle
    refine (h.argumentTarget ha).bind fun target _ => ?_
    split
    · exact .ok _
    · exact ih hrest

theorem rejection (h : r.Regular m) : ReturnsUnless r.IsStale (r.rejection m) := by
  unfold Registry.rejection
  split
  · exact .ok _
  · exact h.argumentsObstacle fun a ha => ha

/-- The size of a builtin that a signature names is there unless the registry is stale. -/
theorem requireSize (h : r.Regular m) {name : String} (htype : TypeRef.value name ∈ m.types) :
    ReturnsUnless r.IsStale (r.requireSize name) :=
  (returnsUnless_requireSize _).mono (.unsized h.mem htype)

end Regular

/-! ### Slots of virtual methods -/

/-- A signature without an obstacle holds no raw pointer. -/
theorem containsPointer_of_signatureObstacle (h : signatureObstacle m = none) :
    (∀ a ∈ m.arguments, a.type.containsPointer = false) ∧
      ∀ type, m.result? = some type → type.containsPointer = false := by
  unfold signatureObstacle at h
  split at h
  · cases h
  · split at h
    · cases h
    · next plain =>
      split at h
      · cases h
      · next returns =>
        refine ⟨fun a ha => by simpa using List.find?_eq_none.mp plain a ha, fun type htype => ?_⟩
        rw [htype, Option.filter_eq_none_iff] at returns
        simpa using returns type rfl

theorem argumentObstacle_of_argumentsObstacle {args : List ArgumentDef}
    (h : r.argumentsObstacle args = .ok none) :
    ∀ a ∈ args, ∃ target, r.argumentTarget a .member = .ok target ∧
      argumentObstacle a target = none := by
  induction args with
  | nil => exact fun a ha => by cases ha
  | cons a rest ih =>
    unfold argumentsObstacle at h
    obtain ⟨target, htarget, h⟩ := bind_eq_ok.mp h
    split at h
    · cases h
    · next free => exact List.forall_mem_cons.mpr ⟨⟨target, htarget, free⟩, ih h⟩

/-- A virtual method that nothing keeps out. -/
structure Accepted (r : Registry) (m : MethodDef) : Prop where
  signature : signatureObstacle m = none
  arguments : r.argumentsObstacle m.arguments = .ok none

theorem accepted_of_rejection (h : r.rejection m = .ok none) : r.Accepted m := by
  unfold rejection at h
  split at h
  · cases h
  · next signature => exact ⟨signature, h⟩

/-- A virtual method of a registry. -/
structure IsVirtualOf (r : Registry) (c : ClassDef) (m : MethodDef) : Prop where
  cls : c ∈ r.classes
  method : m ∈ c.methods
  unbound : m.hash = none

namespace Regular

/-- A builtin value is loaded by its size. -/
theorem loadValue (h : r.Regular m) {type : String} (named : TypeRef.value type ∈ m.types)
    (name : String) (index : Nat) :
    ReturnsUnless r.IsStale (r.loadArgument name index (r.valueTarget type)) := by
  have size := h.requireSize named
  unfold valueTarget
  split
  · exact size.bind fun _ _ => .ok _
  · split
    · next string =>
      rw [string] at size
      exact size.bind fun _ _ => .ok _
    · refine size.bind fun _ _ => ?_
      dsimp only
      split <;> exact .ok _

/-- An argument that nothing keeps out is loaded: a number, a truth value and an object need no
size, and of the others the one that is declared. -/
theorem loadArgument (h : r.Regular m) (virtual : r.IsVirtualOf c m) (accepted : r.Accepted m)
    (ha : a ∈ m.arguments) {target : Target} (htarget : r.argumentTarget a .member = .ok target)
    (name : String) (index : Nat) :
    ReturnsUnless r.IsStale (r.loadArgument name index target) := by
  obtain ⟨target', htarget', free⟩ :=
    argumentObstacle_of_argumentsObstacle accepted.arguments a ha
  rw [htarget] at htarget'
  cases htarget'
  have plain := (containsPointer_of_signatureObstacle accepted.signature).1 a ha
  have named := mem_types_of_argument ha
  have classified := h.classified _ named
  rw [Registry.argumentTarget] at htarget
  cases htype : a.type with
  | primitive type =>
    rw [htype, Registry.target] at htarget
    cases type with
    | void =>
      cases htarget
      exact .bind ((returnsUnless_requireSize _).mono fun _ =>
        .voidArgument virtual.cls virtual.method virtual.unbound ha htype) fun _ _ => .ok _
    | bool =>
      cases htarget
      exact .ok _
    | int | float | real =>
      obtain ⟨width, -, rfl⟩ := map_eq_ok.mp htarget
      exact .ok _
  | value builtin =>
    rw [htype] at htarget named
    cases htarget
    exact h.loadValue named name index
  | object =>
    rw [htype] at htarget
    cases htarget
    exact .ok _
  | «enum» | bitfield =>
    rw [htype] at htarget
    cases htarget
    cases free
  | typedArray element =>
    rw [htype] at htarget
    obtain ⟨inner, -, rfl⟩ := map_eq_ok.mp htarget
    cases free
  | pointer =>
    rw [htype] at plain
    cases plain
  | bare spelling => exact (classified spelling (by rw [htype]; rfl)).elim

/-- A builtin value is stored by its size. -/
theorem storeValue (h : r.Regular m) {type : String} (named : TypeRef.value type ∈ m.types) :
    ReturnsUnless r.IsStale (r.storeResult (r.valueTarget type)) := by
  have size := h.requireSize named
  unfold valueTarget
  split
  · exact size.bind fun _ _ => .ok _
  · split
    · next string =>
      rw [string] at size
      exact size.bind fun _ _ => .ok _
    · refine size.bind fun _ _ => ?_
      dsimp only
      split <;> exact .ok _

theorem storeResult (h : r.Regular m) (accepted : r.Accepted m) {type : TypeRef}
    (htype : m.result? = some type) {target : Target}
    (htarget : r.target type m.returnTag .member = .ok target) :
    ReturnsUnless r.IsStale (r.storeResult target) := by
  have plain := (containsPointer_of_signatureObstacle accepted.signature).2 type htype
  have named := mem_types_of_result htype
  have classified := h.classified _ named
  cases type with
  | primitive type =>
    rw [Registry.target] at htarget
    cases type with
    | void =>
      -- a method without a value has no result
      rw [MethodDef.result?, Option.filter_eq_some_iff] at htype
      exact absurd htype.2 (by decide)
    | bool =>
      cases htarget
      exact .ok _
    | int | float | real =>
      obtain ⟨width, -, rfl⟩ := map_eq_ok.mp htarget
      exact .ok _
  | value builtin =>
    cases htarget
    exact h.storeValue named
  | object | «enum» | bitfield =>
    cases htarget
    exact .ok _
  | typedArray element =>
    obtain ⟨inner, -, rfl⟩ := map_eq_ok.mp htarget
    refine .bind ((returnsUnless_requireSize _).mono fun none => ?_) fun _ _ => .ok _
    exact .arraySize h.mem htype fun size hsize => by rw [none] at hsize; cases hsize
  | pointer => cases plain
  | bare spelling => exact (classified spelling rfl).elim

theorem trampolineSlots (h : r.Regular m) (enums : r.HasTextEnums) (virtual : r.IsVirtualOf c m)
    (accepted : r.Accepted m) : ReturnsUnless r.IsStale (r.trampolineSlots m) := by
  unfold Registry.trampolineSlots
  refine .bind (.mapM fun entry hentry => ?_) fun args _ => ?_
  · have ha : entry.1 ∈ m.arguments := (List.mem_zipIdx hentry).2.2 ▸ List.getElem_mem _
    exact (h.argumentTarget ha).bind fun target htarget =>
      .bind (.of_returns (Name.exists_sanitize_of_isText (h.texts.arguments _ ha).name))
        fun name _ =>
          (h.loadArgument virtual accepted ha htarget name entry.2).bind fun _ _ => .ok _
  · cases htype : m.result? with
    | none => exact .ok _
    | some type =>
      have zero := exists_defaultValue enums (h.classified _ (mem_types_of_result htype))
      exact (h.target htype).bind fun target htarget =>
        (h.storeResult accepted htype htarget).bind fun _ _ =>
          .bind (.of_exists zero) fun _ _ => .ok _

theorem trampoline (h : r.Regular m) (enums : r.HasTextEnums) (virtual : r.IsVirtualOf c m)
    (accepted : r.Accepted m) : ReturnsUnless r.IsStale (r.trampoline c m) := by
  unfold Registry.trampoline
  exact (h.trampolineSlots enums virtual accepted).bind fun _ _ =>
    .bind (.of_returns (Name.exists_sanitize_of_isText h.texts.name)) fun _ _ => .ok _

theorem acceptVirtual (h : r.Regular m) (enums : r.HasTextEnums)
    (virtual : r.IsVirtualOf c m) : ReturnsUnless r.IsStale (r.acceptVirtual c m) := by
  unfold Registry.acceptVirtual
  refine h.rejection.bind fun found hfound => ?_
  cases found with
  | some reason => exact .ok _
  | none => exact (h.trampoline enums virtual (accepted_of_rejection hfound)).map

end Regular

end Registry

end EngineBindings
