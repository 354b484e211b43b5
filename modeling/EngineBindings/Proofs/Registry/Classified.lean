import EngineBindings.Proofs.OrderedMap
import EngineBindings.Proofs.Schema.Resolved
import EngineBindings.Proofs.Target.Mapped
import EngineBindings.Proofs.TypeRef.Resolving

/-! Handles and values.

A name can be declared as a class, as a builtin and with a size, and as several of these. A spelling
means an object wherever a class has the name, and a value where only a builtin or a size has it.
The registry sorts names once more: a size makes no core value of a class, but a builtin of its name
does, and such a class is no reference (`isCoreValue_eq`, `isReference_eq`). So what signatures
refer to is sorted as it was read, except for classes that share their name with a builtin, which
cross as handles and are counted among the values (`classified_apart`). -/
namespace EngineBindings

open Attempt

namespace TypeRef

/-- What stands at some depth of a type has the same type inside all its typed arrays. -/
theorem leaf_of_mem {inner type : TypeRef} (h : inner ∈ type :: type.elements) :
    inner.leaf = type.leaf := by
  induction type with
  | typedArray element ih =>
    rcases List.mem_cons.mp h with rfl | h
    · rfl
    · exact ih h
  | primitive | value | object | «enum» | bitfield | pointer | bare =>
    rw [List.mem_singleton.mp h]

theorem leaf_inArrays (type : TypeRef) (k : Nat) : (type.inArrays k).leaf = type.leaf := by
  induction k with
  | zero => rfl
  | succ k ih => exact ih

end TypeRef

/-- Where a spelling means a value, no class has the name. -/
theorem KnownNames.notMem_classes_of_resolve {names : KnownNames} {place s name : String}
    {type : TypeRef} (h : names.resolve place s = .ok type) (hleaf : type.leaf = .value name) :
    name ∉ names.classes := by
  obtain ⟨k, core, peels⟩ := Peels.exists_peels s
  obtain ⟨_, inner, denotes, rfl⟩ := (resolve_iff peels).mp h
  rw [TypeRef.leaf_inArrays] at hleaf
  cases denotes with
  | value _ noClass _ =>
    cases hleaf
    exact noClass
  | «enum» | bitfield | raw | primitive | object | native => cases hleaf

namespace Registry

variable {r : Registry}

/-! ### The two sorts of names -/

theorem any_builtins (r : Registry) (name : Name) :
    r.builtins.any (·.name == name) = (r.builtin? name).isSome := by
  rw [builtin?, Bool.eq_iff_iff, List.find?_isSome, List.any_eq_true]
  simp only [List.mem_reverse]

theorem isCoreValue_eq (r : Registry) (name : Name) :
    r.isCoreValue name =
      ((r.builtin? name).isSome || r.sizes.contains name && (r.class? name).isNone) := by
  rw [isCoreValue, any_builtins]

theorem isReference_eq (r : Registry) (name : Name) :
    r.isReference name = ((r.class? name).isSome && (r.builtin? name).isNone) := by
  rw [isReference, isCoreValue_eq]
  cases r.class? name <;> cases r.builtin? name <;> simp

/-! ### Signatures -/

theorem class?_eq_none {name : String} (h : name ∉ r.knownNames.classes) :
    r.class? name = none := by
  rw [class?, List.find?_eq_none]
  intro c hc named
  exact h (List.mem_filterMap.mpr
    ⟨c.name, List.mem_map_of_mem hc, Name.beq_iff_text?_eq.mp named⟩)

/-- A name of a builtin, or one in the table of sizes. -/
theorem isSome_builtin?_or_contains {name : Name}
    (h : name ∈ r.builtins.map (·.name) ++ r.sizes.keys) :
    (r.builtin? name).isSome ∨ r.sizes.contains name = true := by
  rcases List.mem_append.mp h with h | h
  · obtain ⟨b, hb, rfl⟩ := List.mem_map.mp h
    rw [← any_builtins]
    exact .inl (List.any_eq_true.mpr ⟨b, hb, BEq.rfl⟩)
  · exact .inr (OrderedMap.contains_iff.mpr ⟨name, h, BEq.rfl⟩)

section Signature

variable {configuration : String} {document : Json} {m : MethodDef} {type : TypeRef}
  {name : String} (built : ofDocument configuration document = .ok r) (hm : m ∈ r.callables)
  (htype : type ∈ m.types)
include built hm htype

theorem isReference_of_object (h : .object name ∈ type :: type.elements) :
    r.isReference name = (r.builtin? name).isNone ∧
      r.isCoreValue name = (r.builtin? name).isSome := by
  have declared := class?_of_leaf built hm htype (TypeRef.leaf_of_mem h).symm
  obtain ⟨c, hc⟩ := Option.isSome_iff_exists.mp declared
  rw [isReference_eq, isCoreValue_eq, hc]
  simp

theorem isCoreValue_of_value (h : .value name ∈ type :: type.elements) :
    r.isCoreValue name = true ∧ r.isReference name = false := by
  have hleaf := (TypeRef.leaf_of_mem h).symm
  obtain ⟨place, s, _, read⟩ := exists_spelling built hm htype
  have unclassed := class?_eq_none (KnownNames.notMem_classes_of_resolve read hleaf)
  have known := isSome_builtin?_or_contains ((known_of_callable built hm htype).value name hleaf)
  rw [isCoreValue_eq, isReference_eq, unclassed]
  rcases known with known | known
  · simp [known]
  · simp [known]

end Signature

/-- In every signature, at whatever depth, what was read as an object is a reference and no core
value, and what was read as a value is a core value and no reference. -/
structure SortsAsRead (r : Registry) : Prop where
  object : ∀ m ∈ r.callables, ∀ type ∈ m.types, ∀ name : String,
    .object name ∈ type :: type.elements → r.isReference name = true ∧ r.isCoreValue name = false
  value : ∀ m ∈ r.callables, ∀ type ∈ m.types, ∀ name : String,
    .value name ∈ type :: type.elements → r.isCoreValue name = true ∧ r.isReference name = false

/-- What was read as a value is sorted as one. What was read as an object is sorted as one exactly
where no builtin has the name of the class, and else as a value. So a registry sorts names as they
were read if and only if no signature refers to a class that shares its name with a builtin. -/
theorem classified_apart {configuration : String} {document : Json}
    (built : ofDocument configuration document = .ok r) :
    (∀ m ∈ r.callables, ∀ type ∈ m.types, ∀ name : String,
      (.object name ∈ type :: type.elements →
        r.isReference name = (r.builtin? name).isNone ∧
          r.isCoreValue name = (r.builtin? name).isSome) ∧
      (.value name ∈ type :: type.elements →
        r.isCoreValue name = true ∧ r.isReference name = false)) ∧
    (r.SortsAsRead ↔ ∀ m ∈ r.callables, ∀ type ∈ m.types, ∀ name : String,
      .object name ∈ type :: type.elements → r.builtin? name = none) := by
  refine ⟨fun m hm type htype name =>
    ⟨isReference_of_object built hm htype, isCoreValue_of_value built hm htype⟩, ?_, ?_⟩
  · intro sorted m hm type htype name h
    have reference := (sorted.object m hm type htype name h).1
    rw [(isReference_of_object built hm htype h).1] at reference
    exact Option.isNone_iff_eq_none.mp reference
  · intro apart
    refine ⟨fun m hm type htype name h => ?_,
      fun m hm type htype name => isCoreValue_of_value built hm htype⟩
    have sorted := isReference_of_object built hm htype h
    rw [apart m hm type htype name h] at sorted
    exact sorted

/-- A bell that is rung for objects, at a place, and gives signals back. Objects have a size, and
signals are a class and a builtin alike. -/
def bellDocument : Json :=
  .obj [
    ("builtin_class_sizes", .arr [.obj [("build_configuration", .str "float_64"),
      ("sizes", .arr [.obj [("name", .str "Object"), ("size", .int 8)],
        .obj [("name", .str "Vector2"), ("size", .int 8)]])]]),
    ("builtin_classes", .arr [.obj [("name", .str "Signal")]]),
    ("classes", .arr [.obj [("name", .str "Object")], .obj [("name", .str "Signal")],
      .obj [("name", .str "Bell"), ("methods", .arr [.obj [("name", .str "ring"), ("hash", .int 1),
        ("return_value", .obj [("type", .str "typedarray::Signal")]),
        ("arguments", .arr [
          .obj [("name", .str "listeners"), ("type", .str "typedarray::typedarray::Object")],
          .obj [("name", .str "place"), ("type", .str "Vector2")]])]])]])]

/-- Objects, although they have a size, are references, and places are core values. -/
theorem classified_apart_bell :
    ∃ r, ofDocument "float_64" bellDocument = .ok r ∧
      r.sizes.contains ("Object" : String) = true ∧ r.isReference ("Object" : String) = true ∧
      r.isCoreValue ("Vector2" : String) = true := by
  have reads : (ofDocument "float_64" bellDocument).toOption.any fun r =>
      r.sizes.contains ("Object" : String) && (r.builtin? ("Object" : String)).isNone &&
        r.callables.any fun m => m.types.any (fun type => .object "Object" ∈ type :: type.elements) &&
          m.types.any fun type => .value "Vector2" ∈ type :: type.elements := by
    decide +kernel
  obtain ⟨r, built, hfacts⟩ := exists_eq_ok_of_any reads
  simp only [Bool.and_eq_true, List.any_eq_true, decide_eq_true_eq] at hfacts
  obtain ⟨⟨sized, noBuiltin⟩, m, hm, ⟨listeners, hlisteners, object⟩, place, hplace, value⟩ := hfacts
  have sorted := (classified_apart built).1 m hm
  refine ⟨r, built, sized, ?_, ((sorted place hplace "Vector2").2 value).1⟩
  rw [((sorted listeners hlisteners "Object").1 object).1, noBuiltin]

/-- Signals cross as handles and are counted among the values. -/
theorem signal_sorted_as_value :
    ∃ r, ofDocument "float_64" bellDocument = .ok r ∧ ¬r.SortsAsRead := by
  have reads : (ofDocument "float_64" bellDocument).toOption.any fun r =>
      !r.isReference ("Signal" : String) && r.callables.any fun m =>
        m.types.any fun type => .object "Signal" ∈ type :: type.elements := by
    decide +kernel
  obtain ⟨r, built, hfacts⟩ := exists_eq_ok_of_any reads
  simp only [Bool.and_eq_true, Bool.not_eq_true', List.any_eq_true, decide_eq_true_eq] at hfacts
  obtain ⟨noReference, m, hm, signals, hsignals, object⟩ := hfacts
  refine ⟨r, built, fun sorted => ?_⟩
  have reference := (sorted.object m hm signals hsignals "Signal" object).1
  rw [noReference] at reference
  cases reference

end Registry

end EngineBindings
