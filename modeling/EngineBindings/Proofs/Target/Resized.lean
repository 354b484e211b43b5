import EngineBindings.Proofs.Target.Needs

/-! Types in two build configurations.

Build configurations of one schema differ in widths, in sizes and in offsets. The names that are
known stay the same (`Registry.Resized`), and so does what a type is: its targets differ in widths
alone (`Target.Resized`), which show in the scalar that carries a value and nowhere else. The zero
value of a type is the same in all configurations, and so is whether it is copied. -/
namespace EngineBindings

/-! ### Widths -/

/-- Two scalars that differ in width alone. -/
inductive Scalar.Resized : Scalar → Scalar → Prop
  | same (s : Scalar) : Resized s s
  | int (w w' : Width) (signed : Bool) : Resized (.int w signed) (.int w' signed)
  | widened : Resized .float .double
  | narrowed : Resized .double .float

/-- Two targets that differ in widths alone. -/
inductive Target.Resized : Target → Target → Prop
  | same (t : Target) : Resized t t
  | int (w w' : Width) (signed : Bool) : Resized (.int w signed) (.int w' signed)
  | float (spelling : String) (w w' : Width) : Resized (.float spelling w) (.float spelling w')
  | object (name : String) (w w' : Width) : Resized (.object name w) (.object name w')
  | pointer (spelling : String) (w w' : Width) :
    Resized (.pointer spelling w) (.pointer spelling w')
  | typedArray {e e' : Target} (h : Resized e e') (spelling : String) :
    Resized (.typedArray e spelling) (.typedArray e' spelling)

namespace Target.Resized

variable {t t' : Target} (h : Resized t t')
include h

theorem host : t'.host = t.host := by
  cases h <;> rfl

theorem source : t'.source = t.source := by
  cases h <;> rfl

theorem isStruct : t'.isStruct = t.isStruct := by
  cases h <;> rfl

theorem isScalar : t'.isScalar = t.isScalar := by
  cases h <;> rfl

theorem isEnumeration : t'.isEnumeration = t.isEnumeration := by
  cases h <;> rfl

theorem isObject : t'.isObject = t.isObject := by
  cases h <;> rfl

theorem ownRequirements : t'.ownRequirements = t.ownRequirements := by
  cases h <;> rfl

theorem annotation : t'.annotation = t.annotation := by
  cases h with
  | typedArray h spelling =>
    exact congrArg (fun host => "GodotCollection[" ++ host ++ "]") h.host
  | same | int | float | object | pointer => rfl

theorem requirements : t'.requirements = t.requirements := by
  induction h with
  | typedArray h spelling ih =>
    rw [Target.requirements, Target.requirements, ih]
    rfl
  | same | int | float | object | pointer => rfl

/-- The scalars that carry the values differ in width alone, or there are none. -/
theorem scalar? : (t.scalar? = none ∧ t'.scalar? = none) ∨
    ∃ s s', t.scalar? = some s ∧ t'.scalar? = some s' ∧ Scalar.Resized s s' := by
  cases h with
  | same =>
    cases ht : t.scalar? with
    | none => exact .inl ⟨rfl, rfl⟩
    | some s => exact .inr ⟨s, s, rfl, rfl, .same s⟩
  | int w w' signed => exact .inr ⟨_, _, rfl, rfl, .int w w' signed⟩
  | float spelling w w' =>
    refine .inr ⟨_, _, rfl, rfl, ?_⟩
    split <;> split <;> constructor
  | object | pointer => exact .inr ⟨_, _, rfl, rfl, .same _⟩
  | typedArray => exact .inl ⟨rfl, rfl⟩

end Target.Resized

namespace Registry

/-- Two registries of one schema for build configurations that have sizes for the same names. -/
structure Resized (r r' : Registry) : Prop where
  classes : r'.classes = r.classes
  builtins : r'.builtins = r.builtins
  utilities : r'.utilities = r.utilities
  enums : r'.enums = r.enums
  sized : ∀ name, (r'.size? name).isSome = (r.size? name).isSome

namespace Resized

variable {r r' : Registry} (h : Resized r r')
include h

/-! ### Look-ups -/

theorem sameNames : SameNames (fun _ => True) r r' where
  hasClass name _ := by rw [Registry.class?, Registry.class?, h.classes]
  enum? := by
    funext name
    rw [Registry.enum?, Registry.enum?, h.enums]
  builtin? := by
    funext name
    rw [Registry.builtin?, Registry.builtin?, h.builtins]

theorem hasSubclasses : r'.hasSubclasses = r.hasSubclasses := by
  funext name
  rw [Registry.hasSubclasses, Registry.hasSubclasses, h.classes]

/-! ### Targets -/

omit h in
theorem integerWidth (tag : Json) (use : TypeUse) :
    Paired (fun w w' => w'.2 = w.2) (r.integerWidth tag use) (r'.integerWidth tag use) := by
  cases tag with
  | null => exact .ok rfl
  | str | bool | int | float | arr | obj => exact (Paired.of_eq rfl).mono fun _ _ heq => by rw [heq]

omit h in
theorem primitiveTarget (type : Primitive) (tag : Json) (use : TypeUse) :
    Paired Target.Resized (r.primitiveTarget type tag use) (r'.primitiveTarget type tag use) := by
  cases type with
  | void | bool => exact .ok (.same _)
  | int =>
    refine (integerWidth tag use).map ?_
    rintro ⟨w, signed⟩ ⟨w', signed'⟩ rfl
    exact .int w w' _
  | float | real =>
    intro t t' ht ht'
    obtain ⟨w, _, rfl⟩ := Attempt.map_eq_ok.mp ht
    obtain ⟨w', _, rfl⟩ := Attempt.map_eq_ok.mp ht'
    exact .float _ w w'

theorem target (type : TypeRef) (tag : Json) (use : TypeUse) :
    Paired Target.Resized (r.target type tag use) (r'.target type tag use) := by
  induction type generalizing tag with
  | primitive type => exact primitiveTarget type tag use
  | «enum» name =>
    rw [Registry.target, Registry.target, h.sameNames.enumHostName trivial,
      h.sameNames.enumOwner? trivial]
    exact .ok (.same _)
  | bitfield name =>
    rw [Registry.target, Registry.target, h.sameNames.enumHostName trivial,
      h.sameNames.enumOwner? trivial]
    exact .ok (.same _)
  | typedArray element ih => exact (ih .null).map fun _ _ he => .typedArray he _
  | object name => exact .ok (.object name _ _)
  | value name =>
    rw [Registry.target, Registry.target, h.sameNames.valueTarget]
    exact .ok (.same _)
  | pointer spelling => exact .ok (.pointer spelling _ _)
  | bare name => exact .error_left

theorem argumentTarget (a : ArgumentDef) (use : TypeUse) :
    Paired Target.Resized (r.argumentTarget a use) (r'.argumentTarget a use) :=
  h.target a.type a.widthTag use

theorem resultTarget (m : MethodDef) (use : TypeUse) :
    Paired Target.Resized (r.resultTarget m use) (r'.resultTarget m use) := by
  unfold Registry.resultTarget
  split
  · exact h.target _ _ _
  · exact .ok (.same _)

/-! ### Zero values -/

theorem defaultValue (type : TypeRef) :
    Paired Eq (r.defaultValue type) (r'.defaultValue type) := by
  cases type with
  | primitive type => cases type <;> exact .ok rfl
  | «enum» name =>
    rw [Registry.defaultValue, Registry.defaultValue, h.sameNames.enumDefault trivial]
    exact .of_eq rfl
  | bitfield name =>
    rw [Registry.defaultValue, Registry.defaultValue, h.sameNames.enumHostName trivial]
    exact .of_eq rfl
  | typedArray element =>
    exact (h.target element .null .member).bind fun t t' ht => .ok (by rw [ht.host])
  | object | value | pointer | bare => exact .of_eq rfl

end Resized

end Registry

end EngineBindings
