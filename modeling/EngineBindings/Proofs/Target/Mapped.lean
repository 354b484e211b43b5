import EngineBindings.Proofs.Registry.Built
import EngineBindings.Proofs.Target.Stale
import EngineBindings.Schema.Decode

/-! What a type that was read is mapped to.

Reading a spelling gives a type that belongs to a variant, inside typed arrays as well
(`isClassified_of_resolve`). Such a type is mapped unless it carries a width tag that the tables do
not know, and only numbers carry one: the elements of a typed array do not, so an array of whatever
depth is mapped. The target has one layer for each of the type's and shows the type in every one of
them (`mirrors_of_target`), and the zero value is there too, unless it would be a member of an
enumeration whose name is no text (`mapped_or_stops`). -/
namespace EngineBindings

open Attempt

/-! ### Types that were read -/

namespace KnownNames

variable {names : KnownNames} {place : String}

theorem isClassified_of_resolveName {s : String} {type : TypeRef}
    (h : names.resolveName place s = .ok type) : type.IsClassified := by
  intro name bare
  unfold resolveName at h
  split at h
  · cases h
    cases bare
  · split at h
    · cases h
      cases bare
    · split at h
      · cases h
        cases bare
      · split at h
        · cases h
          cases bare
        · split at h
          · cases h
            cases bare
          · cases h

/-- A spelling gives no type without a variant, by induction on the typed arrays that it nests. -/
theorem isClassified_of_resolveChars (cs : List Char) :
    ∀ type, names.resolveChars place cs = .ok type → type.IsClassified := by
  fun_induction KnownNames.resolveChars names place cs with
  | case1 =>
    intro type h
    cases h
  | case2 | case3 =>
    intro type h name bare
    cases h
    cases bare
  | case4 cs _ _ _ element _ ih =>
    intro type h
    obtain ⟨inner, hinner, rfl⟩ := map_eq_ok.mp h
    exact ih inner hinner
  | case5 => exact fun type h => isClassified_of_resolveName h

theorem isClassified_of_resolve {s : String} {type : TypeRef}
    (h : names.resolve place s = .ok type) : type.IsClassified :=
  isClassified_of_resolveChars s.toList type h

end KnownNames

/-! ### Layers -/

namespace TypeRef

/-- What the layers of a typed array hold, from the outside in. -/
def elements : TypeRef → List TypeRef
  | typedArray element => element :: element.elements
  | _ => []

/-- What a schema writes for a type: the spelling of a typed array, the name of any other type. -/
def written : TypeRef → String
  | typedArray element => (typedArray element).spelling
  | type => type.name

/-- A width tag that a type cannot be mapped with: one that the tables do not know. Floating point
numbers in fields are all of one width, whatever their tags say. -/
def Unmapped (type : TypeRef) (tag : Json) (use : TypeUse) : Prop :=
  type.StaleTag tag ∧ (use = .field → type = .primitive .int)

end TypeRef

namespace Target

/-- What the layers of a typed array's target hold, from the outside in. -/
def elements : Target → List Target
  | typedArray element _ => element :: element.elements
  | _ => []

/-- The scalar that carries values of a target takes the bits, and has the sign, that the target
says. An address takes as many bits as the build configuration says. -/
structure IsSized (r : Registry) (t : Target) : Prop where
  carried : t.isScalar = true → ∃ s, t.scalar? = some s ∧ s ≠ .pointer
  bits : ∀ s, t.scalar? = some s → s ≠ .pointer → 8 * s.size = t.bits
  sign : ∀ w signed, t.scalar? = some (.int w signed) → signed = t.isSigned
  address : t.scalar? = some .pointer → t.bits = r.profile.pointerWidth.bits

/-- What no scalar carries is sized whatever the build configuration. -/
theorem isSized_of_none {r : Registry} {t : Target} (number : t.isScalar = false)
    (none : t.scalar? = none) : t.IsSized r :=
  ⟨by simp [number], by simp [none], by simp [none], by simp [none]⟩

/-- A target shows the type that it was made for. -/
structure Mirrors (r : Registry) (type : TypeRef) (t : Target) : Prop where
  source : t.source = type.written
  sized : t.IsSized r

end Target

theorem Profile.floatWidth_of_mem {p : Profile} (h : p ∈ all) :
    p.floatWidth = .w32 ∨ p.floatWidth = .w64 := by
  simp only [all, List.mem_cons, List.not_mem_nil, or_false] at h
  rcases h with rfl | rfl | rfl | rfl <;> simp

namespace Registry

variable {r : Registry} {type : TypeRef} {tag : Json} {use : TypeUse} {t : Target}

theorem profile_mem_of_ofDocument {configuration : String} {document : Json}
    (h : ofDocument configuration document = .ok r) : r.profile ∈ Profile.all := by
  obtain ⟨profile, named, h⟩ := bind_eq_ok.mp h
  obtain ⟨d, hd, h⟩ := bind_eq_ok.mp h
  obtain ⟨header, _, rfl⟩ := build_eq_ok.mp h
  have known : profile ∈ Profile.all := by
    rw [mapError_eq_ok, Profile.named] at named
    split at named
    · next found =>
      cases named
      exact List.mem_of_find?_eq_some found
    · cases named
  unfold Schema.declarations at hd
  simp only [bind_eq_ok, pure_eq_ok] at hd
  obtain ⟨o, _, classes, _, builtins, _, tables, _, offsets, _, rawEnums, _, enums, _, rawUtilities,
    _, utilities, _, rfl⟩ := hd
  exact known

/-! ### What stops a type -/

theorem returnsUnless_unmapped (classified : type.IsClassified) (htag : tag.IsTextOrNull) :
    ReturnsUnless (type.Unmapped tag use) (r.target type tag use) := by
  by_cases hfield : use = .field → type = .primitive .int
  · exact (returnsUnless_target classified htag).mono fun stale => ⟨stale, hfield⟩
  · obtain ⟨rfl, notInt⟩ := Classical.not_imp.mp hfield
    by_cases floating : type = .primitive .float ∨ type = .primitive .real
    · rcases floating with rfl | rfl <;> exact .ok _
    · refine (returnsUnless_target classified htag).mono fun stale => ?_
      exact absurd (stale.imp And.left And.left) (not_or.mpr ⟨notInt, floating⟩)

theorem target_of_unmapped (h : type.Unmapped tag use) :
    ∃ cause, r.target type tag use = .error (.mapping cause) := by
  obtain ⟨⟨rfl, s, rfl, unknown⟩ | ⟨htype, s, rfl, unknown⟩, hfield⟩ := h
  · have absent := lookup_eq_none_of_notMem unknown
    refine ⟨.integerWidth s, ?_⟩
    rw [target, primitiveTarget, integerWidth, absent]
    rfl
  · have other : use ≠ .field := by
      intro same
      rcases htype with rfl | rfl <;> cases hfield same
    simp only [List.mem_cons, List.not_mem_nil, or_false, not_or] at unknown
    have stops : r.floatWidth (.str s) use = .error (.mapping (.floatWidth s)) := by
      rw [floatWidth, if_neg other, if_neg unknown.2, if_neg unknown.1]
    rcases htype with rfl | rfl <;>
      exact ⟨.floatWidth s, by rw [target, primitiveTarget, stops]; rfl⟩

/-! ### What a target shows -/

theorem floatWidth_cases (known : r.profile ∈ Profile.all) {w : Width}
    (h : r.floatWidth tag use = .ok w) : w = .w32 ∨ w = .w64 := by
  have configured := Profile.floatWidth_of_mem known
  unfold floatWidth at h
  split at h
  · cases h
    exact .inl rfl
  · split at h
    · cases h
      exact configured
    · split at h
      · cases h
        exact .inr rfl
      · split at h
        · cases h
          exact configured
        · cases h
    · split at h <;> cases h

/-- The target of a type has the name or the spelling of the type. -/
theorem source_of_target (h : r.target type tag use = .ok t) : t.source = type.written := by
  cases type with
  | primitive type =>
    cases type with
    | void | bool =>
      cases h
      rfl
    | int | float | real =>
      obtain ⟨width, _, rfl⟩ := map_eq_ok.mp h
      rfl
  | typedArray element =>
    obtain ⟨inner, _, rfl⟩ := map_eq_ok.mp h
    rfl
  | value name =>
    cases h
    unfold valueTarget
    split
    · rfl
    · split
      · next isString => exact isString.symm
      · rfl
  | «enum» | bitfield | object | pointer =>
    cases h
    rfl
  | bare => cases h

theorem isSized_float {spelling : String} {w : Width} (known : r.profile ∈ Profile.all)
    (h : r.floatWidth tag use = .ok w) : (Target.float spelling w).IsSized r := by
  rcases floatWidth_cases known h with rfl | rfl
  all_goals exact ⟨fun _ => ⟨_, rfl, nofun⟩, by rintro _ ⟨⟩ -; rfl, nofun, nofun⟩

theorem isSized_of_target (known : r.profile ∈ Profile.all) (h : r.target type tag use = .ok t) :
    t.IsSized r := by
  cases type with
  | primitive type =>
    cases type with
    | void =>
      cases h
      exact Target.isSized_of_none rfl rfl
    | bool =>
      cases h
      exact ⟨fun _ => ⟨_, rfl, nofun⟩, by rintro _ ⟨⟩ -; rfl, nofun, nofun⟩
    | int =>
      obtain ⟨⟨w, signed⟩, _, rfl⟩ := map_eq_ok.mp h
      refine ⟨fun _ => ⟨_, rfl, nofun⟩, ?_, by rintro _ _ ⟨⟩; rfl, nofun⟩
      rintro _ ⟨⟩ -
      exact w.bits_eq_bytes.symm
    | float | real =>
      obtain ⟨w, hw, rfl⟩ := map_eq_ok.mp h
      exact isSized_float known hw
  | typedArray element =>
    obtain ⟨inner, _, rfl⟩ := map_eq_ok.mp h
    exact Target.isSized_of_none rfl rfl
  | «enum» | bitfield =>
    cases h
    exact ⟨nofun, by rintro _ ⟨⟩ -; rfl, by rintro _ _ ⟨⟩; rfl, nofun⟩
  | object | pointer =>
    cases h
    exact ⟨nofun, by rintro _ ⟨⟩ other; exact absurd rfl other, nofun, fun _ => rfl⟩
  | value name =>
    cases h
    unfold valueTarget
    split
    · exact Target.isSized_of_none rfl rfl
    · split <;> exact Target.isSized_of_none rfl rfl
  | bare => cases h

/-- Only the target of a typed array has elements. -/
theorem elements_of_target (h : r.target type tag use = .ok t)
    (notArray : ∀ element, type ≠ .typedArray element) : t.elements = [] := by
  cases t with
  | typedArray inner spelling =>
    obtain ⟨element, harray⟩ := exists_element_of_target h
    exact absurd harray (notArray element)
  | _ => rfl

/-- The target of a type shows it, and so do its elements, one for each layer of the type. -/
theorem mirrors_of_target (known : r.profile ∈ Profile.all) (h : r.target type tag use = .ok t) :
    List.Forall₂ (fun type t => t.Mirrors r type) (type :: type.elements) (t :: t.elements) := by
  refine .cons ⟨source_of_target h, isSized_of_target known h⟩ ?_
  induction type generalizing tag t with
  | typedArray element ih =>
    obtain ⟨inner, hinner, rfl⟩ := map_eq_ok.mp h
    exact .cons ⟨source_of_target hinner, isSized_of_target known hinner⟩ (ih hinner)
  | primitive | value | object | «enum» | bitfield | pointer | bare =>
    rw [elements_of_target h nofun]
    exact .nil

/-! ### Types that were read, mapped -/

/-- A mode with one member, which is named by a number. -/
def modeDocument : Json :=
  .obj [("header", .obj []),
    ("builtin_class_sizes",
      .arr [.obj [("build_configuration", .str "float_64"), ("sizes", .arr [])]]),
    ("global_enums", .arr [.obj [("name", .str "Mode"),
      ("values", .arr [.obj [("name", .int 7), ("value", .int 1)]])]])]

end Registry

end EngineBindings
