import EngineBindings.Proofs.Name
import EngineBindings.Proofs.Target.Needs
import EngineBindings.Target.Default

/-! What stops a type from being mapped.

Where names are texts, planning stops only for what the tables of the engine do not have: a width
tag, or the size of a builtin that emitted code needs to know. `ReturnsUnless reason` says so of one
computation, and its rules follow the steps of a computation. This module has what is said of
types, `Registry.IsStale` gathers the reasons for a whole registry. -/
namespace EngineBindings

open Attempt

variable {α : Type}

/-- A computation that returns, or stops with a fault of the type tables and for a reason. -/
def ReturnsUnless (reason : Prop) (x : Except Fault α) : Prop :=
  FailsOnly (fun fault => (∃ cause, fault = .mapping cause) ∧ reason) x

namespace ReturnsUnless

variable {p q : Prop} {x : Except Fault α}

theorem error (cause : MappingFault) (h : p) :
    ReturnsUnless p (.error (.mapping cause) : Except Fault α) :=
  FailsOnly.error ⟨⟨cause, rfl⟩, h⟩

theorem mono (h : ReturnsUnless p x) (hpq : p → q) : ReturnsUnless q x :=
  h.weaken fun _ ⟨mapping, reason⟩ => ⟨mapping, hpq reason⟩

theorem returns_or_stops (h : ReturnsUnless p x) :
    (∃ a, x = .ok a) ∨ (∃ cause, x = .error (.mapping cause)) ∧ p := by
  rcases h.returns_or with returned | ⟨_, stopped, ⟨cause, rfl⟩, reason⟩
  · exact .inl returned
  · exact .inr ⟨⟨cause, stopped⟩, reason⟩

/-- What has no reason to stop returns. -/
theorem returns (h : ReturnsUnless p x) (none : ¬p) : ∃ a, x = .ok a :=
  h.returns_or_stops.resolve_right fun stopped => none stopped.2

end ReturnsUnless

/-! ### Width tags -/

/-- A value that is a text, or none at all. -/
def Json.IsTextOrNull (value : Json) : Prop :=
  value = .null ∨ ∃ s, value = .str s

namespace TypeRef

/-- A width tag that the tables do not know for the type that carries it. -/
def StaleTag (type : TypeRef) (tag : Json) : Prop :=
  (type = .primitive .int ∧ ∃ s, tag = .str s ∧ s ∉ Registry.integerTags.map (·.1)) ∨
    ((type = .primitive .float ∨ type = .primitive .real) ∧
      ∃ s, tag = .str s ∧ s ∉ ["float", "double"])

theorem not_staleTag_null (type : TypeRef) : ¬type.StaleTag .null := by
  rintro (⟨-, s, hs, -⟩ | ⟨-, s, hs, -⟩) <;> cases hs

/-- A type that belongs to a variant, inside typed arrays as well. -/
def IsClassified (type : TypeRef) : Prop :=
  ∀ name, type.leaf ≠ .bare name

end TypeRef

/-- A key that a table does not list has no entry. -/
theorem lookup_eq_none_of_notMem {β : Type} {table : List (String × β)} {key : String}
    (h : key ∉ table.map (·.1)) : table.lookup key = none := by
  rw [List.lookup_eq_none_iff]
  intro entry hentry
  rw [bne_iff_ne]
  rintro rfl
  exact h (List.mem_map_of_mem hentry)

namespace Registry

variable {r : Registry} {type : TypeRef} {tag : Json} {use : TypeUse}

/-! ### Targets -/

theorem returnsUnless_integerWidth (htag : tag.IsTextOrNull) :
    ReturnsUnless ((TypeRef.primitive .int).StaleTag tag) (r.integerWidth tag use) := by
  rcases htag with rfl | ⟨s, rfl⟩
  · exact .ok _
  · unfold integerWidth
    dsimp only
    cases hs : integerTags.lookup s with
    | some width => exact .ok width
    | none =>
      refine .error _ (.inl ⟨rfl, s, rfl, fun known => ?_⟩)
      obtain ⟨entry, hentry, rfl⟩ := List.mem_map.mp known
      exact absurd (List.lookup_eq_none_iff.mp hs entry hentry) (by simp)

theorem returnsUnless_floatWidth (htag : tag.IsTextOrNull)
    (htype : type = .primitive .float ∨ type = .primitive .real) :
    ReturnsUnless (type.StaleTag tag) (r.floatWidth tag use) := by
  unfold floatWidth
  split
  · exact .ok _
  · rcases htag with rfl | ⟨s, rfl⟩
    · exact .ok _
    · dsimp only
      split
      · exact .ok _
      · next notDouble =>
        split
        · exact .ok _
        · next notFloat =>
          exact .error _ (.inr ⟨htype, s, rfl, by simp [notDouble, notFloat]⟩)

theorem returnsUnless_primitiveTarget (type : Primitive) (htag : tag.IsTextOrNull) :
    ReturnsUnless ((TypeRef.primitive type).StaleTag tag) (r.primitiveTarget type tag use) := by
  cases type with
  | void | bool => exact .ok _
  | int => exact (returnsUnless_integerWidth htag).map
  | float => exact (returnsUnless_floatWidth htag (.inl rfl)).map
  | real => exact (returnsUnless_floatWidth htag (.inr rfl)).map

/-- A type that was spelled is mapped unless it carries a stale tag. -/
theorem returnsUnless_target (classified : type.IsClassified) (htag : tag.IsTextOrNull) :
    ReturnsUnless (type.StaleTag tag) (r.target type tag use) := by
  induction type generalizing tag with
  | primitive type => exact returnsUnless_primitiveTarget type htag
  | value | object | «enum» | bitfield | pointer => exact .ok _
  | typedArray element ih =>
    -- elements carry no tag
    exact ((ih classified (.inl rfl)).mono fun stale =>
      (TypeRef.not_staleTag_null element stale).elim).map
  | bare name => exact (classified name rfl).elim

/-- Only a typed array is mapped to one. -/
theorem exists_element_of_target {inner : Target} {spelling : String}
    (h : r.target type tag use = .ok (.typedArray inner spelling)) :
    ∃ element, type = .typedArray element := by
  cases type with
  | typedArray element => exact ⟨element, rfl⟩
  | primitive type =>
    rw [target] at h
    cases type with
    | void | bool => cases h
    | int | float | real =>
      obtain ⟨width, _, h⟩ := map_eq_ok.mp h
      cases h
  | value name =>
    rw [target, valueTarget] at h
    split at h
    · cases h
    · split at h <;> cases h
  | object | «enum» | bitfield | pointer | bare => cases h

/-! ### Zero values -/

/-- Members of enumerations are named by texts. -/
def HasTextEnums (r : Registry) : Prop :=
  ∀ name e, r.enum? name = some e → ∀ v ∈ e.values, v.name.IsText

/-- An enumeration whose zero value would be its first member, and that one's name is no text. -/
def IsNameless (r : Registry) (name : String) : Prop :=
  name ∉ enumZeroMembers.map (·.1) ∧
    ∃ e first rest, r.enum? name = some e ∧ e.values = first :: rest ∧
      (∀ v ∈ e.values, v.value ≠ 0) ∧ first.name.isGiven = true ∧ first.name.text? = none

/-- A name becomes an identifier unless it is given and no text. -/
theorem sanitize_returns_or (n : Name) :
    (∃ s, n.sanitize = .ok s) ∧ ¬(n.isGiven = true ∧ n.text? = none) ∨
      n.sanitize = .error .notText ∧ n.isGiven = true ∧ n.text? = none := by
  unfold Name.sanitize
  split
  · next text htext => exact .inl ⟨⟨_, rfl⟩, by simp [htext]⟩
  · next htext =>
    cases given : n.isGiven with
    | true => exact .inr ⟨rfl, rfl, htext⟩
    | false => exact .inl ⟨⟨_, rfl⟩, by simp⟩

theorem enumDefault_of_known {name : String} (h : name ∈ enumZeroMembers.map (·.1)) :
    ∃ e, r.enumDefault name = .ok e := by
  simp only [enumZeroMembers, List.map_cons, List.map_nil, List.mem_cons, List.not_mem_nil,
    or_false] at h
  rcases h with rfl | rfl <;> exact ⟨_, rfl⟩

/-- The zero value of an enumeration of the schema is zero where it is a member or there are no
members, else the first member. -/
theorem enumDefault_of_other {name : String} (h : name ∉ enumZeroMembers.map (·.1)) :
    r.enumDefault name = match (r.enum? name).map (·.values) with
      | some (first :: rest) =>
        if (first :: rest).any (·.value = 0) then
          .ok (.invoke (.name (r.enumHostName name)) [.literal "0"])
        else first.name.sanitize.map (.attr (.name (r.enumHostName name)))
      | _ => .ok (.invoke (.name (r.enumHostName name)) [.literal "0"]) := by
  unfold enumDefault
  rw [lookup_eq_none_of_notMem h]
  cases enumRenames.lookup name <;> rfl

theorem enumDefault_returns_or (name : String) :
    (∃ e, r.enumDefault name = .ok e) ∧ ¬r.IsNameless name ∨
      r.enumDefault name = .error .notText ∧ r.IsNameless name := by
  by_cases known : name ∈ enumZeroMembers.map (·.1)
  · exact .inl ⟨enumDefault_of_known known, fun nameless => nameless.1 known⟩
  · rw [enumDefault_of_other known]
    split
    · next first rest found =>
      obtain ⟨e, he, hvalues⟩ := Option.map_eq_some_iff.mp found
      split
      · next zero =>
        refine .inl ⟨⟨_, rfl⟩, ?_⟩
        rintro ⟨-, e', _, _, he', -, others, -⟩
        cases he.symm.trans he'
        obtain ⟨v, hv, hzero⟩ := List.any_eq_true.mp zero
        exact others v (hvalues ▸ hv) (of_decide_eq_true hzero)
      · next noZero =>
        rcases sanitize_returns_or first.name with ⟨⟨s, hs⟩, named⟩ | ⟨hs, given, noText⟩
        · refine .inl ⟨⟨_, by rw [hs]; rfl⟩, ?_⟩
          rintro ⟨-, e', first', rest', he', hvalues', -, nameless⟩
          cases he.symm.trans he'
          cases hvalues.symm.trans hvalues'
          exact named nameless
        · have others : ∀ v ∈ e.values, v.value ≠ 0 := by
            rw [hvalues]
            intro v hv hzero
            exact noZero (List.any_eq_true.mpr ⟨v, hv, decide_eq_true hzero⟩)
          exact .inr ⟨by rw [hs]; rfl, known, e, first, rest, he, hvalues, others, given, noText⟩
    · next absent =>
      refine .inl ⟨⟨_, rfl⟩, ?_⟩
      rintro ⟨-, e, first, rest, he, hvalues, -⟩
      exact absent first rest (by rw [he, ← hvalues]; rfl)

/-- The zero value of a type that was read is there, unless it would be a member of an enumeration
whose name is no text. -/
theorem defaultValue_returns_or (classified : type.IsClassified) :
    (∃ e, r.defaultValue type = .ok e) ∧ (∀ name, type = .enum name → ¬r.IsNameless name) ∨
      r.defaultValue type = .error (.value .notText) ∧
        ∃ name, type = .enum name ∧ r.IsNameless name := by
  cases type with
  | primitive type => cases type <;> exact .inl ⟨⟨_, rfl⟩, nofun⟩
  | «enum» name =>
    rcases r.enumDefault_returns_or name with ⟨⟨e, he⟩, named⟩ | ⟨stopped, nameless⟩
    · refine .inl ⟨⟨e, by rw [defaultValue, he]; rfl⟩, ?_⟩
      rintro _ ⟨⟩
      exact named
    · exact .inr ⟨by rw [defaultValue, stopped]; rfl, name, rfl, nameless⟩
  | typedArray element =>
    have mapped : ReturnsUnless (element.StaleTag .null) (r.target element .null .member) :=
      returnsUnless_target classified (.inl rfl)
    obtain ⟨target, htarget⟩ := mapped.returns (TypeRef.not_staleTag_null element)
    exact .inl ⟨⟨_, by rw [defaultValue, htarget]; rfl⟩, nofun⟩
  | value name =>
    rw [defaultValue]
    split <;> exact .inl ⟨⟨_, rfl⟩, nofun⟩
  | bitfield | object | pointer | bare => exact .inl ⟨⟨_, rfl⟩, nofun⟩

theorem not_isNameless (enums : r.HasTextEnums) (name : String) : ¬r.IsNameless name := by
  rintro ⟨-, e, first, rest, he, hvalues, -, -, noText⟩
  obtain ⟨s, hs⟩ := enums name e he first (by rw [hvalues]; exact List.mem_cons_self ..)
  rw [hs] at noText
  cases noText

theorem exists_defaultValue (enums : r.HasTextEnums) (classified : type.IsClassified) :
    ∃ e, r.defaultValue type = .ok e := by
  rcases defaultValue_returns_or classified with ⟨returned, -⟩ | ⟨-, name, -, nameless⟩
  · exact returned
  · exact absurd nameless (not_isNameless enums name)

/-! ### Sizes -/

theorem returnsUnless_requireSize (name : Name) :
    ReturnsUnless (r.size? name = none) (r.requireSize name) := by
  unfold requireSize
  cases r.size? name with
  | some size => exact .ok size
  | none => exact .error _ rfl

/-- Storage for a builtin is made unless the builtin has no size, or one that no storage has. -/
theorem returnsUnless_storage (name : Name) :
    ReturnsUnless (∀ size, r.size? name = some size → size ∉ [0, 4, 8, 16]) (r.storage name) := by
  unfold storage requireSize
  cases r.size? name with
  | none => exact .error _ (fun _ h => by cases h)
  | some size =>
    rw [ok_bind]
    split
    · exact .ok _
    · next small =>
      split
      · exact .ok _
      · next eight =>
        split
        · exact .ok _
        · next sixteen =>
          refine .error _ fun _ h => ?_
          cases h
          simpa [not_or, and_assoc] using And.intro small (And.intro eight sixteen)

/-! ### A whole registry -/

/-- A registry for which the tables of the engine are stale: some signature has a width tag that
the tables do not know, names a builtin without a size, or returns a typed array where no storage
holds an array, or some virtual method takes an argument of no value at all. -/
inductive IsStale (r : Registry) : Prop
  | argumentTag {m : MethodDef} {a : ArgumentDef} (hm : m ∈ r.callables) (ha : a ∈ m.arguments)
    (h : a.type.StaleTag a.widthTag)
  | resultTag {m : MethodDef} {type : TypeRef} (hm : m ∈ r.callables)
    (hresult : m.result? = some type) (h : type.StaleTag m.returnTag)
  | unsized {m : MethodDef} {name : String} (hm : m ∈ r.callables)
    (htype : TypeRef.value name ∈ m.types) (hsize : r.size? name = none)
  | arraySize {m : MethodDef} {element : TypeRef} (hm : m ∈ r.callables)
    (hresult : m.result? = some (.typedArray element))
    (hsize : ∀ size, r.size? "Array" = some size → size ∉ [0, 4, 8, 16])
  | voidArgument {c : ClassDef} {m : MethodDef} {a : ArgumentDef} (hc : c ∈ r.classes)
    (hm : m ∈ c.methods) (hvirtual : m.hash = none) (ha : a ∈ m.arguments)
    (hvoid : a.type = .primitive .void)

end Registry

end EngineBindings
