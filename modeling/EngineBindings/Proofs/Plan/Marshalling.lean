import EngineBindings.Proofs.Plan.Handing
import EngineBindings.Proofs.Registry.Built

/-! The ways in which values cross the interface.

Four planners decide on their own how a value of a type crosses: as an argument of a bound callable,
as its result, as an argument of a virtual method and as its result. Every type belongs to one class
(`Marshalling`, `Falls`), and what each planner does is what the class says
(`marshals_of_target`). -/
namespace EngineBindings

open EngineBindings.Code Attempt

/-- How the values of a type cross the interface. -/
inductive Marshalling where
  | scalar (type : Scalar)
  /-- Enumerations and bitfields, as numbers of 64 bits. -/
  | enumeration
  /-- Objects, by their handles. -/
  | object (host : String)
  /-- A builtin of fixed layout: its name in emitted code and in the schema. -/
  | struct (host source : String)
  /-- Any other builtin, by its content. -/
  | content (host source : String)
  /-- A typed array, by its content. -/
  | array

namespace Marshalling

/-- How an argument of a bound callable is handed over. -/
def handing : Marshalling → Handing
  | scalar type => .scalar type
  | enumeration => .number
  | object _ => .object
  | struct host _ => .struct host
  | content _ _ | array => .content

/-- The cell that the engine writes a result of a type into. -/
def resultCell (r : Registry) (type : TypeRef) : Marshalling → Except Fault Expr
  | scalar s => (r.defaultValue type).map fun zero => .invoke (.native s.name) [zero]
  | enumeration =>
    (r.defaultValue type).map fun zero => .invoke (.native "c_int64") [.apply "int" [zero]]
  | object _ => .ok (.invoke (.native "c_void_p") [])
  | struct host _ | content host _ => .ok (.apply host [])
  | array => r.storage "Array"

/-- The address of that cell: of the content that a builtin holds, of the cell itself elsewhere. -/
def resultPointer : Marshalling → Expr
  | content _ _ => .invoke (.native "byref") [.attr (.name resultName) "content"]
  | _ => .invoke (.native "byref") [.name resultName]

/-- How an argument of a virtual method is kept in its slot. Enumerations and typed arrays are kept
in none. -/
def argumentSlot? (r : Registry) : Marshalling → Option (Except Fault SlotKind)
  | scalar type => some (.ok (.scalar type))
  | object host => some (.ok (.object host))
  | struct host source => some ((r.requireSize source).map (.struct · host))
  | content host source => some ((r.requireSize source).map (.content · host))
  | enumeration | array => none

/-- How the result of a virtual method is kept in its slot. -/
def resultSlot (r : Registry) : Marshalling → Except Fault StoreKind
  | scalar type => .ok (.scalar type)
  | enumeration => .ok .number
  | object _ => .ok .object
  | struct _ source => (r.requireSize source).map .struct
  | content _ source => (r.requireSize source).map .content
  | array => (r.requireSize "Array").map .content

end Marshalling

namespace Registry

variable {r : Registry} {type : TypeRef} {t : Target} {m : Marshalling}

/-- The class of a type and its target. -/
inductive Falls (r : Registry) : TypeRef → Target → Marshalling → Prop
  | scalar {p : Primitive} {t : Target} {s : Scalar} (value : p ≠ .void)
      (scalar : t.isScalar = true) (carrier : t.scalar? = some s) :
      Falls r (.primitive p) t (.scalar s)
  | enum {name host : String} {owner : Option String} :
      Falls r (.enum name) (.enum name host owner) .enumeration
  | bitfield {name host : String} {owner : Option String} :
      Falls r (.bitfield name) (.bitfield name host owner) .enumeration
  | object {name : String} {width : Width} :
      Falls r (.object name) (.object name width) (.object name)
  | struct {name : String} (unnamed : name ≠ "Nil" ∧ name ≠ "Variant")
      (members : r.isStruct name = true) :
      Falls r (.value name) (.coreValue name true) (.struct (builtinHostName name) name)
  | value {name : String} (unnamed : name ≠ "Nil" ∧ name ≠ "Variant")
      (bare : r.isStruct name = false) :
      Falls r (.value name) (.coreValue name false) (.content (builtinHostName name) name)
  | string (bare : r.isStruct "String" = false) :
      Falls r (.value "String") .string (.content (builtinHostName "String") "String")
  | variant {name : String} (named : name = "Nil" ∨ name = "Variant")
      (bare : r.isStruct name = false) :
      Falls r (.value name) (.variant name) (.content (builtinHostName name) name)
  | array {element : TypeRef} {t : Target} {spelling : String}
      (mapped : r.target element .null .member = .ok t) :
      Falls r (.typedArray element) (.typedArray t spelling) .array

/-- No type is of two classes. -/
theorem Falls.unique {m' : Marshalling} (h : r.Falls type t m) (h' : r.Falls type t m') :
    m = m' := by
  cases h with
  | scalar value scalar carrier =>
    cases h' with
    | scalar _ _ carrier' => rw [Option.some.inj (carrier.symm.trans carrier')]
  | enum | bitfield | object | struct | value | string | variant | array =>
    cases h'
    rfl

/-- Outside of fields the mapping does not depend on what it is for. -/
theorem target_eq_member {tag : Json} {use : TypeUse} (h : use ≠ .field) :
    r.target type tag use = r.target type tag .member := by
  have widths : ∀ tag, r.integerWidth tag use = r.integerWidth tag .member ∧
      r.floatWidth tag use = r.floatWidth tag .member := by
    intro tag
    simp [integerWidth, floatWidth, h]
  induction type generalizing tag with
  | primitive p => cases p <;> simp [target, primitiveTarget, widths tag]
  | typedArray element ih => simp [target, ih]
  | value | object | enum | bitfield | pointer | bare => rfl

/-- Every type that is mapped to a target, holds a value and no pointer is of some class. -/
theorem exists_falls {tag : Json} (plain : ∀ name ∈ ["String", "Nil", "Variant"],
    r.isStruct (name : String) = false) (value : type.isVoid = false)
    (direct : type.containsPointer = false) (h : r.target type tag .member = .ok t) :
    ∃ m, r.Falls type t m := by
  cases type with
  | primitive p =>
    have held : p ≠ .void := fun hvoid => by simp [TypeRef.isVoid, hvoid] at value
    cases p with
    | void => exact absurd rfl held
    | bool =>
      cases h
      exact ⟨_, .scalar held rfl rfl⟩
    | int | float | real =>
      obtain ⟨width, _, rfl⟩ := map_eq_ok.mp h
      exact ⟨_, .scalar held rfl rfl⟩
  | enum name =>
    cases h
    exact ⟨_, .enum⟩
  | bitfield name =>
    cases h
    exact ⟨_, .bitfield⟩
  | object name =>
    cases h
    exact ⟨_, .object⟩
  | value name =>
    cases h
    unfold valueTarget
    by_cases named : name = "Nil" ∨ name = "Variant"
    · rw [if_pos named]
      exact ⟨_, .variant named (plain name (by simpa [or_comm] using Or.inr named))⟩
    · have unnamed := not_or.mp named
      rw [if_neg named]
      by_cases text : name = "String"
      · subst text
        exact ⟨_, .string (plain "String" (by simp))⟩
      · rw [if_neg text]
        cases members : r.isStruct (name : String) with
        | true => exact ⟨_, .struct unnamed members⟩
        | false => exact ⟨_, .value unnamed members⟩
  | typedArray element =>
    obtain ⟨inner, hinner, rfl⟩ := map_eq_ok.mp h
    exact ⟨_, .array hinner⟩
  | pointer spelling => cases direct
  | bare name => cases h

/-! ### The planners -/

/-- An argument of a bound callable is handed over as its class says. -/
theorem Falls.handing (h : r.Falls type t m) : r.handing type t = m.handing := by
  cases h with
  | @scalar p t s value scalar carrier =>
    have plain : t.isEnumeration = false := by cases t <;> first | rfl | cases scalar
    simp [Registry.handing, needsCopy, value, carrier, plain, Marshalling.handing]
  | enum | bitfield | object | array => rfl
  | struct _ members | value _ members | string members | variant _ members =>
    simp [Registry.handing, needsCopy, members, Target.scalar?, Target.isObject,
      Marshalling.handing, Target.host]

/-- The zero value of a builtin is made by the class of its name. -/
theorem defaultValue_value (name : String) :
    r.defaultValue (.value name) = .ok (.apply (builtinHostName name) []) := by
  rw [defaultValue]
  by_cases named : name = "Nil" ∨ name = "Variant"
  · rw [if_pos named]
    rcases named with rfl | rfl <;> rfl
  · rw [if_neg named]

/-- The storage of a result and the address that the engine is given are those of the class. -/
theorem Falls.returnPlan {method : MethodDef} {use : TypeUse} (h : r.Falls type t m)
    (mapped : r.target type method.returnTag use = .ok t) :
    (r.returnPlan use method type).map (fun ret => (ret.target, ret.storage, ret.pointer)) =
      (m.resultCell r type).map fun cell => (t, cell, m.resultPointer) := by
  unfold Registry.returnPlan
  rw [mapped, ok_bind]
  cases h with
  | @scalar p t s value scalar carrier =>
    rw [Marshalling.resultCell]
    cases r.defaultValue (.primitive p) with
    | error fault => rfl
    | ok zero =>
      cases t with
      | bool | int | float =>
        cases carrier
        rfl
      | _ => cases scalar
  | @enum name =>
    rw [Marshalling.resultCell]
    cases r.defaultValue (.enum name) <;> rfl
  | bitfield | object => rfl
  | struct | value | string | variant =>
    rw [defaultValue_value]
    rfl
  | @array element t spelling inner =>
    rw [defaultValue, inner]
    show ((r.storage "Array") >>= _).map _ = (r.storage "Array").map _
    cases r.storage "Array" <;> rfl

/-- An accepted argument of a virtual method is read from its slot as its class says. -/
theorem Falls.loadArgument {a : ArgumentDef} (h : r.Falls type t m)
    (accepted : argumentObstacle a t = none) :
    ∃ slot, m.argumentSlot? r = some slot ∧ ∀ name index,
      r.loadArgument name index t = slot.map (·.load name index) := by
  cases h with
  | @scalar p t s value scalar carrier =>
    refine ⟨_, rfl, fun name index => ?_⟩
    cases t with
    | bool | int | float =>
      cases carrier
      rfl
    | _ => cases scalar
  | enum | bitfield | string | array => cases accepted
  | object => exact ⟨_, rfl, fun name index => rfl⟩
  | @struct source | @value source =>
    refine ⟨_, rfl, fun name index => ?_⟩
    show r.requireSize source >>= _ = ((r.requireSize source).map _).map _
    cases r.requireSize source <;> rfl
  | @variant source named =>
    have host : builtinHostName source = "Variant" := by rcases named with rfl | rfl <;> rfl
    refine ⟨_, rfl, fun name index => ?_⟩
    show r.requireSize source >>= _ = ((r.requireSize source).map _).map _
    rw [host]
    cases r.requireSize source <;> rfl

/-- The result of a virtual method is put into its slot as its class says. -/
theorem Falls.storeResult (h : r.Falls type t m) :
    r.storeResult t = (m.resultSlot r).map fun kind => [kind.statement] := by
  cases h with
  | @scalar p t s value scalar carrier =>
    cases t with
    | bool | int | float =>
      cases carrier
      rfl
    | _ => cases scalar
  | enum | bitfield | object => rfl
  | @struct source | @value source | @variant source =>
    show r.requireSize source >>= _ = ((r.requireSize source).map _).map _
    cases r.requireSize source <;> rfl
  | string =>
    show r.requireSize "String" >>= _ = ((r.requireSize "String").map _).map _
    cases r.requireSize "String" <;> rfl
  | array =>
    show r.requireSize "Array" >>= _ = ((r.requireSize "Array").map _).map _
    cases r.requireSize "Array" <;> rfl

/-! ### All of them -/

/-- What the four planners do with a type of a class. -/
structure Marshals (r : Registry) (type : TypeRef) (tag : Json) (t : Target) (m : Marshalling) :
    Prop where
  argument : ∀ use ≠ .field, ∀ a : ArgumentDef, a.type = type → a.widthTag = tag →
    r.argSlot use a = (a.name.sanitize.mapError .value).map fun name =>
      ⟨name, type.spelling, t, m.handing.passing, m.handing.setup name, m.handing.native name, none⟩
  result : ∀ use ≠ .field, ∀ method : MethodDef, method.returnTag = tag →
    (r.returnPlan use method type).map (fun ret => (ret.target, ret.storage, ret.pointer)) =
      (m.resultCell r type).map fun cell => (t, cell, m.resultPointer)
  virtualArgument : ∀ a : ArgumentDef, a.type = type → a.widthTag = tag →
    argumentObstacle a t = none → ∃ slot, m.argumentSlot? r = some slot ∧ ∀ index,
      r.trampolineArg a index = (a.name.sanitize.mapError .value) >>= fun name =>
        slot.map fun kind => ⟨name, t, kind.load name index⟩
  virtualResult : r.storeResult t = (m.resultSlot r).map fun kind => [kind.statement]

theorem Falls.marshals {tag : Json} (h : r.Falls type t m)
    (mapped : r.target type tag .member = .ok t) : r.Marshals type tag t m := by
  constructor
  case argument =>
    rintro use outside a rfl rfl
    rw [argSlot_eq, argumentTarget, target_eq_member outside, mapped]
    cases a.name.sanitize.mapError Fault.value with
    | error fault => rfl
    | ok name =>
      rw [ok_bind, ok_bind, h.handing]
      rfl
  case result =>
    rintro use outside method rfl
    exact h.returnPlan ((target_eq_member outside).trans mapped)
  case virtualArgument =>
    rintro a rfl rfl accepted
    obtain ⟨slot, hslot, load⟩ := h.loadArgument accepted
    refine ⟨slot, hslot, fun index => ?_⟩
    unfold trampolineArg
    rw [argumentTarget, mapped, ok_bind]
    refine bind_congr fun name => ?_
    rw [load]
    cases slot <;> rfl
  case virtualResult => exact h.storeResult

/-- In a registry whose text, null and variant types have no members, every type that holds a value
and no pointer, and is mapped with its tag, falls in exactly one class. Each planner, whatever it is
asked for, does with it what the class says. -/
theorem marshals_of_target {tag : Json} {use : TypeUse}
    (plain : ∀ name ∈ ["String", "Nil", "Variant"], r.isStruct (name : String) = false)
    (value : type.isVoid = false) (direct : type.containsPointer = false) (outside : use ≠ .field)
    (h : r.target type tag use = .ok t) :
    ∃ m, r.Falls type t m ∧ (∀ m', r.Falls type t m' → m' = m) ∧ r.Marshals type tag t m := by
  rw [target_eq_member outside] at h
  obtain ⟨m, falls⟩ := exists_falls plain value direct h
  exact ⟨m, falls, fun m' falls' => falls'.unique falls, falls.marshals h⟩

/-- A registry of one builtin with a member. -/
def pointed : Registry :=
  { ofClasses [] with
    builtins := [{ name := "Point", members := [⟨("x" : String), ("float" : String)⟩],
                   operators := [], hasDestructor := false, constructorCount := 0, enums := [],
                   methods := [] }] }

theorem pointed_plain : ∀ name ∈ ["String", "Nil", "Variant"],
    pointed.isStruct (name : String) = false := by
  decide +kernel

theorem marshals_of_target_pointed :
    pointed.Marshals (.value "Point") .null (.coreValue "Point" true) (.struct "Point" "Point") ∧
      pointed.Marshals (.value "RID") .null (.coreValue "RID" false) (.content "RID" "RID") ∧
      pointed.Marshals (.primitive .int) (.str "uint16") (.int .w16 false)
        (.scalar (.int .w16 false)) := by
  have point : pointed.target (.value "Point") .null .member = .ok (.coreValue "Point" true) := by
    cbv
  have rid : pointed.target (.value "RID") .null .builtin = .ok (.coreValue "RID" false) := by cbv
  have short : pointed.target (.primitive .int) (.str "uint16") .member = .ok (.int .w16 false) :=
    rfl
  obtain ⟨_, _, only, points⟩ := marshals_of_target pointed_plain rfl rfl (by decide) point
  obtain ⟨_, _, only', rids⟩ := marshals_of_target pointed_plain rfl rfl (by decide) rid
  obtain ⟨_, _, only'', shorts⟩ := marshals_of_target pointed_plain rfl rfl (by decide) short
  rw [← only _ (.struct (by decide) (by decide +kernel))] at points
  rw [← only' _ (.value (by decide) (by decide +kernel))] at rids
  rw [← only'' _ (.scalar (by decide) rfl rfl)] at shorts
  exact ⟨points, rids, shorts⟩

end Registry

end EngineBindings
