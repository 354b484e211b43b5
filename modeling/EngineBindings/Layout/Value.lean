import EngineBindings.Layout.Basic
import EngineBindings.Target.Mapping

/-! Layouts of builtin value types.

The declared offsets of the build configuration are authoritative. A builtin without any has its
declared members laid out one after another with the widths of fields; a builtin without members
is opaque. A layout is handed out only once its bytes have been covered. -/
namespace EngineBindings

/-- The scalar that the tag of a member's width means. -/
def widthTag? (tag : String) : Option Scalar :=
  match Registry.integerTags.lookup tag with
  | some (width, signed) => some (.int width signed)
  | none => [("float", Scalar.float), ("double", Scalar.double)].lookup tag

namespace Registry

/-- A field that holds a scalar. -/
def scalarField (name : Name) (offset : Int) (type : Scalar) : LayoutField Int :=
  ⟨name, offset, type.size, some type.name, none⟩

/-- A field whose content is a width tag or a nested value type. -/
def offsetField (r : Registry) (owner : Name) (m : MemberOffset) : Except Fault (LayoutField Int) := do
  let content ← m.content.keyed.mapError .value
  match content.text?.bind widthTag? with
  | some type => return scalarField m.member m.offset type
  | none =>
    match r.size? content with
    | some size => return ⟨m.member, m.offset, size, none, some content⟩
    | none =>
      throw (.layout (.unknownWidth owner.display m.member.display content.display))

/-- A field for a declared member at a given offset. -/
def memberField (r : Registry) (owner : Name) (offset : Int) (m : BuiltinMember) :
    Except Fault (LayoutField Int) := do
  let type ← m.type.keyed.mapError .value
  match type.text?.bind Primitive.ofName? with
  | some primitive =>
    match (← r.primitiveTarget primitive .null .field).scalar? with
    | some scalar => return scalarField m.name offset scalar
    | none => throw (.value .voidMember)
  | none =>
    match r.size? type with
    | some size => return ⟨m.name, offset, size, none, some type⟩
    | none => throw (.layout (.unknownMemberType owner.display m.name.display type.display))

/-- Fields for declared members, one after another from `offset` on. -/
def sequentialFields (r : Registry) (owner : Name) :
    (offset : Int) → List BuiltinMember → Except Fault (List (LayoutField Int))
  | _, [] => .ok []
  | offset, m :: rest => do
    let field ← r.memberField owner offset m
    return field :: (← r.sequentialFields owner (offset + field.size) rest)

/-- The fields of a value type. -/
def layoutFields (r : Registry) (name : Name) : Except Fault (List (LayoutField Int)) :=
  match r.memberOffsets name with
  | [] =>
    match r.builtin? name with
    | some builtin => r.sequentialFields name 0 builtin.members
    | none => .ok []
  | offsets => offsets.mapM (r.offsetField name)

/-- The layout of a value type, with its bytes covered. -/
def layout (r : Registry) (name : Name) : Except Fault (Layout Int) :=
  match r.size? name with
  | none => .error (.layout (.noSize name.display r.profile.name))
  | some size => do
    let layout : Layout Int := ⟨name, builtinHost name, size, ← r.layoutFields name⟩
    let _ ← layout.specs.mapError .ofLayout
    return layout

/-! ### Order of declaration -/

/-- Layouts in order, and the names that have been met. -/
structure Placement where
  met : List Name
  ordered : List (Layout Int)

/-- Places the layout of a value type behind those of the types nested in it, unless its name
has been met. -/
def placeLayout (r : Registry) :
    (fuel : Nat) → Placement → Name → Except Fault Placement
  | 0, p, _ => .ok p
  | fuel + 1, p, name =>
    if p.met.contains name then .ok p
    else do
      let layout ← r.layout name
      let nested := layout.fields.filterMap (·.nested) |>.filter (·.isGiven)
      let p ← nested.foldlM (r.placeLayout fuel) { p with met := name :: p.met }
      return { p with ordered := p.ordered ++ [layout] }

/-- The builtins that are declared as structures: those with members and a size. -/
def sizedStructs (r : Registry) : List Name :=
  (r.builtins.filter fun b => b.isStruct && (r.size? b.name).isSome).map (·.name)

/-- The layouts of all structures and of what they nest, nested types first. -/
def structLayouts (r : Registry) : Except Fault (List (Layout Int)) := do
  let p ← r.sizedStructs.foldlM (r.placeLayout (r.sizes.entries.length + 1)) ⟨[], []⟩
  return p.ordered

/-- The type of a field in a structure's declaration. -/
def declaredType : SpecContent Int → Except ValueFault Name
  | .scalar type => .ok ("ctypes." ++ type.display : String)
  | .nested type => .ok (builtinHost (type.getD default))
  | .bytes count =>
    if Number.isWritable count then .ok ("ctypes.c_uint8 * " ++ Number.decimal count : String)
    else .error .numeralTooLong

/-- The fields of a structure's declaration in emitted code, padding included. -/
def declarationFields (r : Registry) (name : Name) : Except Fault (List (Name × Name)) := do
  let specs ← (← r.layout name).specs.mapError .ofLayout
  specs.mapM fun spec => return (spec.name, ← (declaredType spec.content).mapError .value)

end Registry

end EngineBindings
