import EngineBindings.Target.Basic
import EngineBindings.Text.Identifier

/-! Mapping types to targets.

The mapping is total over the variants of a type. It fails only where a number carries a width
tag that the tables do not know, and for a reference that is nothing but a name. Elements of a
typed array carry no tag.

Constructors, builtin methods and operators are looked up by a constant for the type and, for an
operator, one for the operation. The tables are closed: a name outside them belongs to a later
version of the engine. -/
namespace EngineBindings

open EngineBindings.Text

/-! ### Names of enumerations -/

/-- Enumerations of the whole engine that have a name of their own in emitted code. -/
def enumRenames : List (String × String) :=
  [("Error", "GodotError"), ("Variant.Type", "VariantType")]

/-- The members of those enumerations that stand for zero. -/
def enumZeroMembers : List (String × String) :=
  [("Error", "OK"), ("Variant.Type", "TYPE_NIL")]

/-- A dotted name without its dots. -/
def withoutDots (name : String) : String :=
  String.ofList (name.toList.filter (· ≠ '.'))

namespace Registry

/-- The class that an enumeration belongs to, by the owner part of its name. -/
def enumOwner? (r : Registry) (name : String) : Option String :=
  let owner := (splitOwner name).1
  if !owner.isEmpty && (r.class? owner).isSome then some owner else none

/-- The name of an enumeration in emitted code. One of a class stays nested in it; any other
dotted name is flattened. -/
def enumHostName (r : Registry) (name : String) : String :=
  match enumRenames.lookup name with
  | some host => host
  | none =>
    let (owner, last) := splitOwner name
    if !owner.isEmpty && (r.class? owner).isNone then hostName (withoutDots owner ++ last)
    else hostName name

/-! ### Widths -/

/-- The width tags of whole numbers. -/
def integerTags : List (String × (Width × Bool)) :=
  [("int8", .w8, true), ("uint8", .w8, false), ("int16", .w16, true), ("uint16", .w16, false),
   ("int32", .w32, true), ("uint32", .w32, false), ("int64", .w64, true),
   ("uint64", .w64, false)]

/-- The width and sign of a whole number: as its tag says, 32 bits in a field without a tag, and
as the build configuration says elsewhere. -/
def integerWidth (r : Registry) (tag : Json) (use : TypeUse) : Except Fault (Width × Bool) :=
  match tag with
  | .null => .ok (if use = .field then .w32 else r.profile.intWidth, true)
  | .str s =>
    match integerTags.lookup s with
    | some width => .ok width
    | none => .error (.mapping (.integerWidth s))
  | other =>
    if other.isComposite then .error (.value .compositeName)
    else .error (.mapping (.integerWidth other.display))

/-- The width of a floating point number: 32 bits in a field, 64 where it is tagged as a double,
and as the build configuration says elsewhere. The tag `float` names no width. -/
def floatWidth (r : Registry) (tag : Json) (use : TypeUse) : Except Fault Width :=
  if use = .field then .ok .w32
  else
    match tag with
    | .null => .ok r.profile.floatWidth
    | .str s =>
      if s = "double" then .ok .w64
      else if s = "float" then .ok r.profile.floatWidth
      else .error (.mapping (.floatWidth s))
    | other =>
      if other.isComposite then .error (.value .compositeName)
      else .error (.mapping (.floatWidth other.display))

/-! ### Types -/

/-- The target of a primitive. -/
def primitiveTarget (r : Registry) (type : Primitive) (tag : Json) (use : TypeUse) :
    Except Fault Target :=
  match type with
  | .void => .ok .void
  | .bool => .ok .bool
  | .int => (r.integerWidth tag use).map fun w => .int w.1 w.2
  | .float => (r.floatWidth tag use).map (.float "float")
  | .real => (r.floatWidth tag use).map (.float "real")

/-- The target of a builtin value. -/
def valueTarget (r : Registry) (name : String) : Target :=
  if name = "Nil" ∨ name = "Variant" then .variant name
  else if name = "String" then .string
  else .coreValue name (r.isStruct name)

/-- The target of a type. -/
def target (r : Registry) (type : TypeRef) (tag : Json) (use : TypeUse) : Except Fault Target :=
  match type with
  | .primitive type => r.primitiveTarget type tag use
  | .enum name => .ok (.enum name (r.enumHostName name) (r.enumOwner? name))
  | .bitfield name => .ok (.bitfield name (r.enumHostName name) (r.enumOwner? name))
  | .typedArray element =>
    (r.target element .null use).map (.typedArray · (TypeRef.typedArray element).spelling)
  | .object name => .ok (.object name r.profile.pointerWidth)
  | .value name => .ok (r.valueTarget name)
  | .pointer spelling => .ok (.pointer spelling r.profile.pointerWidth)
  | .bare _ => .error (.mapping .unclassified)

/-- The target of an argument. -/
def argumentTarget (r : Registry) (a : ArgumentDef) (use : TypeUse) : Except Fault Target :=
  r.target a.type a.widthTag use

/-- The target of a method's result, `void` for a method without one. -/
def resultTarget (r : Registry) (m : MethodDef) (use : TypeUse) : Except Fault Target :=
  match m.result? with
  | some type => r.target type m.returnTag use
  | none => .ok .void

/-- Whether the interface needs a copy of a value besides the value itself: numbers, truth values,
enumerations, bitfields and builtins of fixed layout. -/
def needsCopy (r : Registry) : TypeRef → Bool
  | .primitive type => type ≠ .void
  | .enum _ => true
  | .bitfield _ => true
  | .value name => r.isStruct name
  | _ => false

/-! ### Sizes -/

/-- The declared size of a builtin that has to have one. -/
def requireSize (r : Registry) (name : Name) : Except Fault Int :=
  match r.size? name with
  | some size => .ok size
  | none => .error (.mapping (.noSize name.display r.profile.name))

end Registry

/-! ### The engine's numbering of value types and operators -/

/-- The constant of each builtin type. -/
def typecodes : List (String × String) :=
  [("Nil", "NIL"), ("Variant", "NIL"), ("bool", "BOOL"), ("int", "INT"), ("float", "FLOAT"),
   ("String", "STRING"), ("Vector2", "VECTOR2"), ("Vector2i", "VECTOR2I"), ("Rect2", "RECT2"),
   ("Rect2i", "RECT2I"), ("Vector3", "VECTOR3"), ("Vector3i", "VECTOR3I"),
   ("Transform2D", "TRANSFORM2D"), ("Vector4", "VECTOR4"), ("Vector4i", "VECTOR4I"),
   ("Plane", "PLANE"), ("Quaternion", "QUATERNION"), ("AABB", "AABB"), ("Basis", "BASIS"),
   ("Transform3D", "TRANSFORM3D"), ("Projection", "PROJECTION"), ("Color", "COLOR"),
   ("StringName", "STRING_NAME"), ("NodePath", "NODE_PATH"), ("RID", "RID"),
   ("Object", "OBJECT"), ("Callable", "CALLABLE"), ("Signal", "SIGNAL"),
   ("Dictionary", "DICTIONARY"), ("Array", "ARRAY"), ("PackedByteArray", "PACKED_BYTE_ARRAY"),
   ("PackedInt32Array", "PACKED_INT32_ARRAY"), ("PackedInt64Array", "PACKED_INT64_ARRAY"),
   ("PackedFloat32Array", "PACKED_FLOAT32_ARRAY"),
   ("PackedFloat64Array", "PACKED_FLOAT64_ARRAY"), ("PackedStringArray", "PACKED_STRING_ARRAY"),
   ("PackedVector2Array", "PACKED_VECTOR2_ARRAY"),
   ("PackedVector3Array", "PACKED_VECTOR3_ARRAY"), ("PackedColorArray", "PACKED_COLOR_ARRAY"),
   ("PackedVector4Array", "PACKED_VECTOR4_ARRAY")]

/-- The constant of a builtin type. -/
def typecode (name : Name) : Except Fault String := do
  let name ← name.keyed.mapError .value
  match name.text?.bind (typecodes.lookup ·) with
  | some code => return "GDEXTENSION_VARIANT_TYPE_" ++ code
  | none => throw (.mapping (.noTypecode name.display))

/-- An operator: its constant, and the special method that implements it where the emitted
language has one. -/
structure Operator where
  constant : String
  specialMethod : Option String

/-- Every operator symbol of the schema. -/
def operators : List (String × (String × Option String)) :=
  [("==", "EQUAL", some "__eq__"), ("!=", "NOT_EQUAL", some "__ne__"),
   ("<", "LESS", some "__lt__"), ("<=", "LESS_EQUAL", some "__le__"),
   (">", "GREATER", some "__gt__"), (">=", "GREATER_EQUAL", some "__ge__"),
   ("+", "ADD", some "__add__"), ("-", "SUBTRACT", some "__sub__"),
   ("*", "MULTIPLY", some "__mul__"), ("/", "DIVIDE", some "__truediv__"),
   ("unary-", "NEGATE", some "__neg__"), ("unary+", "POSITIVE", some "__pos__"),
   ("%", "MODULE", some "__mod__"), ("**", "POWER", some "__pow__"),
   ("<<", "SHIFT_LEFT", some "__lshift__"), (">>", "SHIFT_RIGHT", some "__rshift__"),
   ("&", "BIT_AND", some "__and__"), ("|", "BIT_OR", some "__or__"),
   ("^", "BIT_XOR", some "__xor__"), ("~", "BIT_NEGATE", some "__invert__"),
   ("in", "IN", some "__contains__"), ("and", "AND", none), ("or", "OR", none),
   ("xor", "XOR", none), ("not", "NOT", none)]

/-- The operator of a symbol. -/
def operator (symbol : Name) : Except Fault Operator := do
  let symbol ← symbol.keyed.mapError .value
  match symbol.text?.bind (operators.lookup ·) with
  | some (constant, specialMethod) =>
    return ⟨"GDEXTENSION_VARIANT_OP_" ++ constant, specialMethod⟩
  | none => throw (.mapping (.unknownOperator symbol.display))

end EngineBindings
