import EngineBindings.Layout.Value
import EngineBindings.Number.Power

/-! Native structures.

The platform lays a structure out by itself: each field goes to the next multiple of its
alignment, and the size is rounded up to the greatest alignment of a field. `structType` builds
the native structure of a value type from its covered layout and checks that the platform puts
every member where the layout declares it. A structure type keeps a few names for itself, which no
field can have. -/
namespace EngineBindings

/-- A field where the platform has put it. -/
structure NativeField where
  name : String
  offset : Nat
  size : Nat
  deriving DecidableEq

/-- The size and the alignment of a type. -/
structure Extent where
  size : Nat
  align : Nat
  deriving DecidableEq

/-- A structure as the platform lays it out. -/
structure NativeStruct where
  fields : List NativeField
  extent : Extent
  deriving DecidableEq

/-- The least multiple of `a` that is not below `n`. -/
def alignUp (n a : Nat) : Nat :=
  (n + (a - 1)) / a * a

namespace NativeStruct

/-- Puts a field behind those placed so far. -/
def push (s : NativeStruct) (name : String) (e : Extent) : NativeStruct :=
  let offset := alignUp s.extent.size e.align
  ⟨s.fields ++ [⟨name, offset, e.size⟩], ⟨offset + e.size, max s.extent.align e.align⟩⟩

/-- The structure with the given fields, its size rounded up to its alignment. -/
def ofFields (fields : List (String × Extent)) : NativeStruct :=
  let empty : NativeStruct := ⟨[], ⟨0, 1⟩⟩
  let s := fields.foldl (fun s field => s.push field.1 field.2) empty
  { s with extent := ⟨alignUp s.extent.size s.extent.align, s.extent.align⟩ }

/-- The field that a name means: the last one of that name. -/
def field? (s : NativeStruct) (name : String) : Option NativeField :=
  s.fields.reverse.find? (·.name = name)

end NativeStruct

/-! ### Names that a structure type keeps for itself -/

/-- Names that stand for something else than a field, which cannot take a field's place. -/
def takenFieldNames : List String :=
  ["__name__", "__qualname__", "__bases__", "__class__", "_fields_"]

/-- Names that stand for what never changes. -/
def fixedFieldNames : List String :=
  ["__base__", "__basicsize__", "__dict__", "__dictoffset__", "__flags__", "__itemsize__",
   "__mro__", "__text_signature__", "__weakrefoffset__"]

/-- The name of a list of further names, which is looked at once all fields are there. -/
def memberListName : String := "_anonymous_"

/-- Names that are called when a value is made. -/
def makingNames : List String := ["__new__", "__init__"]

/-- The name that is called when the bytes of a value are taken. -/
def bytesName : String := "__bytes__"

/-- A name as the name of a native field. -/
def fieldName (name : Name) : Except ValueFault String :=
  match name.text? with
  | none => .error .nameNotText
  | some text =>
    if takenFieldNames.contains text then .error .takenFieldName
    else if fixedFieldNames.contains text then .error .fixedFieldName
    else .ok text

/-- The names of a structure's fields. -/
def fieldNames (names : List Name) : Except ValueFault (List String) := do
  let texts ← names.mapM fieldName
  if texts.contains memberListName then throw .takenFieldName else return texts

/-- A name as the name of a structure type. -/
def structName (name : Name) : Except ValueFault String :=
  match name.text? with
  | none => .error .nameNotText
  | some text => if text.toList.contains (Char.ofNat 0) then .error .badStructName else .ok text

/-- The most bytes that a value can have. -/
def maxValueSize : Nat := Number.twoPow 40

/-- The zero value of a structure. -/
def NativeStruct.zero (s : NativeStruct) : Except ValueFault (List UInt8) :=
  if s.fields.any fun f => (bytesName :: makingNames).contains f.name then .error .takenFieldName
  else if s.extent.size ≥ maxValueSize then .error .outOfMemory
  else .ok (List.replicate s.extent.size 0)

/-! ### Structures of value types -/

/-- The extent of a scalar. -/
def Scalar.extent (s : Scalar) : Extent := ⟨s.size, s.size⟩

/-- The extent of the scalar of a given name; what no scalar is called takes no room. -/
def scalarExtent (name : Name) : Extent :=
  ((name.text?.bind Scalar.ofName?).map Scalar.extent).getD ⟨0, 1⟩

/-- The extent of an array of bytes. -/
def bytesExtent (count : Int) : Except ValueFault Extent :=
  if count ≥ Number.twoPow 63 ∨ count < -Number.twoPow 63 then .error .lengthTooLarge
  else if count < 0 then .error .negativeLength
  else .ok ⟨count.toNat, 1⟩

namespace Registry

/-- Checks that the platform agrees with a layout on its size and on every field's offset. -/
def checkNative (l : Layout Int) (s : NativeStruct) : Except Fault Unit :=
  if (s.extent.size : Int) ≠ l.size then
    .error (.ofLayout (.sizeMismatch l.name.display s.extent.size l.size))
  else
    let place (f : LayoutField Int) : Option Int :=
      (f.name.text?.bind s.field?).map (Int.ofNat ·.offset)
    match l.fields.find? fun f => place f ≠ some f.offset with
    | some f => .error (.ofLayout (.misaligned l.name.display f.name.display f.offset))
    | none => .ok ()

/-- The native structure of a value type that lies inside the types of `inside`. -/
def structTypeInside (r : Registry) :
    (fuel : Nat) → (inside : List Name) → Name → Except Fault NativeStruct
  | 0, _, _ => .error (.value .selfNesting)
  | fuel + 1, inside, name =>
    if inside.contains name then .error (.value .selfNesting)
    else do
      let layout ← r.layout name
      let specs ← layout.specs.mapError .ofLayout
      let extents ← specs.mapM fun spec =>
        match spec.content with
        | .scalar type => pure (scalarExtent type)
        | .nested type =>
          (r.structTypeInside fuel (name :: inside) (type.getD default)).map (·.extent)
        | .bytes count => (bytesExtent count).mapError .value
      let _ ← (structName layout.host).mapError .value
      let names ← (fieldNames (specs.map (·.name))).mapError .value
      let native := NativeStruct.ofFields (names.zip extents)
      checkNative layout native
      return native

/-- The native structure of a value type. -/
def structType (r : Registry) (name : Name) : Except Fault NativeStruct :=
  r.structTypeInside (r.sizes.entries.length + 2) [] name

end Registry

end EngineBindings
