import EngineBindings.Json.Basic
import EngineBindings.Layout.Native
import EngineBindings.Memory.Slot

/-! Values in slots.

A slot holds a scalar or a native structure. Storing converts first: whole numbers wrap to the
width of the scalar, truth values are taken of anything, floating point numbers are rounded, and
a value of another kind is refused. Loading gives the value back as the scalar sees it; an
address of zero is no address. A structure with a field under a name that structures keep for
themselves cannot be made, filled or looked into, depending on the name. -/
namespace EngineBindings

open EngineBindings.Number

/-- A value that is stored into a slot or loaded from one. -/
inductive SlotValue where
  | missing
  | bool (value : Bool)
  | int (value : Int)
  | float (value : Binary64)
  | text (text : String)
  | bytes (bytes : List UInt8)
  | list (items : List SlotValue)
  deriving Inhabited

/-- The type of a value in a slot. -/
inductive SlotType where
  | scalar (type : Scalar)
  /-- A native structure, its fields in order of declaration. -/
  | struct (fields : List (String × SlotType))

namespace SlotValue

/-- Whether a value counts as true. -/
def isTruthy : SlotValue → Bool
  | .missing => false
  | .bool b => b
  | .int n => n != 0
  | .float x => !x.isZero
  | .text s => !s.isEmpty
  | .bytes bs => !bs.isEmpty
  | .list items => !items.isEmpty

/-- The whole number that a value is. -/
def integer? : SlotValue → Option Int
  | .bool b => some (if b then 1 else 0)
  | .int n => some n
  | _ => none

/-- A value as a floating point number. -/
def asFloat : SlotValue → Except ValueFault Binary64
  | .float x => .ok x
  | value =>
    match value.integer? with
    | some n => (Binary64.ofInt? n).elim (.error .numberTooLarge) .ok
    | none => .error .notNumeric

/-- Whether a value gives any field of a structure its value. -/
def fills : SlotValue → Bool
  | .list values => !values.isEmpty
  | _ => true

/-! ### Bytes without a type -/

/-- The most bytes that are ever made from a count. -/
def maxZeros : Int := twoPow 40

/-- A number of zero bytes. -/
def zeroBytes (count : Int) : Except ValueFault Slot.Payload :=
  if count < 0 then .error .negativeLength
  else if count ≥ twoPow 63 - 33 then .error .lengthTooLarge
  else if count ≥ maxZeros then .error .outOfMemory
  else .ok (.zeros count.toNat)

/-- One byte of a list of bytes. -/
def asByte (value : SlotValue) : Except ValueFault UInt8 :=
  match value.integer? with
  | some n => if 0 ≤ n ∧ n < 256 then .ok (UInt8.ofNat n.toNat) else .error .byteOutOfRange
  | none => .error .notNumeric

/-- The bytes that a value stands for by itself: bytes as they are, a list of bytes, or a count of
zero bytes. -/
def payload : SlotValue → Except ValueFault Slot.Payload
  | .bytes bs => .ok (.bytes bs)
  | .list items => (items.mapM asByte).map .bytes
  | value =>
    match value.integer? with
    | some count => zeroBytes count
    | none => .error .notNumeric

end SlotValue

/-! ### Scalars -/

namespace Scalar

/-- The lowest bytes of a whole number. -/
def integerBytes (width : Nat) (n : Int) : List UInt8 :=
  Memory.wordBytes width (n % twoPow (8 * width)).toNat

/-- The bytes of a value of a scalar type. -/
def encode (type : Scalar) (value : SlotValue) : Except ValueFault (List UInt8) :=
  match type with
  | .bool => .ok [if value.isTruthy then 1 else 0]
  | .int width _ =>
    match value.integer? with
    | some n => .ok (integerBytes width.bytes n)
    | none => .error .notNumeric
  | .float => value.asFloat.map fun x => Memory.wordBytes 4 x.toSingle
  | .double => value.asFloat.map fun x => Memory.wordBytes 8 x.bits.toNat
  | .pointer =>
    match value with
    | .missing => .ok (integerBytes 8 0)
    | value =>
      match value.integer? with
      | some n => .ok (integerBytes 8 n)
      | none => .error .notNumeric

/-- The number of a given width that a word spells, in the range that its sign allows. -/
def integerOfWord (width : Width) (signed : Bool) (word : Nat) : Int :=
  if signed ∧ twoPow (width.bits - 1) ≤ word then word - twoPow width.bits else word

/-- The value of a scalar type that bytes hold. -/
def decode (type : Scalar) (bytes : List UInt8) : SlotValue :=
  let word := Memory.wordValue bytes
  match type with
  | .bool => .bool (word != 0)
  | .int width signed => .int (integerOfWord width signed word)
  | .float => .float (Binary64.ofSingle word)
  | .double => .float ⟨UInt64.ofNat word⟩
  | .pointer => if word = 0 then .missing else .int word

end Scalar

/-! ### Structures -/

namespace SlotType

mutual

/-- The extent of a type. -/
def extent : SlotType → Extent
  | .scalar type => type.extent
  | .struct fields => (NativeStruct.ofFields (extents fields)).extent

/-- The extents of fields. -/
def extents : List (String × SlotType) → List (String × Extent)
  | [] => []
  | (name, type) :: rest => (name, type.extent) :: extents rest

end

/-- A field of a native structure: its type and where it lies. A name that occurs twice means the
last field of that name. -/
def placed (fields : List (String × SlotType)) (name : String) : Option (SlotType × NativeField) :=
  match fields.reverse.find? (·.1 = name), (NativeStruct.ofFields (extents fields)).field? name with
  | some (_, type), some field => some (type, field)
  | _, _ => none

/-- The bytes of a field with one value put in. -/
def putField (fields : List (String × SlotType)) (bytes : List UInt8) (name : String)
    (value : SlotValue) : Except ValueFault (List UInt8) :=
  match placed fields name with
  | some (.scalar type, field) => do
    let content ← type.encode value
    return bytes.take field.offset ++ content ++ bytes.drop (field.offset + content.length)
  | _ => .error .notAStructure

/-- The bytes of a structure whose first fields have the given values and all others are zero. -/
def structureBytes (fields : List (String × SlotType)) (values : List SlotValue) :
    Except ValueFault (List UInt8) :=
  if values.length > fields.length then .error .tooManyValues
  else
    (fields.zip values).foldlM (fun bytes entry => putField fields bytes entry.1.1 entry.2)
      (List.replicate (SlotType.struct fields).extent.size 0)

/-- The bytes of a value of a type. A list gives the values of a structure's first fields, any
other value that of the first one. -/
def encode (type : SlotType) (value : SlotValue) : Except ValueFault (List UInt8) :=
  match type, value with
  | .scalar type, value => type.encode value
  | .struct fields, .list values => structureBytes fields values
  | .struct fields, value => structureBytes fields [value]

end SlotType

/-! ### Names that structures keep for themselves -/

/-- The name that all fields are looked up through. -/
def lookupName : String := "__getattribute__"

/-- The name that all fields are set through. -/
def assignmentName : String := "__setattr__"

/-- The name that a structure is made from bytes through. -/
def copyName : String := "from_buffer_copy"

namespace SlotType

/-- Whether a structure has a field of a given name. -/
def hasField (name : String) : SlotType → Bool
  | .scalar _ => false
  | .struct fields => fields.any (·.1 = name)

mutual

/-- Checks that a type can be made: inner structures first, then the names of a structure. -/
def checkNames : SlotType → Except ValueFault Unit
  | .scalar _ => .ok ()
  | .struct fields => do
    checkFields fields
    let _ ← fieldNames (fields.map fun f => (f.1 : Name))

/-- Checks that the types of fields can be made. -/
def checkFields : List (String × SlotType) → Except ValueFault Unit
  | [] => .ok ()
  | (_, type) :: rest => do
    type.checkNames
    checkFields rest

end

mutual

/-- Whether every field of a type can be looked up. -/
def isReadable : SlotType → Bool
  | .scalar _ => true
  | .struct fields => !(SlotType.struct fields).hasField lookupName && areReadable fields

/-- Whether every field of the types of fields can be looked up. -/
def areReadable : List (String × SlotType) → Bool
  | [] => true
  | (_, type) :: rest => type.isReadable && areReadable rest

end

/-- The bytes of a value that is made through the names of its type. -/
def make (type : SlotType) (value : SlotValue) : Except ValueFault (List UInt8) := do
  if makingNames.any (type.hasField ·) then throw .takenFieldName
  if type.hasField assignmentName && value.fills then throw .takenFieldName
  let bytes ← type.encode value
  if type.hasField bytesName then throw .takenFieldName else return bytes

end SlotType

/-! ### Loading and storing -/

/-- What a slot holds. -/
inductive Loaded where
  | scalar (value : SlotValue)
  | struct (fields : List (String × Loaded))

/-- Every name with the last value of that name. -/
def lastOfName (entries : List (String × Loaded)) : List (String × Loaded) :=
  entries.map fun entry => (entries.reverse.find? (·.1 = entry.1)).getD entry

namespace SlotType

mutual

/-- The value of a type that bytes hold. -/
def decode : SlotType → List UInt8 → Loaded
  | .scalar type, bytes => .scalar (type.decode bytes)
  | .struct fields, bytes =>
    .struct (lastOfName
      (decodeFields fields (NativeStruct.ofFields (extents fields)).fields bytes))

/-- The values of fields that lie at the given places. -/
def decodeFields :
    List (String × SlotType) → List NativeField → List UInt8 → List (String × Loaded)
  | (name, type) :: rest, field :: places, bytes =>
    (name, type.decode ((bytes.drop field.offset).take field.size)) ::
      decodeFields rest places bytes
  | _, _, _ => []

end

end SlotType

namespace Slot

/-- The value at the slot's start. -/
def load (s : Slot) (m : Memory) (type : SlotType) : Except Fault Loaded := do
  type.checkNames.mapError .value
  let bytes ← (s.read m (some type.extent.size) 0).mapError .ofSlot
  if type.hasField copyName || !type.isReadable then throw (.value .takenFieldName)
  return type.decode bytes

/-- Stores a value at the slot's start, as a value of the given type or as the bytes that it
stands for by itself. -/
def store (s : Slot) (m : Memory) (type : Option SlotType) (value : SlotValue) :
    Except Fault Memory := do
  let payload ← (match type with
    | some type => do
      type.checkNames
      return Payload.bytes (← type.make value)
    | none => value.payload).mapError .value
  (s.write m payload 0).mapError .ofSlot

end Slot

end EngineBindings
