import EngineBindings.Number.Quantity

/-! Why a run stops.

A fault is a cause, not a text. Faults of the schema document, of the type tables, of value
layouts, of slot accesses and of templates are told apart because a caller answers them
differently; each has its wording in one place (`Fault.message?`). The remaining causes concern
single values of a document and have no wording of their own.

What can be left out without stopping, such as a method that cannot be bound, is no fault but a
diagnostic of the class. -/
namespace EngineBindings

open EngineBindings.Number (Quantity decimal)

/-- What kind of callable lacks the hash that identifies it to the engine. -/
inductive Callable where
  | classMethod
  | builtinMethod
  | utilityFunction
  deriving DecidableEq

/-- A schema document that is missing something or contradicts itself. -/
inductive SchemaFault where
  /-- A value of the given kind stands where an object is needed. -/
  | expectedObject (place kind : String)
  | missingField (place field : String)
  | notAList (place field : String)
  | noTypeText (place : String)
  | unknownType (place spelling : String)
  | noSizes (configuration : String)
  | noHash (callable : Callable) (place : String)
  | unknownConfiguration (name known : String)
  | duplicateClass (name : String)
  | unknownParent (name parent : String)
  | inheritanceCycle (name : String)
  /-- The document in the file is no object. -/
  | notADocument (path : String)

/-- A value that the type tables have no entry for. -/
inductive MappingFault where
  | noTypecode (name : String)
  | unknownOperator (symbol : String)
  | noSize (name configuration : String)
  | unsupportedStorage (size : Int) (name : String)
  | integerWidth (tag : String)
  | floatWidth (tag : String)
  /-- A reference that carries nothing but a name. -/
  | unclassified

/-- A value type whose members do not add up to its declared size. -/
inductive LayoutFault where
  | noSize (name configuration : String)
  | unknownWidth (owner member tag : String)
  | unknownMemberType (owner member type : String)
  | overlap (layout member : String) (offset : Quantity)
  | tooLong (layout : String) (span size : Quantity)
  | sizeMismatch (name : String) (actual declared : Int)
  | misaligned (name member : String) (offset : Int)

/-- A slot access outside its bounds, or a handle that the engine does not have. -/
inductive SlotFault where
  | nullAddress
  | negativeCapacity (capacity : Quantity)
  /-- An access from one place up to another. -/
  | outOfBounds (start stop : Quantity) (capacity : Nat)
  | readOnly
  | noBinding (key : String)

/-- A value of the wrong kind for what is done with it. -/
inductive ValueFault where
  /-- A field is looked up in something that has none. -/
  | fieldOfNonObject
  /-- Something that is no text is read as one. -/
  | notText
  /-- A list or an object stands where a name is needed as a key. -/
  | compositeName
  /-- A value of another kind than text stands where a name is needed. -/
  | nameNotText
  | notNumeric
  /-- A value without items where items are needed. -/
  | notIterable
  /-- Something that is no text stands where a path is needed. -/
  | noPath
  /-- Too many or too few parts. -/
  | wrongPartCount
  /-- A list that ends too early. -/
  | missingItem
  /-- A name that a table does not have. -/
  | unknownKey
  | badNumeral
  /-- A whole number of too many digits to be written. -/
  | numeralTooLong
  | infiniteNumber
  /-- Names that have no order among each other. -/
  | unorderedNames
  /-- A header that is neither an object nor a sequence. -/
  | headerNotPairs
  /-- A list of another length than the parts that it is taken for. -/
  | wrongItemCount
  /-- A member of type `void` has no storage. -/
  | voidMember
  | negativeLength
  | lengthTooLarge
  /-- More bytes than any machine has. -/
  | outOfMemory
  /-- A number that is no byte. -/
  | byteOutOfRange
  /-- A whole number past every floating point number. -/
  | numberTooLarge
  /-- More values than a structure has fields. -/
  | tooManyValues
  /-- Something that is no structure stands where one is needed. -/
  | notAStructure
  /-- A value type that contains itself. -/
  | selfNesting
  /-- A typed array inside too many others. -/
  | tooNested
  /-- A text that cannot name a native structure. -/
  | badStructName
  /-- A count of addresses that is no numeral. -/
  | badCount
  /-- A name that a native structure keeps for itself, with a value that no field can be. -/
  | takenFieldName
  /-- A name that a native structure keeps for itself and never changes. -/
  | fixedFieldName
  deriving DecidableEq

/-- A template that cannot be rendered. -/
inductive TemplateFault where
  | notFound (name : String)
  | undefinedName
  | malformed
  /-- The template's file is no text. -/
  | undecodable
  /-- Something that no template is called. -/
  | badName (cause : ValueFault)
  deriving DecidableEq

/-- Why a run stops. -/
inductive Fault where
  | schema (cause : SchemaFault)
  | mapping (cause : MappingFault)
  | layout (cause : LayoutFault)
  | slot (cause : SlotFault)
  | template (cause : TemplateFault)
  | value (cause : ValueFault)
  /-- The engine itself fails, with a wording of its own. -/
  | engine (message : String)

namespace SchemaFault

/-- The wording of a schema fault. -/
def message : SchemaFault → String
  | expectedObject place kind => place ++ ": expected an object, got " ++ kind
  | missingField place field => place ++ ": missing required field '" ++ field ++ "'"
  | notAList place field => place ++ ": field '" ++ field ++ "' must be a list"
  | noTypeText place => place ++ ": empty or non-string type"
  | unknownType place spelling => place ++ ": unknown type '" ++ spelling ++ "'"
  | noSizes configuration =>
    "schema: no builtin_class_sizes for build configuration '" ++ configuration ++ "'"
  | noHash .classMethod place => place ++ ": non-virtual method without a binding hash"
  | noHash .builtinMethod place => place ++ ": builtin method without a binding hash"
  | noHash .utilityFunction place => place ++ ": utility function without a binding hash"
  | unknownConfiguration name known =>
    "Unknown build configuration '" ++ name ++ "' (expected one of: " ++ known ++ ")"
  | duplicateClass name => "Duplicate class name '" ++ name ++ "'"
  | unknownParent name parent =>
    "Class '" ++ name ++ "' inherits unknown class '" ++ parent ++ "'"
  | inheritanceCycle name => "Inheritance cycle through '" ++ name ++ "'"
  | notADocument path => path ++ ": top-level JSON value must be an object"

end SchemaFault

namespace MappingFault

/-- The wording of a mapping fault. -/
def message : MappingFault → String
  | noTypecode name => "No variant typecode for builtin '" ++ name ++ "'"
  | unknownOperator symbol => "Unknown operator symbol '" ++ symbol ++ "'"
  | noSize name configuration => "No builtin size for '" ++ name ++ "' in " ++ configuration
  | unsupportedStorage size name =>
    "Unsupported storage size " ++ decimal size ++ " for builtin '" ++ name ++ "'"
  | integerWidth tag => "Unknown integer width metadata '" ++ tag ++ "'"
  | floatWidth tag => "Unknown float width metadata '" ++ tag ++ "'"
  | unclassified => "Unhandled type reference variant TypeRef"

end MappingFault

namespace LayoutFault

/-- The wording of a layout fault. -/
def message : LayoutFault → String
  | noSize name configuration =>
    "No declared byte size for builtin '" ++ name ++ "' in " ++ configuration
  | unknownWidth owner member tag =>
    owner ++ "." ++ member ++ ": unknown member metadata '" ++ tag ++ "'"
  | unknownMemberType owner member type =>
    owner ++ "." ++ member ++ ": unknown member type '" ++ type ++ "'"
  | overlap layout member offset =>
    layout ++ "." ++ member ++ ": overlaps previous member at offset " ++ offset.text
  | tooLong layout span size =>
    layout ++ ": members span " ++ span.text ++ " bytes, declared size is " ++ size.text
  | sizeMismatch name actual declared =>
    name ++ ": ctypes size " ++ decimal actual ++ " != declared size " ++ decimal declared
  | misaligned name member offset =>
    name ++ "." ++ member ++ ": misaligned member at offset " ++ decimal offset

/-- The numbers that the wording of a layout fault holds. -/
def numbers : LayoutFault → List Quantity
  | overlap _ _ offset => [offset]
  | tooLong _ span size => [span, size]
  | sizeMismatch _ actual declared => [.whole actual, .whole declared]
  | misaligned _ _ offset => [.whole offset]
  | _ => []

end LayoutFault

namespace SlotFault

/-- The wording of a slot fault. -/
def message : SlotFault → String
  | nullAddress => "Null slot address"
  | negativeCapacity capacity => "Negative slot capacity " ++ capacity.text
  | outOfBounds start stop capacity =>
    "Slot access [" ++ start.text ++ ":" ++ stop.text ++ "] exceeds capacity " ++ decimal capacity
  | readOnly => "Slot is read-only"
  | noBinding key => "Engine returned no binding for " ++ key

/-- The numbers that the wording of a slot fault holds. -/
def numbers : SlotFault → List Quantity
  | negativeCapacity capacity => [capacity]
  | outOfBounds start stop capacity => [start, stop, .whole capacity]
  | _ => []

end SlotFault

namespace Fault

/-- A fault with a wording that holds numbers. A number too long to be written takes its place. -/
def worded (numbers : List Quantity) (cause : Fault) : Fault :=
  if numbers.all Quantity.isWritable then cause else value .numeralTooLong

/-- A layout fault. -/
def ofLayout (cause : LayoutFault) : Fault :=
  worded cause.numbers (layout cause)

/-- A slot fault. -/
def ofSlot (cause : SlotFault) : Fault :=
  worded cause.numbers (slot cause)

/-- The wording of a fault, for the causes that have one. -/
def message? : Fault → Option String
  | schema cause => some cause.message
  | mapping cause => some cause.message
  | layout cause => some cause.message
  | slot cause => some cause.message
  | template (.notFound name) => some ("Template not found: " ++ name)
  | template _ => none
  | value _ => none
  | engine message => some message

end Fault

end EngineBindings
