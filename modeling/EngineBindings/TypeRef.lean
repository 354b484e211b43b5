import EngineBindings.Fault
import EngineBindings.Text.Segment

/-! References to types, and reading them from their spellings.

A schema spells a type as a text. The spelling is read once, into one of the variants below;
nothing later looks at its prefix again. `spelling` gives the text back.

A spelling is stripped of blanks. A prefix decides for enumerations, bitfields and typed arrays,
whose element is again a spelling; then a star marks a raw pointer, and a plain name is looked
up: primitives first, then engine classes (so that a class stays a handle where a builtin of the
same name has a size), builtin values, native structures. -/
namespace EngineBindings

open EngineBindings.Text

/-- The types that have no declaration. -/
inductive Primitive where
  | int
  | float
  | real
  | bool
  | void
  deriving DecidableEq

namespace Primitive

/-- How a primitive is spelt. -/
def name : Primitive → String
  | int => "int"
  | float => "float"
  | real => "real"
  | bool => "bool"
  | void => "void"

/-- The primitive of a given spelling. -/
def ofName? (name : String) : Option Primitive :=
  [int, float, real, bool, void].find? (·.name = name)

theorem ofName?_name (p : Primitive) : ofName? p.name = some p := by
  cases p <;> decide

end Primitive

/-- A reference to a type. -/
inductive TypeRef where
  | primitive (type : Primitive)
  /-- A builtin value type. -/
  | value (name : String)
  /-- An engine class, which crosses the interface as a handle. -/
  | object (name : String)
  | enum (name : String)
  | bitfield (name : String)
  | typedArray (element : TypeRef)
  /-- A raw pointer or a native structure. -/
  | pointer (spelling : String)
  /-- A name that belongs to no variant. -/
  | bare (name : String)
  deriving DecidableEq

namespace TypeRef

/-- The text that a schema spells a type with. -/
def spelling : TypeRef → String
  | primitive type => type.name
  | value name => name
  | object name => name
  | enum name => "enum::" ++ name
  | bitfield name => "bitfield::" ++ name
  | typedArray element => "typedarray::" ++ element.spelling
  | pointer spelling => spelling
  | bare name => name

/-- The name of a type; for a typed array the spelling of its element. -/
def name : TypeRef → String
  | enum name => name
  | bitfield name => name
  | typedArray element => element.spelling
  | type => type.spelling

/-- Whether a raw pointer occurs in a type. -/
def containsPointer : TypeRef → Bool
  | typedArray element => element.containsPointer
  | pointer _ => true
  | _ => false

/-- The type of no value at all. -/
def isVoid (type : TypeRef) : Bool :=
  type = primitive .void

end TypeRef

/-! ### Reading spellings -/

/-- The names that a plain spelling can mean. -/
structure KnownNames where
  classes : List String
  builtins : List String
  natives : List String

/-- The prefix of an enumeration's spelling. -/
def enumPrefix : List Char := ['e', 'n', 'u', 'm', ':', ':']

/-- The prefix of a bitfield's spelling. -/
def bitfieldPrefix : List Char := ['b', 'i', 't', 'f', 'i', 'e', 'l', 'd', ':', ':']

/-- The prefix of a typed array's spelling. -/
def typedArrayPrefix : List Char :=
  ['t', 'y', 'p', 'e', 'd', 'a', 'r', 'r', 'a', 'y', ':', ':']

namespace KnownNames

/-- The type of a spelling that has no prefix and no blanks at its ends. -/
def resolveName (names : KnownNames) (place s : String) : Except SchemaFault TypeRef :=
  if s.toList.contains '*' then .ok (.pointer s)
  else
    match Primitive.ofName? s with
    | some type => .ok (.primitive type)
    | none =>
      if names.classes.contains s then .ok (.object s)
      else if names.builtins.contains s then .ok (.value s)
      else if names.natives.contains s then .ok (.pointer s)
      else .error (.unknownType place s)

/-- The type that a list of characters spells. -/
def resolveChars (names : KnownNames) (place : String) (cs : List Char) :
    Except SchemaFault TypeRef :=
  if (stripChars cs).isEmpty then .error (.noTypeText place)
  else
    match dropPrefix? enumPrefix (stripChars cs) with
    | some name => .ok (.enum (String.ofList name))
    | none =>
      match dropPrefix? bitfieldPrefix (stripChars cs) with
      | some name => .ok (.bitfield (String.ofList name))
      | none =>
        match _h : dropPrefix? typedArrayPrefix (stripChars cs) with
        | some element => (names.resolveChars place element).map .typedArray
        | none => names.resolveName place (String.ofList (stripChars cs))
termination_by cs.length
decreasing_by
  have hp := length_of_dropPrefix? _h
  have hs := length_stripChars_le cs
  simp only [typedArrayPrefix, List.length_cons, List.length_nil] at hp
  omega

/-- How many typed arrays a list of characters puts inside one another. -/
def nesting (cs : List Char) : Nat :=
  match _h : dropPrefix? typedArrayPrefix (stripChars cs) with
  | some element => nesting element + 1
  | none => 0
termination_by cs.length
decreasing_by
  have hp := length_of_dropPrefix? _h
  have hs := length_stripChars_le cs
  simp only [typedArrayPrefix, List.length_cons, List.length_nil] at hp
  omega

/-- The type that a text spells. -/
def resolve (names : KnownNames) (place spelling : String) : Except SchemaFault TypeRef :=
  names.resolveChars place spelling.toList

end KnownNames

end EngineBindings
