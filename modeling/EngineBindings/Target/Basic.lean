import EngineBindings.Registry.Basic

/-! Targets: how a type appears in emitted code and crosses the interface.

Every type maps to one target. The target knows the name that emitted code uses for the type
(`host`), the scalar that carries it (`scalar?`), if one does, and the symbol that has to be
imported to use the name (`requirements`). -/
namespace EngineBindings

/-- What a type is mapped for; it decides widths that the schema leaves open. -/
inductive TypeUse where
  /-- An argument or a result of a class method. -/
  | member
  /-- A field of a value type of fixed layout. -/
  | field
  /-- An argument or a result of a builtin method or a utility function. -/
  | builtin
  deriving DecidableEq

/-- Where emitted code gets the name of a type from. -/
inductive Origin where
  /-- The language itself. -/
  | language
  /-- The runtime module. -/
  | runtime
  /-- The core definitions. -/
  | core
  /-- The module of an engine class. -/
  | «class»
  deriving DecidableEq

/-- A symbol that emitted code has to import, and from where. -/
structure Requirement where
  origin : Origin
  symbol : String
  deriving DecidableEq

/-- Whether a symbol is the class of a given name. -/
def Requirement.isClass (q : Requirement) (name : Name) : Bool :=
  q.origin = .class && name.text? == some q.symbol

/-- How a type appears in emitted code and crosses the interface. -/
inductive Target where
  | void
  | bool
  | int (width : Width) (signed : Bool)
  | float (spelling : String) (width : Width)
  /-- The engine's text type. -/
  | string
  /-- A value of any type; the name is the one that the schema uses for it. -/
  | variant (name : String)
  /-- A builtin value, in memory of fixed layout or behind a handle. -/
  | coreValue (name : String) (isStruct : Bool)
  | object (name : String) (width : Width)
  | enum (name host : String) (owner : Option String)
  | bitfield (name host : String) (owner : Option String)
  | typedArray (element : Target) (spelling : String)
  | pointer (spelling : String) (width : Width)
  deriving DecidableEq

/-- Builtins whose name would read as a type of the emitted language. -/
def builtinRenames : List (String × String) :=
  [("String", "GString"), ("Array", "GArray"), ("Nil", "Variant")]

/-- The name of a builtin in emitted code. -/
def builtinHostName (name : String) : String :=
  (builtinRenames.lookup name).getD name

/-- The name of a builtin in emitted code, whatever the schema calls it. -/
def builtinHost (name : Name) : Name :=
  match name.text? with
  | some text => builtinHostName text
  | none => name

namespace Target

/-- The type's name in emitted code. -/
def host : Target → String
  | void => "None"
  | bool => "bool"
  | int _ _ => "int"
  | float _ _ => "float"
  | string => builtinHostName "String"
  | variant _ => "Variant"
  | coreValue name _ => builtinHostName name
  | object name _ => name
  | enum _ host _ => host
  | bitfield _ host _ => host
  | typedArray _ _ => "GodotCollection"
  | pointer _ _ => "int"

/-- The name or spelling that the schema uses. -/
def source : Target → String
  | void => "void"
  | bool => "bool"
  | int _ _ => "int"
  | float spelling _ => spelling
  | string => "String"
  | variant name => name
  | coreValue name _ => name
  | object name _ => name
  | enum name _ _ => name
  | bitfield name _ _ => name
  | typedArray _ spelling => spelling
  | pointer spelling _ => spelling

/-- The scalar that carries values of the type. -/
def scalar? : Target → Option Scalar
  | bool => some .bool
  | int width signed => some (.int width signed)
  | float _ width => some (if width = .w32 then .float else .double)
  | object _ _ => some .pointer
  | enum _ _ _ => some (.int .w64 true)
  | bitfield _ _ _ => some (.int .w64 true)
  | pointer _ _ => some .pointer
  | _ => none

/-- The width of that scalar in the build configuration, in bits; zero without one. -/
def bits : Target → Nat
  | bool => 8
  | int width _ => width.bits
  | float _ width => width.bits
  | object _ width => width.bits
  | enum _ _ _ => 64
  | bitfield _ _ _ => 64
  | pointer _ width => width.bits
  | _ => 0

/-- Whether whole numbers of the type have a sign. -/
def isSigned : Target → Bool
  | int _ signed => signed
  | _ => true

/-- The target of a typed array's elements. -/
def element? : Target → Option Target
  | typedArray element _ => some element
  | _ => none

/-- Where emitted code gets the name from. -/
def origin : Target → Origin
  | string => .runtime
  | variant _ => .runtime
  | coreValue _ isStruct => if isStruct then .core else .runtime
  | object _ _ => .class
  | enum _ _ owner => if owner.isSome then .class else .core
  | bitfield _ _ owner => if owner.isSome then .class else .core
  | typedArray _ _ => .runtime
  | _ => .language

/-- The symbol that has to be imported. -/
def symbol? : Target → Option String
  | string => some (host string)
  | variant _ => some "Variant"
  | coreValue name _ => some (builtinHostName name)
  | object name _ => some name
  | enum _ host owner => some (owner.getD host)
  | bitfield _ host owner => some (owner.getD host)
  | typedArray _ _ => some "GodotCollection"
  | _ => none

/-- A builtin of fixed layout. -/
def isStruct : Target → Bool
  | coreValue _ isStruct => isStruct
  | _ => false

/-- Truth values and numbers. -/
def isScalar : Target → Bool
  | bool => true
  | int _ _ => true
  | float _ _ => true
  | _ => false

/-- Enumerations and bitfields. -/
def isEnumeration : Target → Bool
  | enum _ _ _ => true
  | bitfield _ _ _ => true
  | _ => false

/-- Engine objects. -/
def isObject : Target → Bool
  | object _ _ => true
  | _ => false

/-- How the type is written in a signature. -/
def annotation : Target → String
  | object name _ => "Optional[" ++ name ++ "]"
  | typedArray element _ => "GodotCollection[" ++ element.host ++ "]"
  | target => target.host

/-- A description for readers. -/
def describe : Target → String
  | int width signed =>
    Number.decimal width.bits ++ (if signed then "-bit signed integer" else "-bit unsigned integer")
  | float _ width => Number.decimal width.bits ++ "-bit float"
  | typedArray element _ => "collection of " ++ element.describe
  | void => "void None"
  | bool => "bool bool"
  | string => "string " ++ string.host
  | variant _ => "variant Variant"
  | coreValue name _ => "core_value " ++ builtinHostName name
  | object name _ => "object " ++ name
  | enum _ host _ => "enum " ++ host
  | bitfield _ host _ => "bitfield " ++ host
  | pointer _ _ => "pointer int"

/-- The symbol of a target itself, without those of its elements. -/
def ownRequirements (t : Target) : List Requirement :=
  match t.symbol? with
  | some symbol =>
    if symbol.isEmpty || t.origin = .language then [] else [⟨t.origin, symbol⟩]
  | none => []

/-- The symbols that emitted code has to import to name a type. -/
def requirements : Target → List Requirement
  | typedArray element spelling =>
    ownRequirements (typedArray element spelling) ++ element.requirements
  | target => target.ownRequirements

end Target

end EngineBindings
