import EngineBindings.Name
import EngineBindings.TypeRef

/-! What a schema declares.

Names are `Name`s and types are references. A few values are carried through as the document
writes them, because they are only shown again or are read where they are used: default values,
width tags, accessor names, categories. -/
namespace EngineBindings

/-- An argument of a method. -/
structure ArgumentDef where
  name : Name
  type : TypeRef
  /-- The width tag of a number, null when there is none. -/
  widthTag : Json := .null
  /-- The default value as the schema writes it, null when there is none. -/
  defaultValue : Json := .null

/-- A method of a class or of a builtin. A method with a hash is bound by it; a class method
without one is virtual. -/
structure MethodDef where
  name : Name
  arguments : List ArgumentDef := []
  returnType : Option TypeRef := none
  returnTag : Json := .null
  isStatic : Bool := false
  isVirtual : Bool := false
  isVararg : Bool := false
  isConst : Bool := false
  hash : Option Int := none

namespace MethodDef

/-- The type of the value that a method returns, if it returns one. -/
def result? (m : MethodDef) : Option TypeRef :=
  m.returnType.filter fun type => !type.isVoid

/-- How the type of the result is spelt. -/
def resultSpelling (m : MethodDef) : String :=
  match m.result? with
  | some type => type.spelling
  | none => "void"

/-- The signature that a reader sees. -/
def signature (m : MethodDef) : String :=
  m.name.display ++ "(" ++
    Text.join ", " (m.arguments.map fun a => a.name.display ++ ": " ++ a.type.spelling) ++
    ") -> " ++ m.resultSpelling

end MethodDef

/-- A property of a class, served by two of its methods. -/
structure PropertyDef where
  name : Name
  /-- The declared type, as the schema writes it. -/
  type : Json
  /-- The name of the getter, the empty text when there is none. -/
  getter : Json
  /-- The name of the setter, if there is one. -/
  setter : Option Json
  /-- What an accessor shared by several properties is told apart by. -/
  index : Option Int

/-- A member of an enumeration. -/
structure EnumValue where
  name : Name
  value : Int

/-- An enumeration or a bitfield. -/
structure EnumDef where
  name : Name
  values : List EnumValue
  isBitfield : Bool

/-- The name of an enumeration among those of its owner. -/
def EnumDef.ownedName (e : EnumDef) (owner : Name) : String :=
  owner.display ++ "." ++ e.name.display

/-- A constant of a class. -/
structure ConstantDef where
  name : Name
  value : Int

/-- An engine class. -/
structure ClassDef where
  name : Name
  /-- The name of the parent class, if there is one. -/
  parent : Option Name
  methods : List MethodDef
  properties : List PropertyDef
  enums : List EnumDef
  constants : List ConstantDef
  isRefcounted : Bool
  isInstantiable : Bool
  /-- The part of the engine that a class belongs to, as the schema writes it. -/
  apiType : Json

namespace ClassDef

/-- The first method of a given name. -/
def method? (c : ClassDef) (name : Name) : Option MethodDef :=
  c.methods.find? (·.name.equals name)

end ClassDef

/-- A named member of a builtin value type. -/
structure BuiltinMember where
  name : Name
  type : Name

/-- An operator of a builtin value type; one without a right operand is unary. -/
structure BuiltinOperator where
  name : Name
  /-- The type of the result, as the schema writes it. -/
  returnType : Json
  rightType : Option Name

/-- A builtin value type. -/
structure BuiltinDef where
  name : Name
  members : List BuiltinMember
  operators : List BuiltinOperator
  hasDestructor : Bool
  constructorCount : Nat
  enums : List EnumDef
  methods : List MethodDef

namespace BuiltinDef

/-- A builtin with members is a structure of fixed layout. -/
def isStruct (b : BuiltinDef) : Bool :=
  !b.members.isEmpty

/-- The first method of a given name. -/
def method? (b : BuiltinDef) (name : Name) : Option MethodDef :=
  b.methods.find? (·.name.equals name)

end BuiltinDef

/-- Where a member of a builtin lies in one build configuration. -/
structure MemberOffset where
  member : Name
  offset : Int
  /-- A width tag, or the name of a nested value type. -/
  content : Name

/-- A function of the engine that belongs to no class. -/
structure UtilityDef where
  name : Name
  /-- What group a function belongs to, as the schema writes it. -/
  category : Json
  arguments : List ArgumentDef
  returnType : Option TypeRef
  isVararg : Bool
  hash : Int

/-- A utility function as a static method. -/
def UtilityDef.asMethod (u : UtilityDef) : MethodDef :=
  { name := u.name, arguments := u.arguments, returnType := u.returnType, isStatic := true,
    isVararg := u.isVararg, hash := some u.hash }

/-- A structure that is declared by its format alone, as the schema writes it. -/
structure NativeStructure where
  name : Name
  format : Json

/-- A member that is left out, with the reason. -/
structure Diagnostic where
  owner : Name
  member : Name
  reason : String

/-- A diagnostic on one line. -/
def Diagnostic.text (d : Diagnostic) : String :=
  d.owner.display ++ "." ++ d.member.display ++ ": " ++ d.reason

end EngineBindings
