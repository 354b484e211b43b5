import EngineBindings.Json.Operand
import EngineBindings.Profile
import EngineBindings.Schema.Model
import EngineBindings.TypeRef

/-! The registry: the declarations of one build configuration and the look-ups over them.

A registry is built once (`Registry.build`) and only read afterwards. Class names are distinct
in it, every named parent is declared, and no class inherits from itself. Enumerations share one
table, keyed by their own name when global and by `Owner.Name` otherwise. -/
namespace EngineBindings

/-- The declarations of one build configuration. -/
structure Registry where
  profile : Profile
  classes : List ClassDef
  builtins : List BuiltinDef
  globalEnums : List EnumDef
  utilities : List UtilityDef
  natives : List NativeStructure
  /-- What the document says about itself. -/
  header : OrderedMap Name Json
  /-- The declared sizes of builtins, in bytes. -/
  sizes : OrderedMap Name Int
  /-- The declared member offsets of builtins. -/
  offsets : OrderedMap Name (List MemberOffset)
  /-- Every enumeration under the name that references use. -/
  enums : OrderedMap Name EnumDef

/-- The names that a type spelling can mean, among those of declarations: a spelling is a text. -/
def KnownNames.ofNames (classes builtins natives : List Name) : KnownNames where
  classes := classes.filterMap Name.text?
  builtins := builtins.filterMap Name.text?
  natives := natives.filterMap Name.text?

/-- The names that a type spelling can mean, given as items of values. -/
def KnownNames.given (classes builtins natives : Json) : Except Fault KnownNames := do
  return .ofNames (← classes.keyedElements) (← builtins.keyedElements)
    (← natives.keyedElements)

namespace Registry

/-- The class of a given name. -/
def class? (r : Registry) (name : Name) : Option ClassDef :=
  r.classes.find? (·.name == name)

/-- The builtin of a given name; the last declaration counts. -/
def builtin? (r : Registry) (name : Name) : Option BuiltinDef :=
  r.builtins.reverse.find? (·.name == name)

/-- The enumeration that a reference names. -/
def enum? (r : Registry) (name : Name) : Option EnumDef :=
  r.enums.find? name

/-- The declared size of a builtin, in bytes. -/
def size? (r : Registry) (name : Name) : Option Int :=
  r.sizes.find? name

/-- The declared offsets of a builtin's members. -/
def memberOffsets (r : Registry) (name : Name) : List MemberOffset :=
  (r.offsets.find? name).getD []

/-- A name whose values live in memory of their own: a builtin, or a sized name that is no
class. -/
def isCoreValue (r : Registry) (name : Name) : Bool :=
  r.builtins.any (·.name == name) || (r.sizes.contains name && (r.class? name).isNone)

/-- A class whose objects cross the interface as handles. -/
def isReference (r : Registry) (name : Name) : Bool :=
  (r.class? name).isSome && !r.isCoreValue name

/-- Whether some class names this one as its parent. -/
def hasSubclasses (r : Registry) (name : Name) : Bool :=
  r.classes.any fun c => c.parent.any (· == name)

/-- Whether a builtin is declared with members. -/
def isStruct (r : Registry) (name : Name) : Bool :=
  match r.builtin? name with
  | some builtin => builtin.isStruct
  | none => false

/-- The names that a type spelling can mean in this registry. -/
def knownNames (r : Registry) : KnownNames :=
  .ofNames (r.classes.map (·.name)) (r.builtins.map (·.name) ++ r.sizes.keys)
    (r.natives.map (·.name))

end Registry

/-! ### Inheritance

Every class names at most one parent, so the ancestors of a class form a chain. Following the
chain stops at a class that has been met before; in a built registry that never happens. Parents
come first in the order in which classes are emitted, which otherwise is the order of
declaration. -/

/-- The chain of parents above `name` among `classes`, nearest first. `seen` holds the names met
so far. A chain that meets a name again is refused, and one that does not is no longer than the
list of classes. -/
def ancestorsAmong (classes : List ClassDef) :
    (fuel : Nat) → (seen : List Name) → (name : Name) → Except SchemaFault (List Name)
  | 0, _, name => .error (.inheritanceCycle name.display)
  | fuel + 1, seen, name =>
    match (classes.find? (·.name == name)).bind (·.parent) with
    | none => .ok []
    | some parent =>
      if seen.contains parent then .error (.inheritanceCycle parent.display)
      else (ancestorsAmong classes fuel (parent :: seen) parent).map (parent :: ·)

/-- The chain of parents above a class, nearest first. -/
def ancestorsOf (classes : List ClassDef) (name : Name) : Except SchemaFault (List Name) :=
  ancestorsAmong classes (classes.length + 2) [name] name

/-- Places a class behind its ancestors, unless it has been placed. -/
def placeClass (classes : List ClassDef) :
    (fuel : Nat) → (placed : List ClassDef) → ClassDef → List ClassDef
  | 0, placed, _ => placed
  | fuel + 1, placed, c =>
    if placed.any (·.name == c.name) then placed
    else
      let above :=
        match c.parent.bind fun parent => classes.find? (·.name == parent) with
        | none => placed
        | some parent => placeClass classes fuel placed parent
      above ++ [c]

namespace Registry

/-- The chain of parents above a class, nearest first. -/
def ancestors (r : Registry) (name : Name) : Except SchemaFault (List Name) :=
  ancestorsOf r.classes name

/-- The classes with every parent before its children, in the order of declaration otherwise. -/
def parentFirst (r : Registry) : List ClassDef :=
  r.classes.foldl (placeClass r.classes (r.classes.length + 1)) []

end Registry

end EngineBindings
