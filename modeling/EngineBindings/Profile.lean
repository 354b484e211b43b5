import EngineBindings.Name
import EngineBindings.Scalar
import EngineBindings.Text.Segment

/-! Build configurations.

The engine is built in four configurations, which differ in the widths of whole numbers,
floating point numbers and pointers that carry no width of their own. -/
namespace EngineBindings

/-- A build configuration and its widths. -/
structure Profile where
  name : String
  intWidth : Width
  floatWidth : Width
  pointerWidth : Width
  deriving DecidableEq

namespace Profile

/-- The build configurations. -/
def all : List Profile :=
  [⟨"float_32", .w32, .w32, .w32⟩, ⟨"float_64", .w64, .w64, .w64⟩,
   ⟨"double_32", .w32, .w64, .w32⟩, ⟨"double_64", .w64, .w64, .w64⟩]

/-- The configuration that is meant when none is named. -/
def defaultName : String := "float_64"

/-- The names of the configurations, in ascending order. -/
def names : List String :=
  Text.sortTexts (all.map (·.name))

/-- The configuration of a given name. -/
def named (name : String) : Except SchemaFault Profile :=
  match all.find? (·.name = name) with
  | some profile => .ok profile
  | none => .error (.unknownConfiguration name (Text.join ", " names))

/-- The configuration that a value names, which has to be a text. -/
def ofName (name : Name) : Except Fault Profile := do
  match (← name.keyed.mapError .value).text? with
  | some text => (named text).mapError .schema
  | none => throw (.schema (.unknownConfiguration name.display (Text.join ", " names)))

end Profile

end EngineBindings
