import EngineBindings.Code.Basic
import EngineBindings.Target.Mapping

/-! Zero values.

Every type has an expression for its zero value. Emitted code puts it into the storage of a
result before a call writes there, and returns it from virtual methods that are not overridden. -/
namespace EngineBindings

open EngineBindings.Code EngineBindings.Text

namespace Registry

/-- The zero value of an enumeration. Zero itself, unless the enumeration has members and none
of them is zero: then only a declared member is a value, and the first stands in. -/
def enumDefault (r : Registry) (name : String) : Except ValueFault Expr :=
  match enumRenames.lookup name, enumZeroMembers.lookup name with
  | some host, some member => .ok (.attr (.name host) member)
  | _, _ =>
    let host := Expr.name (r.enumHostName name)
    match (r.enum? name).map (·.values) with
    | some (first :: rest) =>
      if (first :: rest).any (·.value = 0) then .ok (.invoke host [.literal "0"])
      else first.name.sanitize.map (.attr host)
    | _ => .ok (.invoke host [.literal "0"])

/-- The zero value of a type. -/
def defaultValue (r : Registry) : TypeRef → Except Fault Expr
  | .primitive .int => .ok (.literal "0")
  | .primitive .float => .ok (.literal "0.0")
  | .primitive .real => .ok (.literal "0.0")
  | .primitive .bool => .ok (.literal "False")
  | .primitive .void => .ok .none
  | .enum name => (r.enumDefault name).mapError .value
  | .bitfield name => .ok (.apply (r.enumHostName name) [.literal "0"])
  | .typedArray element => do
    let target ← r.target element .null .member
    return .apply "GodotCollection" [.name target.host]
  | .object name => .ok (.call (.name name) (.cons (some "fast") (.literal "True") .nil))
  | .value name =>
    if name = "Nil" ∨ name = "Variant" then .ok (.apply "Variant" [])
    else .ok (.apply (builtinHostName name) [])
  | .pointer _ => .ok .none
  | .bare _ => .ok .none

/-- Raw storage that the engine can write a builtin into, by the builtin's size. -/
def storage (r : Registry) (name : Name) : Except Fault Expr := do
  let size ← r.requireSize name
  if size = 0 ∨ size = 4 then return .invoke (.native "c_int32") [.literal "0"]
  else if size = 8 then return .invoke (.native "c_int64") [.literal "0"]
  else if size = 16 then return .invoke (.cells (.native "c_int64") 2) []
  else throw (.mapping (.unsupportedStorage size name.display))

end Registry

end EngineBindings
