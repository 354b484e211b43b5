import EngineBindings.Files.Write
import EngineBindings.Json.Basic

/-! Choices for writing a file that a document gives.

A choice may be a value of any kind. Truth values are taken as such values go, access rights are
whole numbers and an encoding is a name; where nothing is named the system chooses. A value of
another kind is refused when the choice is put to use, not before. -/
namespace EngineBindings

/-- The name of a chosen encoding. -/
def Encoding.nameGiven : Json → Except FileFault String
  | .null => .ok systemName
  | .str name => .ok name
  | _ => .error .wrongKind

/-- Chosen access rights; none if nothing is chosen. -/
def accessGiven : Json → Except FileFault (Option Int)
  | .null => .ok none
  | .bool b => .ok (some b.toInt)
  | .int mode => .ok (some mode)
  | _ => .error .wrongKind

/-- The choices that fields make. -/
def WriteOptions.ofFields (fields : List (String × Json)) : WriteOptions :=
  let d : WriteOptions := {}
  let flag (key : String) (absent : Bool) := ((Json.find? fields key).map (·.isTruthy)).getD absent
  { encoding := ((Json.find? fields "encoding").map Encoding.nameGiven).getD d.encoding
    makeParents := flag "make_parents" d.makeParents
    mode := ((Json.find? fields "mode").map accessGiven).getD d.mode
    onlyIfChanged := flag "only_if_changed" d.onlyIfChanged }

end EngineBindings
