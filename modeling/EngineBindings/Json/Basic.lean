import EngineBindings.Fault
import EngineBindings.Number.Shortest
import EngineBindings.OrderedMap
import EngineBindings.Text.Quoted

/-! Documents.

A schema arrives as a document of nested lists and objects. Whole numbers and floating point
numbers are kept apart, and an object keeps the order of its fields, since both show in what is
made from them. Besides the look-up of fields this module says when a value counts as given
(`isTruthy`), how it is read as a whole number (`integer`) and how it is shown inside a message
(`display`). -/
namespace EngineBindings

/-- A document, or a part of one. -/
inductive Json where
  | null
  | bool (value : Bool)
  | int (value : Int)
  | float (value : Number.Binary64)
  | str (text : String)
  | arr (items : List Json)
  | obj (fields : List (String × Json))

namespace Json

instance : Inhabited Json := ⟨.null⟩

/-! ### Fields and kinds -/

/-- The value of a field of an object, if it has the field. -/
def find? (fields : List (String × Json)) (key : String) : Option Json :=
  (fields.find? (·.1 = key)).map (·.2)

/-- The text of a value that is one. -/
def text? : Json → Option String
  | .str s => some s
  | _ => none

/-- Lists and objects. -/
def isComposite : Json → Bool
  | .arr _ => true
  | .obj _ => true
  | _ => false

/-- The name of a value's kind, as messages give it. -/
def kindName : Json → String
  | .null => "NoneType"
  | .bool _ => "bool"
  | .int _ => "int"
  | .float _ => "float"
  | .str _ => "str"
  | .arr _ => "list"
  | .obj _ => "dict"

/-- Whether a value counts as given: not null, not false, not zero and not empty. -/
def isTruthy : Json → Bool
  | .null => false
  | .bool b => b
  | .int i => i != 0
  | .float x => !x.isZero
  | .str s => !s.isEmpty
  | .arr items => !items.isEmpty
  | .obj fields => !fields.isEmpty

/-! ### Whole numbers -/

/-- A value read as a whole number: truth values count as zero and one, a floating point number
loses its fraction, and a text must be a numeral. -/
def integer : Json → Except ValueFault Int
  | .bool b => .ok (if b then 1 else 0)
  | .int i => .ok i
  | .float x =>
    if x.isNaN then .error .badNumeral
    else if x.isInfinite then .error .infiniteNumber
    else .ok x.truncate
  | .str s => (Number.integer? s).elim (.error .badNumeral) .ok
  | .null => .error .notNumeric
  | .arr _ => .error .notNumeric
  | .obj _ => .error .notNumeric

/-! ### Values inside messages and tables -/

mutual

/-- A value as a table spells it: texts in quotes, lists in brackets, objects in braces. -/
def literal : Json → String
  | .null => "None"
  | .bool b => if b then "True" else "False"
  | .int i => Number.decimal i
  | .float x => x.text Number.Binary64.plainSpelling
  | .str s => Text.quoted s
  | .arr items => "[" ++ Text.join ", " (literals items) ++ "]"
  | .obj fields => "\x7b" ++ Text.join ", " (fieldLiterals fields) ++ "\x7d"

/-- Each of several values as a table spells it. -/
def literals : List Json → List String
  | [] => []
  | item :: rest => literal item :: literals rest

/-- The fields of an object as a table spells them. -/
def fieldLiterals : List (String × Json) → List String
  | [] => []
  | (key, value) :: rest => (Text.quoted key ++ ": " ++ literal value) :: fieldLiterals rest

end

/-- A value inside a message: a text as it is, anything else as a table spells it. -/
def display : Json → String
  | .str s => s
  | value => value.literal

end Json

end EngineBindings
