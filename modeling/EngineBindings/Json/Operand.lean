import EngineBindings.Name

/-! Values of a document as operands.

Whoever calls a rule from outside may hand it a value of any kind. A rule that needs a number
takes truth values too, one that goes through items takes a text for its characters and an object
for the names of its fields, and what has no items, no letters or no number is refused. -/
namespace EngineBindings

open EngineBindings.Number (Quantity)

namespace Json

/-- A value as a number. -/
def quantity : Json → Except Fault Quantity
  | .bool b => .ok (.truth b)
  | .int n => .ok (.whole n)
  | .float x => .ok (.real x)
  | _ => .error (.value .notNumeric)

/-- A value as a whole number, which a floating point number is not. -/
def count (value : Json) : Except Fault Int := do
  (← value.quantity).integer?.elim (.error (.value .notNumeric)) .ok

/-- A value as a text. -/
def asText : Json → Except Fault String
  | .str s => .ok s
  | _ => .error (.value .notText)

/-- The items of a value. -/
def elements : Json → Except Fault (List Json)
  | .arr items => .ok items
  | .str s => .ok ((Text.codesOf s).map fun code => .str (Text.ofCodes [code]))
  | .obj fields => .ok (fields.map fun field => .str field.1)
  | _ => .error (.value .notIterable)

/-- The items of a value, which has none if it is not given. -/
def givenElements (value : Json) : Except Fault (List Json) :=
  if value.isTruthy then value.elements else .ok []

/-- The items of a value as names that something is looked up by. -/
def keyedElements (value : Json) : Except Fault (List Name) := do
  (← value.elements).mapM fun item => (Name.keyed ⟨item⟩).mapError .value

/-- A value as the text of a path. -/
def asPath : Json → Except Fault String
  | .str s => .ok s
  | _ => .error (.value .noPath)

/-- Whether a name is among the items of a value. In a text a text may be any part. -/
def holds (value : Json) (name : Name) : Except Fault Bool :=
  match value with
  | .str s => do
    match name.text? with
    | some text => return text.isEmpty || Text.contains s text
    | none => throw (.value .notIterable)
  | .obj fields => do
    let name ← name.keyed.mapError .value
    return fields.any fun field => name == (field.1 : Name)
  | value => do return (← value.elements).any fun item => name == ⟨item⟩

end Json

/-- Lines as a text, each that counts as given shifted right by a width. -/
def indentGiven (lines width : Json) : Except Fault String := do
  let width ← width.count
  if width ≥ Number.twoPow 63 then throw (.value .lengthTooLarge)
  if width ≥ Number.twoPow 40 then throw (.value .outOfMemory)
  let lines ← lines.elements
  return Text.indentLines (lines.map fun line => if line.isTruthy then line.display else "") width

end EngineBindings
