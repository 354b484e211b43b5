import EngineBindings.Insertion
import EngineBindings.Json.Operand
import EngineBindings.Layout.Basic

/-! Layouts that a document spells out.

A document may give a layout directly: a name, a size and fields, each a list of up to five parts.
Places and sizes are numbers of any kind then. They are looked at in the order of the offsets, so
that a field that overlaps the one before it is refused before its own size is looked at. -/
namespace EngineBindings

open EngineBindings.Number (Quantity)

/-- A value that may be left out. -/
def Json.name? : Json → Option Name
  | .null => none
  | value => some ⟨value⟩

/-- A quantity as a document writes it. -/
def Number.Quantity.toJson : Quantity → Json
  | truth b => .bool b
  | whole n => .int n
  | real x => .float x

namespace Layout

/-- A field from its parts, of which the last two may be left out. -/
def givenField (parts : Json) : Except Fault (LayoutField Json) := do
  match ← parts.elements with
  | [name, offset, size] => return ⟨⟨name⟩, offset, size, none, none⟩
  | [name, offset, size, scalar] => return ⟨⟨name⟩, offset, size, scalar.name?, none⟩
  | [name, offset, size, scalar, nested] =>
    return ⟨⟨name⟩, offset, size, scalar.name?, nested.name?⟩
  | _ => throw (.value .wrongPartCount)

/-- A layout from its name, its size and the parts of its fields. -/
def given (name size fields : Json) : Except Fault (Layout Json) := do
  return ⟨⟨name⟩, ⟨name⟩, size, ← (← fields.elements).mapM givenField⟩

/-- Refuses two quantities that have no sum and no difference. -/
def checkCombined (a b : Quantity) : Except Fault Unit :=
  if a.canCombine b then .ok () else .error (.value .numberTooLarge)

/-- Fields in order, with numbers for sizes, and the size of the layout. Each field has to start
where the one before it ends, or behind that. -/
def measuredFields (layout : Name) (size : Json) :
    (cursor : Quantity) → List (LayoutField Json × Quantity) →
      Except Fault (List (LayoutField Quantity) × Quantity)
  | cursor, [] => do
    let size ← size.quantity
    if cursor < size then checkCombined size cursor
    return ([], size)
  | cursor, (f, offset) :: rest => do
    if offset < cursor then
      throw (.ofLayout (.overlap layout.display f.name.display offset))
    if cursor < offset then checkCombined offset cursor
    let length ← f.size.quantity
    checkCombined offset length
    let (fields, size) ← measuredFields layout size (offset + length) rest
    return (⟨f.name, offset, length, f.scalar, f.nested⟩ :: fields, size)

/-- An entry of a covered layout as a document writes it. -/
def spelledSpec (spec : FieldSpec Quantity) : FieldSpec Json :=
  ⟨spec.name, match spec.content with
    | .scalar type => .scalar type
    | .nested type => .nested type
    | .bytes count => .bytes count.toJson⟩

/-- Entries that cover every byte of a layout that a document spells out. -/
def givenSpecs (l : Layout Json) : Except Fault (List (FieldSpec Json)) := do
  if l.isOpaque then
    return if l.size.isTruthy then [⟨("_opaque" : String), .bytes l.size⟩] else []
  let offsets ← l.fields.mapM (·.offset.quantity)
  let sorted := sortByInsertion (fun a b => a.2.isBelow b.2) (l.fields.zip offsets)
  let (fields, size) ← measuredFields l.name l.size 0 sorted
  let measured : Layout Quantity := ⟨l.name, l.host, size, fields⟩
  return (← (measured.cover 0 fields).mapError .ofLayout).map spelledSpec

end Layout

end EngineBindings
