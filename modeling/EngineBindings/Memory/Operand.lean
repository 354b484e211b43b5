import EngineBindings.Json.Operand
import EngineBindings.Memory.Slot

/-! Slot accesses whose operands a document gives.

Places and sizes in a document need not be whole numbers. Any number can be compared with the
bounds of a slot, and an access out of bounds is refused as such; inside the bounds only whole
numbers name bytes. What is no number at all is refused first. -/
namespace EngineBindings

open EngineBindings.Number (Quantity)

/-- A number as a count of bytes. -/
def byteCount (q : Quantity) : Except Fault Int :=
  q.integer?.elim (.error (.value .notNumeric)) .ok

namespace Slot

/-- Checks that an access lies inside a slot. Its end has to be a number first. -/
def checkGiven (s : Slot) (offset size : Quantity) : Except Fault Unit :=
  if !offset.canCombine size then .error (.value .numberTooLarge)
  else if offset < 0 ∨ size < 0 ∨ Quantity.whole s.capacity < offset + size then
    .error (.ofSlot (.outOfBounds offset (offset + size) s.capacity))
  else .ok ()

/-- Reads bytes; a size that is null means as many as follow. -/
def readGiven (s : Slot) (m : Memory) (size offset : Json) : Except Fault (List UInt8) := do
  let offset ← offset.quantity
  let size ← match size with
    | .null => pure (Quantity.whole s.capacity - offset)
    | size => size.quantity
  s.checkGiven offset size
  (s.read m (some (← byteCount size)) (← byteCount offset)).mapError .ofSlot

/-- Writes bytes. -/
def writeGiven (s : Slot) (m : Memory) (bytes : List UInt8) (offset : Json) :
    Except Fault Memory := do
  let offset ← offset.quantity
  s.checkGiven offset (.whole bytes.length)
  if s.isWritable then
    (s.write m (.bytes bytes) (← byteCount offset)).mapError .ofSlot
  else throw (.slot .readOnly)

/-- The slot of a given capacity at an address. -/
def atGiven (address : Option Nat) (capacity : Quantity) : Except Fault Slot :=
  match address with
  | none | some 0 => .error (.slot .nullAddress)
  | some address =>
    if capacity < 0 then .error (.ofSlot (.negativeCapacity capacity))
    else (byteCount capacity).bind (at? (some address))

/-- The addresses in an array of a given length. A text or a list has no place in a count, but a
null array is refused before that shows. -/
def addressesGiven (m : Memory) (array : Option Nat) : (count : Json) → Except Fault (List Nat)
  | .bool true => do
    let _ ← addresses m array 1
    throw (.value .badCount)
  | .int count => addresses m array count
  | .bool false => .ok []
  | .float x =>
    if x.isZero then .ok []
    else (atGiven array (.real x)).bind fun _ => .error (.value .notNumeric)
  | .null => .error (.value .notNumeric)
  | .obj _ => .error (.value .notNumeric)
  | _ => (atGiven array (.whole 0)).bind fun _ => .error (.value .notNumeric)

end Slot

end EngineBindings
