import EngineBindings.Fault
import EngineBindings.Memory.Word

/-! Slots: windows of memory that the engine hands over.

A slot has an address and a capacity. Every access is checked against the capacity before memory
is touched, so that an access that is refused changes nothing and one that is granted changes
only the bytes it names. -/
namespace EngineBindings

/-- A run of bytes at an address. -/
structure Memory where
  address : Nat
  bytes : List UInt8

namespace Memory

/-- The bytes of a range given by its start and its length. -/
def slice (m : Memory) (start count : Nat) : List UInt8 :=
  (m.bytes.drop (start - m.address)).take count

/-- Replaces the bytes from `start` on. -/
def splice (m : Memory) (start : Nat) (bytes : List UInt8) : Memory :=
  let before := start - m.address
  { m with bytes := m.bytes.take before ++ bytes ++ m.bytes.drop (before + bytes.length) }

end Memory

/-- A window of memory. -/
structure Slot where
  address : Nat
  capacity : Nat
  /-- Whether the slot grants writes. -/
  isWritable : Bool
  deriving DecidableEq

namespace Slot

/-- The size of an address, in bytes. -/
def pointerSize : Nat := 8

/-- The slot over all of a memory. -/
def whole (m : Memory) (isWritable : Bool) : Slot :=
  ⟨m.address, m.bytes.length, isWritable⟩

/-- The slot at an address, which grants writes. -/
def at? (address : Option Nat) (capacity : Int) : Except Fault Slot :=
  match address with
  | none | some 0 => .error (.slot .nullAddress)
  | some address =>
    if capacity < 0 then .error (.ofSlot (.negativeCapacity (.whole capacity)))
    else if capacity ≥ Number.twoPow 63 then .error (.value .lengthTooLarge)
    else .ok ⟨address, capacity.toNat, true⟩

/-- Whether an access lies inside the slot. -/
def check (s : Slot) (offset size : Int) : Except SlotFault Unit :=
  if offset < 0 ∨ size < 0 ∨ offset + size > s.capacity then
    .error (.outOfBounds (.whole offset) (.whole (offset + size)) s.capacity)
  else .ok ()

/-- Reads bytes from `offset` on, by default as many as follow. -/
def read (s : Slot) (m : Memory) (size : Option Int) (offset : Int) :
    Except SlotFault (List UInt8) := do
  let size := size.getD (s.capacity - offset)
  s.check offset size
  return m.slice (s.address + offset.toNat) size.toNat

/-- What is written: bytes, or a number of zero bytes. -/
inductive Payload where
  | bytes (bytes : List UInt8)
  | zeros (count : Nat)

namespace Payload

/-- The number of bytes. -/
def size : Payload → Nat
  | .bytes bs => bs.length
  | .zeros count => count

/-- The bytes. -/
def toList : Payload → List UInt8
  | .bytes bs => bs
  | .zeros count => List.replicate count 0

@[simp]
theorem length_toList (p : Payload) : p.toList.length = p.size := by
  cases p <;> simp [toList, size]

end Payload

/-- Writes from `offset` on. -/
def write (s : Slot) (m : Memory) (payload : Payload) (offset : Int) :
    Except SlotFault Memory := do
  s.check offset payload.size
  if s.isWritable then return m.splice (s.address + offset.toNat) payload.toList
  else throw .readOnly

/-! ### Arrays of addresses -/

/-- The addresses in an array of a given length, zero for a null one. -/
def addresses (m : Memory) (array : Option Nat) (count : Int) : Except Fault (List Nat) :=
  if count = 0 then .ok []
  else do
    let slot ← at? array (count * pointerSize)
    let bytes ← (slot.read m none 0).mapError .ofSlot
    return Memory.wordValues pointerSize count.toNat bytes

/-! ### What an access touches -/

theorem check_eq_ok_iff (s : Slot) (offset size : Int) :
    s.check offset size = .ok () ↔ 0 ≤ offset ∧ 0 ≤ size ∧ offset + size ≤ s.capacity := by
  unfold check
  split
  · rename_i h
    constructor
    · intro e; cases e
    · intro e; omega
  · rename_i h
    constructor
    · intro _; omega
    · intro _; rfl

end Slot

end EngineBindings
