import EngineBindings.Memory.Content
import EngineBindings.Proofs.Attempt

/-! The bytes behind a slot.

Memory is looked at address by address (`Memory.byte?`): a splice puts its bytes where it starts
and leaves every other address alone, a slice is the bytes from where it starts on. With these two
a granted write and a granted read are told by the addresses that they name
(`Slot.byte?_of_write`, `Slot.getElem?_of_read`), and what grants them is a condition on their
bounds alone, for a write also that the slot grants writes. -/
namespace EngineBindings

open Attempt

namespace Memory

variable {m : Memory} {start count address : Nat} {bytes : List UInt8}

/-- The byte at an address, if memory has it. -/
def byte? (m : Memory) (address : Nat) : Option UInt8 :=
  if m.address ≤ address then m.bytes[address - m.address]? else none

/-- Whether a range of addresses lies in memory. -/
def Holds (m : Memory) (start count : Nat) : Prop :=
  m.address ≤ start ∧ start + count ≤ m.address + m.bytes.length

@[simp]
theorem address_splice : (m.splice start bytes).address = m.address :=
  rfl

theorem length_splice (h : m.Holds start bytes.length) :
    (m.splice start bytes).bytes.length = m.bytes.length := by
  obtain ⟨low, high⟩ := h
  simp only [splice, List.length_append, List.length_take, List.length_drop]
  omega

/-- A splice puts its bytes from its start on and leaves all others as they were. -/
theorem byte?_splice (h : m.Holds start bytes.length) (address : Nat) :
    (m.splice start bytes).byte? address =
      if start ≤ address ∧ address < start + bytes.length then bytes[address - start]?
      else m.byte? address := by
  obtain ⟨low, high⟩ := h
  have found : (m.splice start bytes).byte? address =
      if m.address ≤ address then (m.splice start bytes).bytes[address - m.address]?
      else none := rfl
  rw [found, byte?]
  by_cases inMemory : m.address ≤ address
  · have taken : (m.bytes.take (start - m.address)).length = start - m.address := by
      rw [List.length_take]
      omega
    rw [if_pos inMemory, if_pos inMemory, splice, List.append_assoc]
    by_cases before : address < start
    · -- in front of the splice
      rw [if_neg (by omega), List.getElem?_append_left (by omega),
        List.getElem?_take_of_lt (by omega)]
    · rw [List.getElem?_append_right (by omega), taken]
      by_cases inside : address < start + bytes.length
      · rw [if_pos (by omega), List.getElem?_append_left (by omega)]
        congr 1
        omega
      · -- behind the splice
        rw [if_neg (by omega), List.getElem?_append_right (by omega), List.getElem?_drop]
        congr 1
        omega
  · rw [if_neg inMemory, if_neg inMemory, if_neg (by omega)]

theorem getElem?_slice (h : m.address ≤ start) (k : Nat) :
    (m.slice start count)[k]? = if k < count then m.byte? (start + k) else none := by
  unfold slice
  split
  · rename_i inside
    rw [List.getElem?_take_of_lt inside, List.getElem?_drop, byte?, if_pos (by omega)]
    congr 1
    omega
  · rename_i outside
    exact List.getElem?_eq_none (by rw [List.length_take]; omega)

theorem length_slice (h : m.Holds start count) : (m.slice start count).length = count := by
  obtain ⟨low, high⟩ := h
  simp only [slice, List.length_take, List.length_drop]
  omega

end Memory

namespace Slot

variable {s : Slot} {m m' : Memory} {payload : Payload} {offset : Int}

/-- Whether a slot lies in memory. -/
def IsInside (s : Slot) (m : Memory) : Prop :=
  m.Holds s.address s.capacity

theorem whole_isInside (m : Memory) (isWritable : Bool) : (whole m isWritable).IsInside m :=
  ⟨Nat.le_refl _, Nat.le_refl _⟩

/-- An access that lies in a slot lies in the memory around it. -/
theorem IsInside.holds {size : Nat} (h : s.IsInside m) (low : 0 ≤ offset)
    (high : offset + size ≤ s.capacity) : m.Holds (s.address + offset.toNat) size := by
  obtain ⟨below, above⟩ := h
  constructor <;> omega

/-! ### Writes -/

theorem write_eq_ok :
    s.write m payload offset = .ok m' ↔
      0 ≤ offset ∧ offset + payload.size ≤ s.capacity ∧ s.isWritable = true ∧
        m.splice (s.address + offset.toNat) payload.toList = m' := by
  have bounds := s.check_eq_ok_iff offset payload.size
  unfold write
  constructor
  · intro h
    obtain ⟨_, checked, h⟩ := bind_eq_ok.mp h
    obtain ⟨low, -, high⟩ := bounds.mp checked
    cases writable : s.isWritable with
    | false =>
      rw [writable] at h
      cases h
    | true =>
      rw [writable, if_pos rfl] at h
      exact ⟨low, high, rfl, pure_eq_ok.mp h⟩
  · rintro ⟨low, high, writable, rfl⟩
    refine bind_eq_ok.mpr ⟨(), bounds.mpr ⟨low, by omega, high⟩, ?_⟩
    rw [if_pos writable]
    rfl

/-- A granted write changes the bytes that it names, to what is written, and no others. -/
theorem byte?_of_write (hs : s.IsInside m) (h : s.write m payload offset = .ok m')
    (address : Nat) :
    m'.byte? address =
      if s.address + offset.toNat ≤ address ∧ address < s.address + offset.toNat + payload.size then
        payload.toList[address - (s.address + offset.toNat)]?
      else m.byte? address := by
  obtain ⟨low, high, -, rfl⟩ := write_eq_ok.mp h
  have held := hs.holds low high
  rw [← Payload.length_toList] at held ⊢
  exact Memory.byte?_splice held address

theorem extent_of_write (hs : s.IsInside m) (h : s.write m payload offset = .ok m') :
    m'.address = m.address ∧ m'.bytes.length = m.bytes.length := by
  obtain ⟨low, high, -, rfl⟩ := write_eq_ok.mp h
  have held := hs.holds low high
  rw [← Payload.length_toList] at held
  exact ⟨rfl, Memory.length_splice held⟩

/-- What is written when a value is stored. -/
def stored (type : Option SlotType) (value : SlotValue) : Except ValueFault Payload :=
  match type with
  | some type => do
    type.checkNames
    return .bytes (← type.make value)
  | none => value.payload

/-- A store is a write at the slot's start, of what its value is converted to. -/
theorem store_eq (type : Option SlotType) (value : SlotValue) :
    s.store m type value = (stored type value).mapError .value >>= fun payload =>
      (s.write m payload 0).mapError .ofSlot := by
  cases type <;> rfl

theorem store_eq_ok {type : Option SlotType} {value : SlotValue} :
    s.store m type value = .ok m' ↔
      ∃ payload, stored type value = .ok payload ∧ s.write m payload 0 = .ok m' := by
  rw [store_eq, bind_eq_ok]
  simp only [mapError_eq_ok]

/-! ### Reads -/

theorem read_eq_ok {size : Option Int} {bytes : List UInt8} :
    s.read m size offset = .ok bytes ↔
      0 ≤ offset ∧ 0 ≤ size.getD (s.capacity - offset) ∧
        offset + size.getD (s.capacity - offset) ≤ s.capacity ∧
        m.slice (s.address + offset.toNat) (size.getD (s.capacity - offset)).toNat = bytes := by
  have bounds := s.check_eq_ok_iff offset (size.getD (s.capacity - offset))
  unfold read
  constructor
  · intro h
    obtain ⟨_, checked, h⟩ := bind_eq_ok.mp h
    obtain ⟨low, positive, high⟩ := bounds.mp checked
    exact ⟨low, positive, high, pure_eq_ok.mp h⟩
  · rintro ⟨low, positive, high, rfl⟩
    exact bind_eq_ok.mpr ⟨(), bounds.mpr ⟨low, positive, high⟩, rfl⟩

/-- A granted read returns as many bytes as it asks for, those that memory has there. -/
theorem getElem?_of_read {size : Option Int} {bytes : List UInt8} (hs : s.IsInside m)
    (h : s.read m size offset = .ok bytes) :
    (bytes.length : Int) = size.getD (s.capacity - offset) ∧
      ∀ k < bytes.length, bytes[k]? = m.byte? (s.address + offset.toNat + k) := by
  obtain ⟨low, positive, high, rfl⟩ := read_eq_ok.mp h
  have held : m.Holds (s.address + offset.toNat) (size.getD (s.capacity - offset)).toNat :=
    hs.holds low (by omega)
  rw [Memory.length_slice held]
  refine ⟨by omega, fun k inside => ?_⟩
  rw [Memory.getElem?_slice held.1, if_pos inside]

end Slot

end EngineBindings
