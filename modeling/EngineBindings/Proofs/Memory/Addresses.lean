import EngineBindings.Proofs.Memory.Bytes
import Mathlib.Algebra.Group.Nat.Defs

/-! Arrays of addresses.

The engine hands over what a call works on as an array of addresses. Each address is a word of
eight bytes, the least significant one first, and the words stand one behind the other
(`Memory.HoldsWords`); an address of zero says that there is nothing. The array's own address comes
as a number or in a box (`ArrayPlace`), and without one there is no array.

`Slot.addresses_read_back` says what is read: the words that stand there, exactly and in order;
nothing, and nothing is looked at, where none are asked for; and a refusal where there is no array
or fewer than none are asked for. -/
namespace EngineBindings

open Attempt Number

namespace Memory

variable {m : Memory} {start word : Nat} {words : List Nat}

/-- The byte of a word at a given place, the least significant one at place zero. -/
def wordByte (word place : Nat) : UInt8 :=
  UInt8.ofNat (word / 256 ^ place)

/-- Words of eight bytes stand in memory from an address on, one behind the other. -/
def HoldsWords (m : Memory) (start : Nat) (words : List Nat) : Prop :=
  ∀ (i : Nat) (h : i < words.length), ∀ place < 8,
    m.byte? (start + 8 * i + place) = some (wordByte words[i] place)

instance (m : Memory) (start : Nat) (words : List Nat) : Decidable (m.HoldsWords start words) :=
  inferInstanceAs (Decidable (∀ (i : Nat) (h : i < words.length), ∀ place < 8,
    m.byte? (start + 8 * i + place) = some (wordByte words[i] place)))

theorem getElem?_wordBytes (width n place : Nat) :
    (wordBytes width n)[place]? = if place < width then some (wordByte n place) else none := by
  induction width generalizing n place with
  | zero => rfl
  | succ width ih =>
    cases place with
    | zero =>
      rw [wordBytes, List.getElem?_cons_zero, if_pos (Nat.succ_pos width), wordByte, Nat.pow_zero,
        Nat.div_one]
      exact congrArg some (UInt8.ofNat_mod_size)
    | succ place =>
      rw [wordBytes, List.getElem?_cons_succ, ih, wordByte, wordByte, Nat.div_div_eq_div_mul,
        ← Nat.pow_succ']
      simp only [Nat.add_lt_add_iff_right]

theorem slice_append (low : m.address ≤ start) (first second : Nat) :
    m.slice start (first + second) = m.slice start first ++ m.slice (start + first) second := by
  unfold slice
  rw [List.take_add, List.drop_drop, Nat.sub_add_comm low]

theorem HoldsWords.low (h : m.HoldsWords start (word :: words)) : m.address ≤ start := by
  have first := h 0 (Nat.succ_pos _) 0 (by decide)
  unfold byte? at first
  split at first
  · assumption
  · cases first

theorem HoldsWords.tail (h : m.HoldsWords start (word :: words)) :
    m.HoldsWords (start + 8) words := by
  intro i inside place hplace
  have held := h (i + 1) (Nat.succ_lt_succ inside) place hplace
  rwa [List.getElem_cons_succ, show start + 8 * (i + 1) + place = start + 8 + 8 * i + place by omega]
    at held

/-- The bytes where words stand are those of the words. -/
theorem slice_of_holdsWords (h : m.HoldsWords start words) :
    m.slice start (8 * words.length) = words.flatMap (wordBytes 8) := by
  induction words generalizing start with
  | nil => exact List.take_zero
  | cons word words ih =>
    have first : m.slice start 8 = wordBytes 8 word := by
      refine List.ext_getElem? fun place => ?_
      rw [getElem?_slice h.low, getElem?_wordBytes]
      split
      · next inside => exact h 0 (Nat.succ_pos _) place inside
      · rfl
    rw [List.length_cons, Nat.mul_succ, Nat.add_comm, slice_append h.low, first, ih h.tail,
      List.flatMap_cons]

end Memory

/-- The address of an array as it is handed over: a number or none, or a box that holds a word. -/
inductive ArrayPlace where
  | bare (address : Option Nat)
  | boxed (word : UInt64)

namespace ArrayPlace

/-- The address that is handed over. A box with a zero in it holds none. -/
def address? : ArrayPlace → Option Nat
  | bare address => address
  | boxed word => if word = 0 then none else some word.toNat

/-- Whether an array is there: its address is given and not zero. -/
def IsNull (array : ArrayPlace) : Prop :=
  array.address?.getD 0 = 0

instance (array : ArrayPlace) : Decidable array.IsNull :=
  inferInstanceAs (Decidable (array.address?.getD 0 = 0))

theorem exists_address {array : ArrayPlace} (given : ¬array.IsNull) :
    ∃ start, array.address? = some start ∧ start ≠ 0 := by
  unfold IsNull at given
  cases place : array.address? with
  | none =>
    rw [place] at given
    exact absurd rfl given
  | some start =>
    rw [place] at given
    exact ⟨start, rfl, given⟩

end ArrayPlace

/-- A number is written with at most `maxDigits` digits. -/
theorem Number.isWritable_iff (n : Int) : isWritable n = true ↔ n.natAbs < 10 ^ maxDigits := by
  have power : ∀ k, tenPow k = 10 ^ k := fun _ => rfl
  rw [isWritable, decide_eq_true_iff, power]

namespace Slot

variable {m : Memory} {array : ArrayPlace} {start : Nat} {count : Int} {words : List Nat}

/-! ### Slots at an address -/

theorem at?_of_isNull (null : array.IsNull) (capacity : Int) :
    at? array.address? capacity = .error (.slot .nullAddress) := by
  unfold ArrayPlace.IsNull at null
  cases place : array.address? with
  | none => rfl
  | some address =>
    rw [place, Option.getD_some] at null
    rw [null]
    rfl

theorem at?_of_ne_zero (given : start ≠ 0) (capacity : Int) :
    at? (some start) capacity =
      if capacity < 0 then .error (.ofSlot (.negativeCapacity (.whole capacity)))
      else if capacity ≥ twoPow 63 then .error (.value .lengthTooLarge)
      else .ok ⟨start, capacity.toNat, true⟩ := by
  cases start with
  | zero => exact absurd rfl given
  | succ start => rfl

/-- All of a slot is read as what memory has there. -/
theorem read_all (s : Slot) (m : Memory) :
    s.read m none 0 = .ok (m.slice s.address s.capacity) := by
  refine read_eq_ok.mpr ⟨Int.le_refl 0, ?_, ?_, ?_⟩
  · rw [Option.getD_none]
    omega
  · rw [Option.getD_none]
    omega
  · rw [Option.getD_none, Int.sub_zero, Int.toNat_natCast]
    rfl

/-! ### Arrays at an address -/

theorem addresses_of_ne_zero (several : count ≠ 0) (m : Memory) (array : Option Nat) :
    addresses m array count = at? array (count * pointerSize) >>= fun slot =>
      return Memory.wordValues pointerSize count.toNat (m.slice slot.address slot.capacity) := by
  rw [addresses, if_neg several]
  refine bind_congr fun slot => ?_
  rw [read_all]
  rfl

/-- Words that stand in memory are read back, unless there are more of them than a slot has room
for. -/
theorem addresses_of_holdsWords (given : start ≠ 0) (bounded : ∀ word ∈ words, word < 2 ^ 64)
    (held : m.HoldsWords start words) :
    addresses m (some start) words.length =
      if 8 * words.length < 2 ^ 63 then .ok words else .error (.value .lengthTooLarge) := by
  by_cases empty : words = []
  · subst empty
    rfl
  · have several : (words.length : Int) ≠ 0 := by simpa using empty
    have bytes : (words.length : Int) * pointerSize = ((8 * words.length : Nat) : Int) := by
      rw [pointerSize]
      omega
    have most : twoPow 63 = 2 ^ 63 := rfl
    rw [addresses_of_ne_zero several, bytes, at?_of_ne_zero given, if_neg (by omega)]
    by_cases room : 8 * words.length < 2 ^ 63
    · have spelt : Memory.wordValues pointerSize words.length (words.flatMap (Memory.wordBytes 8)) =
          words := by
        refine (Memory.wordValues_flatMap_wordBytes 8 words).trans ?_
        exact List.map_congr_left (fun word hword => Nat.mod_eq_of_lt (bounded word hword))
          |>.trans (List.map_id' words)
      rw [if_pos room, if_neg (by omega), ok_bind, Int.toNat_natCast, Int.toNat_natCast,
        Memory.slice_of_holdsWords held, spelt]
      rfl
    · rw [if_neg room, if_pos (by omega)]
      rfl

/-- Fewer addresses than none are refused, if only the size that they would have can be worded. -/
theorem addresses_of_neg (given : start ≠ 0) (negative : count < 0) :
    addresses m (some start) count =
      .error (if Number.isWritable (8 * count) then .slot (.negativeCapacity (.whole (8 * count)))
        else .value .numeralTooLong) := by
  have bytes : count * pointerSize = 8 * count := by
    rw [pointerSize]
    omega
  have worded : ([.whole (8 * count)] : List Quantity).all Quantity.isWritable =
      Number.isWritable (8 * count) := by
    simp only [List.all_cons, List.all_nil, Bool.and_true, Quantity.isWritable]
  rw [addresses_of_ne_zero (by omega), bytes, at?_of_ne_zero given, if_pos (by omega),
    Fault.ofSlot, Fault.worded, SlotFault.numbers, worded]
  rfl

theorem addresses_of_isNull (null : array.IsNull) (several : count ≠ 0) :
    addresses m array.address? count = .error (.slot .nullAddress) := by
  rw [addresses_of_ne_zero several, at?_of_isNull null]
  rfl

/-- An array of addresses is read as the words that stand where it is, exactly and in order, however
its address is handed over (a slot has room for fewer than `2 ^ 63` bytes). Where none are asked for
there are none, whether there is an array or not. Any other number of addresses is refused where
there is no array, and fewer than none everywhere, in words that tell the size unless that has too
many digits to be written. -/
theorem addresses_read_back (m : Memory) (array : ArrayPlace) :
    addresses m array.address? 0 = .ok [] ∧
      (∀ start words, array.address? = some start → ¬array.IsNull →
        (∀ word ∈ words, word < 2 ^ 64) → m.HoldsWords start words →
          addresses m array.address? words.length =
            if 8 * words.length < 2 ^ 63 then .ok words else .error (.value .lengthTooLarge)) ∧
      (∀ count, count ≠ 0 → array.IsNull →
        addresses m array.address? count = .error (.slot .nullAddress)) ∧
      ∀ count < 0, ¬array.IsNull →
        addresses m array.address? count =
          .error (if (8 * count).natAbs < 10 ^ maxDigits then
              .slot (.negativeCapacity (.whole (8 * count)))
            else .value .numeralTooLong) := by
  refine ⟨rfl, fun start words place given bounded held => ?_,
    fun count several null => addresses_of_isNull null several, fun count negative given => ?_⟩
  · have nonzero : start ≠ 0 := by simpa [ArrayPlace.IsNull, place] using given
    rw [place, addresses_of_holdsWords nonzero bounded held]
  · obtain ⟨start, place, nonzero⟩ := ArrayPlace.exists_address given
    rw [place, addresses_of_neg nonzero negative]
    simp only [Number.isWritable_iff]

/-- Memory with an array of two addresses, the second of which is none. -/
def twoAddresses : Memory :=
  ⟨65536, [140737488355328, 0].flatMap (Memory.wordBytes 8)⟩

/-- A boxed array of two is read, no array has no two addresses, and a missing one has none. -/
theorem addresses_read_back_two :
    addresses twoAddresses (ArrayPlace.boxed 65536).address? 2 = .ok [140737488355328, 0] ∧
      addresses twoAddresses (ArrayPlace.boxed 0).address? 2 = .error (.slot .nullAddress) ∧
      addresses twoAddresses (ArrayPlace.boxed 65536).address? (-1) =
        .error (.slot (.negativeCapacity (.whole (-8)))) := by
  obtain ⟨-, given, -, negative⟩ := addresses_read_back twoAddresses (.boxed 65536)
  obtain ⟨-, -, absent, -⟩ := addresses_read_back twoAddresses (.boxed 0)
  have short : (8 * (-1) : Int).natAbs < 10 ^ maxDigits :=
    Nat.lt_of_lt_of_le (by decide : 8 < 10 ^ 1) (Nat.pow_le_pow_right (by decide) (by decide))
  refine ⟨given 65536 [140737488355328, 0] rfl (by decide) (by decide) (by decide),
    absent 2 (by decide) (by decide), ?_⟩
  rw [negative (-1) (by decide) (by decide), if_pos short]
  rfl

/-- A count far below zero is no slot fault: its size has more digits than are ever written. -/
theorem addresses_of_long_count :
    ∃ count < (0 : Int), addresses twoAddresses (ArrayPlace.bare (some 65536)).address? count =
      .error (.value .numeralTooLong) := by
  have positive := tenPow_pos 4299
  have step : ∀ n, tenPow (n + 1) = tenPow n * 10 := fun n => tenPow_add n 1
  have digits : tenPow maxDigits = tenPow 4299 * 10 := step 4299
  have long : Number.isWritable (8 * -(2 * tenPow 4299 : Int)) = false := by
    rw [Number.isWritable, digits, decide_eq_false_iff_not]
    omega
  refine ⟨-(2 * tenPow 4299), by omega, ?_⟩
  rw [ArrayPlace.address?, addresses_of_neg (by decide) (by omega), long]
  rfl

end Slot

end EngineBindings
