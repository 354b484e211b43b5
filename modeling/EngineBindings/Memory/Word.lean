import EngineBindings.Number.Power

/-! Numbers as bytes in memory, the least significant byte first. -/
namespace EngineBindings.Memory

open EngineBindings.Number

/-- The `width` lowest bytes of a number. -/
def wordBytes : (width n : Nat) → List UInt8
  | 0, _ => []
  | width + 1, n => UInt8.ofNat (n % 256) :: wordBytes width (n / 256)

/-- The number that bytes spell. -/
def wordValue : List UInt8 → Nat
  | [] => 0
  | b :: rest => b.toNat + 256 * wordValue rest

/-- The numbers that runs of `width` bytes spell, one for each complete run. -/
def wordValues (width : Nat) : (count : Nat) → List UInt8 → List Nat
  | 0, _ => []
  | count + 1, bytes => wordValue (bytes.take width) :: wordValues width count (bytes.drop width)

/-! ### Writing and reading back -/

@[simp]
theorem length_wordBytes (width n : Nat) : (wordBytes width n).length = width := by
  induction width generalizing n with
  | zero => rfl
  | succ width ih => simp [wordBytes, ih]

theorem wordValue_wordBytes (width n : Nat) :
    wordValue (wordBytes width n) = n % twoPow (8 * width) := by
  induction width generalizing n with
  | zero => simp [wordBytes, wordValue, twoPow, Nat.mod_one]
  | succ width ih =>
    have byte : (UInt8.ofNat (n % 256)).toNat = n % 256 := by
      simp [UInt8.toNat_ofNat']
    have split : twoPow (8 * (width + 1)) = 256 * twoPow (8 * width) := by
      rw [Nat.mul_add, Nat.add_comm, twoPow_add]
      rfl
    rw [wordBytes, wordValue, ih, byte, split, Nat.mod_mul]

theorem wordValues_flatMap_wordBytes (width : Nat) (words : List Nat) :
    wordValues width words.length (words.flatMap (wordBytes width)) =
      words.map (· % twoPow (8 * width)) := by
  induction words with
  | nil => rfl
  | cons n rest ih =>
    have taken : (wordBytes width n ++ rest.flatMap (wordBytes width)).take width =
        wordBytes width n := List.take_left' (length_wordBytes width n)
    have dropped : (wordBytes width n ++ rest.flatMap (wordBytes width)).drop width =
        rest.flatMap (wordBytes width) := List.drop_left' (length_wordBytes width n)
    rw [List.length_cons, List.flatMap_cons, wordValues, taken, dropped, wordValue_wordBytes, ih,
      List.map_cons]

end EngineBindings.Memory
