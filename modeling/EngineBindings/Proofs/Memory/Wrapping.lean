import EngineBindings.Proofs.Memory.Session
import Mathlib.Data.Int.ModEq

/-! Whole numbers and addresses in slots.

A whole number of any size can be stored as a number of some width or as an address. The slot keeps
the lowest bits of it, and every type of that size sees in them the one number of its own range that
is congruent to what was stored (`Shows`), an address of zero as none.

`Session.store_load` follows both sides: storing changes exactly the bytes of the type, loading them
as any type of the same size returns what the type sees, and in a slot that is too small for the
type both are refused and nothing changes. -/
namespace EngineBindings

open Attempt Number

namespace Scalar

/-- The types that hold a whole number modulo a power of two. -/
def isWord : Scalar → Bool
  | int _ _ | pointer => true
  | bool | float | double => false

/-- The numbers of a width, with a sign or without. -/
def Spans (w : Width) (signed : Bool) (n : Int) : Prop :=
  if signed then -2 ^ (w.bits - 1) ≤ n ∧ n < 2 ^ (w.bits - 1) else 0 ≤ n ∧ n < 2 ^ w.bits

instance (w : Width) (signed : Bool) (n : Int) : Decidable (Spans w signed n) :=
  inferInstanceAs (Decidable (if signed then -2 ^ (w.bits - 1) ≤ n ∧ n < 2 ^ (w.bits - 1)
    else 0 ≤ n ∧ n < 2 ^ w.bits))

/-- What a type sees where a number has been stored. -/
inductive Shows : Scalar → Int → SlotValue → Prop
  | int {w : Width} {signed : Bool} {v n : Int} (range : Spans w signed n)
      (same : n ≡ v [ZMOD 2 ^ w.bits]) : Shows (int w signed) v (.int n)
  | null {v : Int} (zero : v ≡ 0 [ZMOD 2 ^ 64]) : Shows pointer v .missing
  | address {v : Int} (given : ¬v ≡ 0 [ZMOD 2 ^ 64]) : Shows pointer v (.int (v % 2 ^ 64))

/-- The numbers that a value is stored as: a whole number as itself, and no address as zero. -/
def Stands (type : Scalar) (value : SlotValue) (v : Int) : Prop :=
  value.integer? = some v ∨ type = pointer ∧ value = .missing ∧ v = 0

variable {type : Scalar} {value x y : SlotValue} {v : Int}

/-- No two numbers of a range are congruent. -/
theorem Spans.eq {w : Width} {signed : Bool} {m n : Int} (hm : Spans w signed m)
    (hn : Spans w signed n) (same : m ≡ n [ZMOD 2 ^ w.bits]) : m = n := by
  unfold Spans at hm hn
  unfold Int.ModEq at same
  -- linear once the width is a number
  cases w <;> cases signed <;> simp [Width.bits] at hm hn same <;> omega

theorem Shows.unique (hx : type.Shows v x) (hy : type.Shows v y) : x = y := by
  cases hx with
  | int range same =>
    cases hy with
    | int range' same' => rw [range.eq range' (same.trans same'.symm)]
  | null zero =>
    cases hy with
    | null => rfl
    | address given => exact absurd zero given
  | address given =>
    cases hy with
    | null zero => exact absurd zero given
    | address => rfl

/-! ### Bytes of a number -/

theorem length_integerBytes (width : Nat) (n : Int) : (integerBytes width n).length = width :=
  Memory.length_wordBytes width _

/-- The word that the bytes of a number spell is its remainder. -/
theorem wordValue_integerBytes (width : Nat) (n : Int) :
    (Memory.wordValue (integerBytes width n) : Int) = n % twoPow (8 * width) := by
  have positive : (0 : Int) < twoPow (8 * width) := by exact_mod_cast twoPow_pos _
  have low := Int.emod_nonneg n positive.ne'
  have high := Int.emod_lt_of_pos n positive
  rw [integerBytes, Memory.wordValue_wordBytes, Nat.mod_eq_of_lt (by omega),
    Int.toNat_of_nonneg low]

theorem encode_of_stands (word : type.isWord = true) (h : type.Stands value v) :
    type.encode value = .ok (integerBytes type.size v) := by
  rcases h with given | ⟨rfl, rfl, rfl⟩
  · cases type with
    | int w signed =>
      rw [encode, given]
      rfl
    | pointer =>
      unfold encode
      cases value with
      | missing => cases given
      | _ =>
        dsimp only
        rw [given]
        rfl
    | _ => cases word
  · rfl

/-- A number that is cut to a width and read with a sign or without is the one of the range that is
congruent to it. -/
theorem spans_integerOfWord {w : Width} (signed : Bool) {word : Nat}
    (h : (word : Int) = v % twoPow w.bits) :
    Spans w signed (integerOfWord w signed word) ∧
      integerOfWord w signed word ≡ v [ZMOD 2 ^ w.bits] := by
  cases signed with
  | false =>
    show (0 ≤ (word : Int) ∧ (word : Int) < 2 ^ w.bits) ∧ (word : Int) % 2 ^ w.bits = v % 2 ^ w.bits
    cases w <;> simp [Width.bits, twoPow] at h ⊢ <;> omega
  | true =>
    by_cases high : twoPow (w.bits - 1) ≤ word
    · show (-2 ^ (w.bits - 1) ≤ _ ∧ _ < 2 ^ (w.bits - 1)) ∧ _ % 2 ^ w.bits = v % 2 ^ w.bits
      rw [integerOfWord, if_pos ⟨rfl, high⟩]
      cases w <;> simp [Width.bits, twoPow] at h high ⊢ <;> omega
    · show (-2 ^ (w.bits - 1) ≤ _ ∧ _ < 2 ^ (w.bits - 1)) ∧ _ % 2 ^ w.bits = v % 2 ^ w.bits
      rw [integerOfWord, if_neg fun both => high both.2]
      cases w <;> simp [Width.bits, twoPow] at h high ⊢ <;> omega

/-- A type sees what it should in the bytes of a number. -/
theorem shows_decode (word : type.isWord = true) (v : Int) :
    type.Shows v (type.decode (integerBytes type.size v)) := by
  have spelt := wordValue_integerBytes type.size v
  cases type with
  | int w signed =>
    rw [size, ← Width.bits_eq_bytes] at spelt
    obtain ⟨range, same⟩ := spans_integerOfWord signed spelt
    exact .int range same
  | pointer =>
    have cut : (Memory.wordValue (integerBytes 8 v) : Int) = v % 2 ^ 64 := spelt
    show Shows pointer v (if Memory.wordValue (integerBytes 8 v) = 0 then .missing
      else .int (Memory.wordValue (integerBytes 8 v)))
    by_cases null : v % 2 ^ 64 = 0
    · rw [if_pos (by omega)]
      exact .null null
    · rw [if_neg (by omega), cut]
      exact .address null
  | _ => cases word

end Scalar

/-! ### Loads and stores of scalars -/

namespace Slot

variable {s : Slot} {m m' : Memory} {type : Scalar} {value : SlotValue} {v : Int}

theorem stored_of_stands (word : type.isWord = true) (h : type.Stands value v) :
    stored (some (.scalar type)) value = .ok (.bytes (Scalar.integerBytes type.size v)) := by
  have made : (SlotType.scalar type).make value = type.encode value := by
    show type.encode value >>= pure = type.encode value
    exact bind_pure _
  show ((SlotType.scalar type).make value >>= fun bytes => pure (Payload.bytes bytes)) = _
  rw [made, Scalar.encode_of_stands word h]
  rfl

/-- A scalar is loaded as the bytes of its size. -/
theorem load_scalar : s.load m (.scalar type) =
    (Except.mapError Fault.ofSlot (s.read m (some type.size) 0)).map fun bytes =>
      .scalar (type.decode bytes) := by
  show ((s.read m (some type.size) 0).mapError Fault.ofSlot >>= _) = _
  cases s.read m (some type.size) 0 <;> rfl

/-- What is written at a slot's start is what is read there. -/
theorem read_of_write {bytes : List UInt8} (hs : s.IsInside m)
    (h : s.write m (.bytes bytes) 0 = .ok m') : s.read m' (some bytes.length) 0 = .ok bytes := by
  obtain ⟨low, high, -, rfl⟩ := write_eq_ok.mp h
  have held : m.Holds (s.address + (0 : Int).toNat) bytes.length := hs.holds low high
  refine read_eq_ok.mpr ⟨Int.le_refl 0, Int.natCast_nonneg _, high, ?_⟩
  rw [Option.getD_some, Int.toNat_natCast]
  refine List.ext_getElem? fun k => ?_
  rw [Memory.getElem?_slice (by exact held.1), Payload.toList, Memory.byte?_splice held]
  by_cases inside : k < bytes.length
  · rw [if_pos inside, if_pos (by omega)]
    congr 1
    omega
  · rw [if_neg inside, List.getElem?_eq_none (by omega)]

/-- An access that is wider than the slot is refused as such. -/
theorem check_of_narrow {size : Nat} (small : size ≤ 8) (narrow : s.capacity < size) :
    ∃ cause, s.check 0 size = .error cause ∧ Fault.ofSlot cause = .slot cause := by
  have written : ∀ n : Int, 0 ≤ n → n ≤ 8 → (Quantity.whole n).isWritable = true := by
    intro n low high
    have most : twoPow 31 = 2147483648 := rfl
    exact isWritable_of_small low (by omega)
  refine ⟨.outOfBounds (.whole 0) (.whole (0 + size)) s.capacity, if_pos (by omega), ?_⟩
  rw [Fault.ofSlot, Fault.worded, SlotFault.numbers, if_pos]
  simp only [List.all_cons, List.all_nil, Bool.and_true, Bool.and_eq_true]
  exact ⟨written _ (by omega) (by omega), written _ (by omega) (by omega),
    written _ (by omega) (by omega)⟩

end Slot

namespace Session

variable {s : Session} {type : Scalar} {value : SlotValue} {v : Int}

theorem attempt_store (type : Option SlotType) (value : SlotValue) :
    s.attempt (.store type value) =
      (s.slot.store s.memory type value).map fun m => ({ s with memory := m }, .done) := by
  show (s.slot.store s.memory type value >>= fun m =>
    pure ({ s with memory := m }, SlotAnswer.done)) = _
  cases s.slot.store s.memory type value <;> rfl

theorem answer_load (type : SlotType) :
    s.answer (.load type) = (s.slot.load s.memory type).map .loaded := by
  show (s.slot.load s.memory type >>= fun value =>
    pure (s, SlotAnswer.loaded value)).map Prod.snd = _
  cases s.slot.load s.memory type <;> rfl

/-- A write leaves the window where it is. -/
theorem slot_of_write {payload : Slot.Payload} {offset : Int} {m' : Memory}
    (inside : s.slot.IsInside s.memory) (h : s.slot.write s.memory payload offset = .ok m') :
    Session.slot { s with memory := m' } = s.slot := by
  obtain ⟨address, length⟩ := Slot.extent_of_write inside h
  unfold slot Slot.whole
  rw [address, length]

/-- A number is stored where the slot grants it: the bytes of its type become those of the number,
no other changes, and every type of the same size sees the number in them. -/
theorem store_of_wide (inside : s.slot.IsInside s.memory) (writable : s.slot.isWritable = true)
    (word : type.isWord = true) (stands : type.Stands value v)
    (wide : type.size ≤ s.slot.capacity) :
    ∃ s', s.attempt (.store (some (.scalar type)) value) = .ok (s', .done) ∧
      (∀ type' : Scalar, type'.isWord = true → type'.size = type.size →
        ∃ x, s'.answer (.load (.scalar type')) = .ok (.loaded (.scalar x)) ∧ type'.Shows v x) ∧
      ∀ address, ¬(s.slot.address ≤ address ∧ address < s.slot.address + type.size) →
        s'.memory.byte? address = s.memory.byte? address := by
  have long := Scalar.length_integerBytes type.size v
  have bound : (0 : Int) + (Slot.Payload.bytes (Scalar.integerBytes type.size v)).size ≤
      s.slot.capacity := by
    rw [Slot.Payload.size, long]
    omega
  obtain ⟨m', written⟩ : ∃ m', s.slot.write s.memory _ 0 = .ok m' :=
    ⟨_, Slot.write_eq_ok.mpr ⟨Int.le_refl 0, bound, writable, rfl⟩⟩
  have held := Slot.store_eq_ok.mpr ⟨_, Slot.stored_of_stands word stands, written⟩
  refine ⟨{ s with memory := m' }, by rw [attempt_store, held]; rfl, fun type' word' same => ?_,
    fun address away => ?_⟩
  · have returned := Slot.read_of_write inside written
    rw [long, ← same] at returned
    refine ⟨_, ?_, Scalar.shows_decode word' v⟩
    rw [answer_load, slot_of_write inside written, Slot.load_scalar, returned, same]
    rfl
  · rw [Slot.byte?_of_write inside written, if_neg]
    rw [Slot.Payload.size, long]
    simpa using away

/-- In a slot that is too small for a type nothing of it is stored or loaded. -/
theorem refused_of_narrow (word : type.isWord = true) (stands : type.Stands value v)
    (narrow : s.slot.capacity < type.size) :
    ∃ cause, s.attempt (.store (some (.scalar type)) value) = .error (.slot cause) ∧
      s.answer (.load (.scalar type)) = .error (.slot cause) := by
  have small : type.size ≤ 8 := by
    cases type with
    | int w _ => cases w <;> simp [Scalar.size, Width.bytes]
    | _ => decide
  obtain ⟨cause, checked, fault⟩ := Slot.check_of_narrow small narrow
  have long := Scalar.length_integerBytes type.size v
  refine ⟨cause, ?_, ?_⟩
  · have refused : s.slot.write s.memory (.bytes (Scalar.integerBytes type.size v)) 0 =
        .error cause := by
      rw [Slot.write, Slot.Payload.size, long, checked]
      rfl
    rw [attempt_store, Slot.store_eq, Slot.stored_of_stands word stands]
    show Except.map _ ((s.slot.write s.memory _ 0).mapError Fault.ofSlot) = _
    rw [refused, ← fault]
    rfl
  · have refused : s.slot.read s.memory (some type.size) 0 = .error cause := by
      rw [Slot.read, Option.getD_some, checked]
      rfl
    rw [answer_load, Slot.load_scalar, refused, ← fault]
    rfl

/-- A whole number of any size that is stored as a word type, wherever a slot grants it, is seen by
every word type of the same size as the one number of that type that is congruent to it (an address
of zero as no address), and no byte beside those of the type changes. Storing no address is storing
zero. In a slot that is too small for the type both are refused as out of bounds, and the session
stays what it was. -/
theorem store_load (inside : s.slot.IsInside s.memory) (writable : s.slot.isWritable = true)
    (word : type.isWord = true) (stands : type.Stands value v) :
    (type.size ≤ s.slot.capacity →
      ∃ s', s.attempt (.store (some (.scalar type)) value) = .ok (s', .done) ∧
        (∀ type' : Scalar, type'.isWord = true → type'.size = type.size →
          ∃ x, s'.answer (.load (.scalar type')) = .ok (.loaded (.scalar x)) ∧ type'.Shows v x ∧
            ∀ y, type'.Shows v y → y = x) ∧
        ∀ address, ¬(s.slot.address ≤ address ∧ address < s.slot.address + type.size) →
          s'.memory.byte? address = s.memory.byte? address) ∧
      (s.slot.capacity < type.size →
        (∃ cause, s.answer (.store (some (.scalar type)) value) = .error (.slot cause) ∧
          s.answer (.load (.scalar type)) = .error (.slot cause)) ∧
        s.after (.store (some (.scalar type)) value) = s ∧ s.after (.load (.scalar type)) = s) ∧
      s.attempt (.store (some (.scalar .pointer)) .missing) =
        s.attempt (.store (some (.scalar .pointer)) (.int 0)) := by
  refine ⟨fun wide => ?_, fun narrow => ?_, rfl⟩
  · obtain ⟨s', stored, loads, others⟩ := store_of_wide inside writable word stands wide
    refine ⟨s', stored, fun type' word' same => ?_, others⟩
    obtain ⟨x, loaded, shows⟩ := loads type' word' same
    exact ⟨x, loaded, shows, fun y hy => hy.unique shows⟩
  · obtain ⟨cause, notStored, notLoaded⟩ := refused_of_narrow word stands narrow
    refine ⟨⟨cause, ?_, notLoaded⟩, after_of_error notStored, ?_⟩
    · rw [answer, notStored]
      rfl
    · cases attempted : s.attempt (.load (.scalar type)) with
      | error cause => exact after_of_error attempted
      | ok granted =>
        rw [answer, attempted] at notLoaded
        cases notLoaded

/-- A session whose window is two bytes in the middle of memory. -/
def pair : Session :=
  ⟨⟨4096, [1, 2, 3, 4]⟩, true, some ⟨4097, 2, true⟩⟩

/-- A number that is stored in a pair of bytes as one with a sign: it is seen below zero, without a
sign as it was, and for an address there is no room. -/
theorem store_load_pair :
    ∃ s', pair.attempt (.store (some (.scalar (.int .w16 true))) (.int 40000)) = .ok (s', .done) ∧
      s'.answer (.load (.scalar (.int .w16 true))) = .ok (.loaded (.scalar (.int (-25536)))) ∧
      s'.answer (.load (.scalar (.int .w16 false))) = .ok (.loaded (.scalar (.int 40000))) ∧
      s'.memory.byte? 4099 = some 4 ∧
      ∃ cause, pair.answer (.store (some (.scalar .pointer)) .missing) = .error (.slot cause) := by
  have inside : pair.slot.IsInside pair.memory := ⟨by decide, by decide⟩
  have given : Scalar.Stands (.int .w16 true) (.int 40000) 40000 := .inl rfl
  have none : Scalar.Stands .pointer .missing 0 := .inr ⟨rfl, rfl, rfl⟩
  obtain ⟨granted, -, -⟩ := store_load inside rfl rfl given
  obtain ⟨-, refused, -⟩ := store_load inside rfl rfl none
  obtain ⟨s', stored, loads, others⟩ := granted (by decide)
  obtain ⟨x, signed, -, below⟩ := loads (.int .w16 true) rfl rfl
  obtain ⟨y, unsigned, -, same⟩ := loads (.int .w16 false) rfl rfl
  obtain ⟨⟨cause, notStored, -⟩, -⟩ := refused (by decide)
  rw [← below (.int (-25536)) (.int (by decide) (by decide))] at signed
  rw [← same (.int 40000) (.int (by decide) rfl)] at unsigned
  exact ⟨s', stored, signed, unsigned, others 4099 (by decide), cause, notStored⟩

end Session

end EngineBindings
