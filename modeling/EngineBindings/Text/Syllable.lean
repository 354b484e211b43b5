import EngineBindings.Text.HalfPair

/-! Syllables of Hangul.

A syllable is put together from an initial letter, a vowel and perhaps a final letter. All of them
stand in one block, ordered by their letters. -/
namespace EngineBindings.Text

/-- What a syllable is made of: the places of its letters among the initials, the vowels and the
finals, of which the first is none. -/
structure Syllable where
  initial : Nat
  vowel : Nat
  final : Nat
  deriving DecidableEq

/-- The first of the block. -/
def firstSyllable : Nat := 0xAC00

/-- The syllable that a character is. -/
def syllable? (c : Char) : Option Syllable :=
  let n := c.toNat - firstSyllable
  if firstSyllable ≤ c.toNat ∧ n < 19 * 21 * 28 then
    some ⟨n / 588, n / 28 % 21, n % 28⟩
  else none

namespace Syllable

/-- The code point of a syllable. -/
def code (s : Syllable) : Nat :=
  firstSyllable + s.initial * 588 + s.vowel * 28 + s.final

/-- The character of a syllable. -/
def char (s : Syllable) : Char :=
  Char.ofNat s.code

/-- Whether the places are those of letters. -/
def Exists (s : Syllable) : Prop :=
  s.initial < 19 ∧ s.vowel < 21 ∧ s.final < 28

theorem toNat_char (s : Syllable) (h : s.Exists) : s.char.toNat = s.code := by
  obtain ⟨hi, hv, hf⟩ := h
  apply toNat_ofNat
  simp only [Nat.isValidChar, code, firstSyllable]
  omega

end Syllable

/-- A syllable is read back from its character. -/
theorem syllable?_char (s : Syllable) (h : s.Exists) : syllable? s.char = some s := by
  have place : s.char.toNat - firstSyllable = s.initial * 588 + s.vowel * 28 + s.final := by
    rw [s.toNat_char h, Syllable.code]
    omega
  have first : firstSyllable ≤ s.char.toNat := by
    rw [s.toNat_char h, Syllable.code]
    omega
  obtain ⟨hi, hv, hf⟩ := h
  simp only [syllable?, place]
  rw [if_pos ⟨first, by omega⟩]
  obtain ⟨initial, vowel, final⟩ := s
  simp only [Option.some.injEq, Syllable.mk.injEq]
  simp only at hi hv hf
  omega

end EngineBindings.Text
