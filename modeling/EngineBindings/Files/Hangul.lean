import EngineBindings.Files.CharCode
import EngineBindings.Text.Syllable

/-! Syllables of Hangul in codes.

The letters stand in one block of their own, from which the initials and the finals of syllables
take a part each. Two codes write syllables by their letters: one as three numbers of five bits, the
other as the letters one after another behind a filler. -/
namespace EngineBindings.Hangul

open EngineBindings.Text

/-- The letters that begin a syllable, counted from one through the block of letters. -/
def initials : List Nat :=
  [1, 2, 4, 7, 8, 9, 17, 18, 19, 21, 22, 23, 24, 25, 26, 27, 28, 29, 30]

/-- The letters that end a syllable; the first is none. -/
def finals : List Nat :=
  [0, 1, 2, 3, 4, 5, 6, 7, 9, 10, 11, 12, 13, 14, 15, 16, 17, 18, 20, 21, 22, 23, 24, 26, 27, 28,
    29, 30]

/-- The vowels. -/
def vowels : List Nat :=
  (List.range 21).map (31 + ·)

/-- A letter by its place in the block of letters. -/
def letter (place : Nat) : Char := Char.ofNat (0x3130 + place)

/-! ### Letters behind a filler -/

/-- The byte in front of every letter. -/
def letterLead : Nat := 0xA4

/-- The byte of a letter. -/
def letterByte (place : Nat) : Nat := 0xA0 + place

/-- The byte of no letter. -/
def fillerByte : Nat := 0xD4

/-- Syllables as a filler and three letters, in eight bytes. -/
def spelledOut : CharCode :=
  { write := fun c _ => do
      let s ← syllable? c
      let final ← finals[s.final]?
      let trails := [fillerByte, letterByte (← initials[s.initial]?), letterByte (← vowels[s.vowel]?),
        if final = 0 then fillerByte else letterByte final]
      return (trails.flatMap fun trail => [CharCode.byte letterLead, CharCode.byte trail], 0)
    read := fun b bs => do
      match (b :: bs.take 7).map (·.toNat) with
      | [0xA4, 0xD4, 0xA4, initial, 0xA4, vowel, 0xA4, final] =>
        let s : Syllable :=
          ⟨← initials.findIdx? (letterByte · = initial), ← vowels.findIdx? (letterByte · = vowel),
            ← if final = fillerByte then some 0
              else (finals.drop 1).findIdx? (letterByte · = final) |>.map (· + 1)⟩
        return ([s.char], 7)
      | _ => none }

/-! ### Three numbers of five bits -/

/-- The numbers of no initial and the initials. -/
def initialNumbers : List Nat :=
  (List.range 20).map (1 + ·)

/-- The numbers of no vowel and the vowels. -/
def vowelNumbers : List Nat :=
  [2, 3, 4, 5, 6, 7, 10, 11, 12, 13, 14, 15, 18, 19, 20, 21, 22, 23, 26, 27, 28, 29]

/-- The numbers of no final and the finals. -/
def finalNumbers : List Nat :=
  (List.range 17).map (1 + ·) ++ (List.range 11).map (19 + ·)

/-- The character of letters that may be missing: places in the three lists of numbers. -/
def assembled? (initial vowel final : Nat) : Option Char :=
  match initial, vowel, final with
  | 0, 0, 0 => some (Char.ofNat 0x3000)
  | 0, 0, final => finals[final]?.map letter
  | 0, vowel + 1, 0 => vowels[vowel]?.map letter
  | initial + 1, 0, 0 => initials[initial]?.map letter
  | initial + 1, vowel + 1, final => some (Syllable.mk initial vowel final).char
  | _, _, _ => none

/-- The code of letters that may be missing. -/
def packed? (initial vowel final : Nat) : Option Nat := do
  return 0x8000 + (← initialNumbers[initial]?) * 0x400 + (← vowelNumbers[vowel]?) * 0x20 +
    (← finalNumbers[final]?)

/-- The places of the letters of a character. A letter that begins syllables is taken for an
initial. -/
def places? (c : Char) : Option (Nat × Nat × Nat) :=
  match syllable? c with
  | some s => some (s.initial + 1, s.vowel + 1, s.final)
  | none =>
    ((initials.findIdx? (letter · = c)).map fun i => (i + 1, 0, 0)) <|>
    ((vowels.findIdx? (letter · = c)).map fun i => (0, i + 1, 0)) <|>
    (((finals.drop 1).findIdx? (letter · = c)).map fun i => (0, 0, i + 1))

/-- Syllables and letters as three numbers of five bits. -/
def fiveBits : CharCode :=
  { write := fun c _ => do
      let (initial, vowel, final) ← places? c
      let code ← packed? initial vowel final
      return ([CharCode.byte (code / 0x100), CharCode.byte (code % 0x100)], 0)
    read := fun b bs => do
      let code := b.toNat * 0x100 + (← bs.head?).toNat
      if code < 0x8000 then none
      let c ← assembled? (← initialNumbers.findIdx? (· = code / 0x400 % 0x20))
        (← vowelNumbers.findIdx? (· = code / 0x20 % 0x20))
        (← finalNumbers.findIdx? (· = code % 0x20))
      return ([c], 1) }

end EngineBindings.Hangul
