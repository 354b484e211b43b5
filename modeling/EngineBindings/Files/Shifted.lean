import EngineBindings.Memory.Word
import EngineBindings.Text.HalfPair
import EngineBindings.Text.Segment

/-! Texts of seven bits.

Most of ASCII stands for itself. Everything else is shifted: a plus, units of two bytes as digits
of six bits with zeros to fill up the last one, and a dash. The dash is left out where what
follows can be no digit and no dash. A plus by itself is a plus with a dash. -/
namespace EngineBindings.Shifted

open EngineBindings.Text

/-! ### Characters and digits -/

/-- The digits of six bits. -/
def digits : List Char :=
  "ABCDEFGHIJKLMNOPQRSTUVWXYZabcdefghijklmnopqrstuvwxyz0123456789+/".toList

/-- The digit of a value. -/
def digit (value : Nat) : Char :=
  digits.getD value 'A'

/-- The value of a digit. -/
def value? (c : Char) : Option Nat :=
  digits.findIdx? (· = c)

/-- Characters that stand for themselves. -/
def isDirect (c : Char) : Bool :=
  c = '\t' || c = '\n' || c = '\r' ||
    (32 ≤ c.toNat && c.toNat < 127 && c ≠ '+' && c ≠ '\\' && c ≠ '~')

/-- The units of two bytes that spell a character. -/
def units (c : Char) : List Nat :=
  let n := c.toNat
  if n < 0x10000 then [n]
  else [0xD800 + (n - 0x10000) / 0x400, 0xDC00 + (n - 0x10000) % 0x400]

/-! ### Writing -/

/-- The bits of a number, the highest first. -/
def bits (width n : Nat) : List Bool :=
  (List.range width).reverse.map n.testBit

/-- The number that bits spell, the highest first. -/
def number (bs : List Bool) : Nat :=
  bs.foldl (fun n b => 2 * n + b.toNat) 0

/-- Bits as digits, with zeros to fill up the last one. -/
def digitsOfBits : List Bool → List Char
  | a :: b :: c :: d :: e :: f :: rest => digit (number [a, b, c, d, e, f]) :: digitsOfBits rest
  | [] => []
  | rest => [digit (number ((rest ++ List.replicate 5 false).take 6))]

/-- A run of characters, shifted. `follows` is what comes behind it. -/
def shift (run : List Char) (follows : Option Char) : List Char :=
  let needsEnd := match follows with
    | some c => c = '-' || (value? c).isSome
    | none => true
  '+' :: digitsOfBits ((run.flatMap units).flatMap (bits 16)) ++ if needsEnd then ['-'] else []

/-- The characters of a text, the last of them first written: `run` is the run that what has been
read ends in. -/
def encodeChars : (run : List Char) → List Char → List Char
  | [], [] => []
  | c :: run, [] => shift (c :: run).reverse none
  | [], c :: rest =>
    if c = '+' then '+' :: '-' :: encodeChars [] rest
    else if isDirect c then c :: encodeChars [] rest
    else encodeChars [c] rest
  | r :: run, c :: rest =>
    if isDirect c then shift (r :: run).reverse (some c) ++ c :: encodeChars [] rest
    else encodeChars (c :: r :: run) rest

/-- A text in seven bits. -/
def encode (text : String) : ByteArray :=
  (String.ofList (encodeChars [] text.toList)).toUTF8

/-! ### Reading -/

/-- The units that digits spell; nothing if bits of a digit are left over that say something. -/
def unitsOfDigits? (values : List Nat) : Option (List Nat) :=
  let all := values.flatMap (bits 6)
  let rest := all.drop (all.length / 16 * 16)
  if rest.length < 6 && rest.all (!·) then
    some ((List.range (all.length / 16)).map fun n => number ((all.drop (16 * n)).take 16))
  else none

/-- The characters of a text that units spell, of which a half of a pair may be one. -/
def charsOfUnits : List Nat → List Char
  | high :: low :: rest =>
    if 0xD800 ≤ high ∧ high < 0xDC00 ∧ 0xDC00 ≤ low ∧ low < 0xE000 then
      ofPair high low :: charsOfUnits rest
    else spelling high ++ charsOfUnits (low :: rest)
  | [unit] => spelling unit
  | [] => []

/-- Whether units end in the first half of a pair. -/
def endsOpen (units : List Nat) : Bool :=
  match units.getLast? with
  | some unit => 0xD800 ≤ unit && unit < 0xDC00
  | none => false

/-- The characters of a run of digits, given what follows it. At the end of a text no pair may
be open; a character that cannot stand for itself swallows the half of a pair. -/
def readRun? (values : List Nat) (rest : List Char) : Option (List Char) := do
  let units ← unitsOfDigits? values
  match rest with
  | [] => if endsOpen units then none else some (charsOfUnits units)
  | c :: _ =>
    if endsOpen units && (c = '+' || 127 < c.toNat) then some (charsOfUnits units.dropLast)
    else some (charsOfUnits units)

/-- The text without the dash that ends a run. -/
def dropEnd : List Char → List Char
  | '-' :: rest => rest
  | rest => rest

theorem length_dropEnd_le (cs : List Char) : (dropEnd cs).length ≤ cs.length := by
  unfold dropEnd
  split
  · simp
  · exact Nat.le_refl _

/-- The characters that a list of characters below 128 spells; nothing if it is malformed. -/
def decodeChars? : List Char → Option (List Char)
  | [] => some []
  | '+' :: '-' :: rest => (decodeChars? rest).map ('+' :: ·)
  | '+' :: rest =>
    let run := rest.takeWhile fun c => (value? c).isSome
    let behind := rest.dropWhile fun c => (value? c).isSome
    if run.isEmpty && !rest.isEmpty then none
    else do
      let chars ← readRun? (run.filterMap value?) behind
      return chars ++ (← decodeChars? (dropEnd behind))
  | c :: rest => if c.toNat < 128 then (decodeChars? rest).map (c :: ·) else none
termination_by cs => cs.length
decreasing_by
  · simp only [List.length_cons]; omega
  · have h := length_dropEnd_le (rest.dropWhile fun c => (value? c).isSome)
    have := (List.dropWhile_sublist (fun c => (value? c).isSome) (l := rest)).length_le
    simp only [List.length_cons]; omega
  · simp

/-- The text that bytes spell. -/
def decode? (bytes : ByteArray) : Option String :=
  (decodeChars? (bytes.data.toList.map fun b => Char.ofNat b.toNat)).map String.ofList

end EngineBindings.Shifted
