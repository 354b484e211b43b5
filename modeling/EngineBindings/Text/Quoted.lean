import EngineBindings.Text.HalfPair
import EngineBindings.Text.Printable
import EngineBindings.Text.Segment

/-! Quoted text, as the emitted tables spell their keys.

The quotes are single unless the text holds a single quote and no double one. Inside, the
backslash, the chosen quote and the three common controls get a backslash escape, every other
character that is not printable its code point in two, four or eight hexadecimal digits. -/
namespace EngineBindings.Text

/-! ### Hexadecimal digits

They are written in lower case and read in either. Reading what was written gives back the number,
as far as the digits reach. -/

/-- A hexadecimal digit in lower case. -/
def hexDigit (n : Nat) : Char :=
  if n < 10 then Char.ofNat (48 + n) else Char.ofNat (87 + n)

/-- The last `width` hexadecimal digits of a number, the most significant first. -/
def hexDigits : (width n : Nat) → List Char
  | 0, _ => []
  | width + 1, n => hexDigits width (n / 16) ++ [hexDigit (n % 16)]

/-- The value of a hexadecimal digit. -/
def hexValue? (c : Char) : Option Nat :=
  let n := c.toNat
  if 48 ≤ n && n ≤ 57 then some (n - 48)
  else if 97 ≤ n && n ≤ 102 then some (n - 87)
  else if 65 ≤ n && n ≤ 70 then some (n - 55)
  else none

/-- The number that hexadecimal digits spell. -/
def hexNumber? (cs : List Char) : Option Nat :=
  cs.foldlM (fun n c => (hexValue? c).map (16 * n + ·)) 0

theorem hexValue?_hexDigit (n : Nat) (h : n < 16) : hexValue? (hexDigit n) = some n := by
  revert n
  decide

theorem hexNumber?_concat (cs : List Char) (c : Char) :
    hexNumber? (cs ++ [c]) = (hexNumber? cs).bind fun n => (hexValue? c).map (16 * n + ·) := by
  simp [hexNumber?, List.foldlM_append]

/-- The digits of a number that has so few of them are read as the number. -/
theorem hexNumber?_hexDigits (width n : Nat) (h : n < Nat.pow 16 width) :
    hexNumber? (hexDigits width n) = some n := by
  induction width generalizing n with
  | zero =>
    have zero : n = 0 := Nat.lt_one_iff.1 h
    rw [zero]
    rfl
  | succ width ih =>
    have small : n / 16 < Nat.pow 16 width := Nat.div_lt_of_lt_mul (Nat.mul_comm _ _ ▸ h)
    rw [hexDigits, hexNumber?_concat, ih _ small, Option.bind_some,
      hexValue?_hexDigit _ (Nat.mod_lt _ (by decide)), Option.map_some, Nat.div_add_mod]

/-! ### Quoting -/

/-- The quote that a text is written in. -/
def quoteFor (cs : List Char) : Char :=
  if cs.contains '\'' && !cs.contains '"' then '"' else '\''

/-- A code point as an escape. -/
def codeEscape (code : Nat) : List Char :=
  if code < 0x100 then '\\' :: 'x' :: hexDigits 2 code
  else if code < 0x10000 then '\\' :: 'u' :: hexDigits 4 code
  else '\\' :: 'U' :: hexDigits 8 code

/-- One code point inside quotes. -/
def quotedCode (quote : Char) (code : Nat) : List Char :=
  let c := Char.ofNat code
  if isHalf code then codeEscape code
  else if c = quote ∨ c = '\\' then ['\\', c]
  else if c = '\n' then ['\\', 'n']
  else if c = '\r' then ['\\', 'r']
  else if c = '\t' then ['\\', 't']
  else if isPrintable c then [c]
  else codeEscape code

/-- A text in quotes. -/
def quoted (s : String) : String :=
  let cs := s.toList
  let quote := quoteFor cs
  String.ofList (quote :: ((codes cs).flatMap (quotedCode quote) ++ [quote]))

/-- A character of a quoted text, escaped if it is outside ASCII. -/
def asciiChar (c : Char) : List Char :=
  if c.toNat < 128 then [c] else codeEscape c.toNat

/-- A quoted text with every character outside ASCII escaped. -/
def asciiOnly (quotedText : String) : String :=
  String.ofList (quotedText.toList.flatMap asciiChar)

/-- A parenthesised list of items; a single item keeps a comma after it. -/
def tuple : List String → String
  | [] => "()"
  | [item] => "(" ++ item ++ ",)"
  | items => "(" ++ join ", " items ++ ")"

end EngineBindings.Text
