import EngineBindings.Number.Power
import EngineBindings.Text.Digit
import EngineBindings.Text.Segment

/-! Whole numbers written as text.

A numeral may stand between blanks and start with a sign; its digits may come from any script
and may be parted by single underscores. Numerals of more than `maxDigits` digits are refused,
so that reading one takes bounded time, and no whole number of more digits is written. -/
namespace EngineBindings.Number

open EngineBindings.Text

/-- The most digits a numeral may have. -/
def maxDigits : Nat := 4300

/-- Blanks that may surround a numeral: all but the information separators. -/
def isNumeralBlank (c : Char) : Bool :=
  isBlank c && !(28 ≤ c.toNat && c.toNat ≤ 31)

/-- The number that a run of decimal digits spells. -/
def digitsValue (cs : List Char) : Nat :=
  cs.foldl (fun n c => 10 * n + (decimalValue? c).getD 0) 0

/-- The number spelt by groups of digits with single underscores between them. -/
def groupedDigits? (cs : List Char) : Option Nat :=
  let groups := fields '_' cs
  if groups.all (fun group => !group.isEmpty && group.all isDecimal) &&
      groups.flatten.length ≤ maxDigits then
    some (digitsValue groups.flatten)
  else none

/-- The whole number that a text spells, if it spells one. -/
def integer? (text : String) : Option Int :=
  match dropEndWhile isNumeralBlank (text.toList.dropWhile isNumeralBlank) with
  | '-' :: cs => (groupedDigits? cs).map fun n => -(n : Int)
  | '+' :: cs => (groupedDigits? cs).map fun n => (n : Int)
  | cs => (groupedDigits? cs).map fun n => (n : Int)

/-- Whether a whole number has few enough digits to be written. -/
def isWritable (n : Int) : Bool :=
  n.natAbs < tenPow maxDigits

theorem isWritable_of_small {n : Int} (low : 0 ≤ n) (high : n ≤ twoPow 31) :
    isWritable n = true := by
  have ten : tenPow 10 = 10000000000 := rfl
  have most : twoPow 31 = 2147483648 := rfl
  refine decide_eq_true ?_
  calc n.natAbs < tenPow 10 := by omega
    _ ≤ tenPow maxDigits := tenPow_le (by decide)

/-- The decimal digits of a whole number, after a minus when it is negative. -/
def decimal (n : Int) : String :=
  toString n

theorem toList_decimal (n : Nat) : (decimal n).toList = Nat.toDigits 10 n := by
  simp [decimal, toString, Int.repr, Nat.repr]

theorem decimal_injective {m n : Nat} (h : decimal m = decimal n) : m = n := by
  have digits := congrArg (fun text => Nat.ofDigitChars 10 text.toList 0) h
  simpa [toList_decimal, Nat.ofDigitChars_ten_toDigits] using digits

end EngineBindings.Number
