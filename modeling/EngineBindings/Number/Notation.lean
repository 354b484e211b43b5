import EngineBindings.Number.Numeral
import EngineBindings.Number.Power

/-! Notations of natural numbers besides decimal numerals.

A number can be written in base eight or sixteen, with a decimal fraction, or as digits and a
power of ten. Where digits are left out the last one is rounded, a half to the even neighbour. -/
namespace EngineBindings.Number

/-- The digits of a number in a base of at most sixteen. -/
def digitsIn (base n : Nat) : String :=
  String.ofList (Nat.toDigits base n)

/-- A decimal point with digits behind it. Without digits the point is written only if asked
for. -/
def fraction (digits : String) (point : Bool) : String :=
  if digits.isEmpty && !point then "" else "." ++ digits

/-- Zeros. -/
def zeros (count : Nat) : String :=
  String.ofList (List.replicate count '0')

/-- A number with `places` digits behind the decimal point. -/
def fixed (places : Nat) (point : Bool) (n : Nat) : String :=
  decimal n ++ fraction (zeros places) point

/-- A quotient rounded to the nearest whole number, a half to the even neighbour. -/
def roundedQuotient (n divisor : Nat) : Nat :=
  let quotient := n / divisor
  let rest := 2 * (n % divisor)
  if rest < divisor ∨ (rest = divisor ∧ quotient % 2 = 0) then quotient else quotient + 1

/-- The first `places + 1` digits of a number and the power of ten of the first one. -/
def leading (places n : Nat) : String × Nat :=
  let digits := decimal n
  let power := digits.length - 1
  if power ≤ places then (digits ++ zeros (places - power), power)
  else
    let rounded := decimal (roundedQuotient n (tenPow (power - places)))
    if rounded.length > places + 1 then (String.ofList (rounded.toList.take (places + 1)), power + 1)
    else (rounded, power)

/-- A power of ten behind its mark. -/
def exponent (mark : Char) (power : Nat) : String :=
  String.singleton mark ++ "+" ++ zeros (2 - (decimal power).length) ++ decimal power

/-- A text without the zeros at its end. -/
def dropZeros (digits : String) : String :=
  String.ofList (digits.toList.reverse.dropWhile (· = '0')).reverse

/-- Digits as a digit, a fraction and a power of ten. -/
def scientificText (mark : Char) (point : Bool) (digits : String) (power : Nat) : String :=
  String.ofList (digits.toList.take 1) ++
    fraction (String.ofList (digits.toList.drop 1)) point ++ exponent mark power

/-- A number as a digit, `places` digits behind the point and a power of ten. -/
def scientific (mark : Char) (places : Nat) (point : Bool) (n : Nat) : String :=
  let (digits, power) := leading places n
  scientificText mark point digits power

/-- A number with `count` digits that count, in whichever notation is shorter. Zeros behind the
point are left out unless the point is asked for. -/
def general (mark : Char) (count : Nat) (point : Bool) (n : Nat) : String :=
  let count := max 1 count
  let (digits, power) := leading (count - 1) n
  if power < count then
    if point then fixed (count - 1 - power) true n else decimal n
  else
    let tail := String.ofList (digits.toList.drop 1)
    scientificText mark point
      (String.ofList (digits.toList.take 1) ++ if point then tail else dropZeros tail) power

end EngineBindings.Number
