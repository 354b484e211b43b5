import EngineBindings.Number.Binary
import EngineBindings.Number.Numeral

/-! The shortest decimal of a double.

Of the decimals that read back as a given double, the text shows one with the fewest digits and
among those the nearest. Every real number between two bounds reads back as the double; the
search takes one digit more at a time and tests the two neighbours of the value on that decimal
grid, in exact arithmetic. -/
namespace EngineBindings.Number

/-- A quotient of natural numbers, its denominator positive. -/
structure Quotient where
  num : Nat
  den : Nat

namespace Quotient

/-- `num / den · 10 ^ (-p)`, so that the grid of step `10 ^ p` becomes the whole numbers. -/
def onGrid (x : Quotient) (p : Int) : Quotient :=
  ⟨x.num * tenPow (-p).toNat, x.den * tenPow p.toNat⟩

/-- The least `d` among the candidates with `x < 10 ^ d`. -/
def decimalExponent (x : Quotient) : Int :=
  let guess : Int := floorLog2 x.num x.den * 30103 / 100000
  ([guess, guess + 1, guess + 2].find? fun d =>
    decide (x.num * tenPow (-d).toNat < x.den * tenPow d.toNat)).getD (guess + 3)

end Quotient

namespace Binary64

/-- What a double rounds from: its value, the bounds on either side, and whether the bounds
themselves round to it. -/
structure Interval where
  low : Quotient
  value : Quotient
  high : Quotient
  closed : Bool

/-- The reals that round to a finite double that is not zero, the sign left out. -/
def interval (x : Binary64) : Interval :=
  let (m, q) := x.scaled
  let below := if m = twoPow 52 ∧ q > Format.double.minScale then 1 else 2
  let at4 (n : Nat) : Quotient := ⟨n * twoPow (q - 2).toNat, twoPow (2 - q).toNat⟩
  ⟨at4 (4 * m - below), at4 (4 * m), at4 (4 * m + 2), m % 2 == 0⟩

/-- Whether the whole number `t` of the grid of step `10 ^ p` lies in the interval. -/
def Interval.holds (i : Interval) (p : Int) (t : Nat) : Bool :=
  let low := i.low.onGrid p
  let high := i.high.onGrid p
  if i.closed then low.num ≤ t * low.den && t * high.den ≤ high.num
  else low.num < t * low.den && t * high.den < high.num

/-- The neighbour of the value on a grid that reads back, the nearer one if both do. -/
def Interval.neighbour? (i : Interval) (p : Int) : Option Nat :=
  let x := i.value.onGrid p
  let t := x.num / x.den
  match i.holds p t, i.holds p (t + 1) with
  | false, false => none
  | true, false => some t
  | false, true => some (t + 1)
  | true, true => some (roundDiv x.num x.den)

/-- Tries grids of `n` digits and more, of at most 17. -/
def Interval.search (i : Interval) (d : Int) : (fuel n : Nat) → Nat × Int
  | 0, _ => (0, 0)
  | fuel + 1, n =>
    match i.neighbour? (d - n) with
    | some t => (t, d - n)
    | none => i.search d fuel (n + 1)

/-- The shortest decimal `t · 10 ^ p` of a finite double that is not zero. -/
def shortest (x : Binary64) : Nat × Int :=
  let i := x.interval
  i.search i.value.decimalExponent 18 1

/-- How the values that are no finite number are spelt. -/
structure Spelling where
  nan : String
  infinity : String

/-- Decimal digits with the point after `d` of them: positional while the point falls close to
the digits, with a two-digit exponent otherwise. -/
def layoutDigits (digits : List Char) (d : Int) : String :=
  let zeros (n : Int) := List.replicate n.toNat '0'
  let cs :=
    if -4 < d ∧ d ≤ 16 then
      if d ≤ 0 then '0' :: '.' :: (zeros (-d) ++ digits)
      else if digits.length ≤ d.toNat then digits ++ zeros (d - digits.length) ++ ['.', '0']
      else digits.take d.toNat ++ '.' :: digits.drop d.toNat
    else
      let e := d - 1
      let mantissa := match digits with
        | [] => []
        | [c] => [c]
        | c :: rest => c :: '.' :: rest
      let size := (decimal e.natAbs).toList
      mantissa ++ 'e' :: (if e < 0 then '-' else '+') :: (zeros (2 - size.length) ++ size)
  String.ofList cs

/-- A double as text: the shortest decimal that reads back. -/
def text (spelling : Spelling) (x : Binary64) : String :=
  if x.isNaN then spelling.nan
  else
    let body :=
      if x.isInfinite then spelling.infinity
      else if x.isZero then "0.0"
      else
        let (t, p) := x.shortest
        let digits := (decimal t).toList
        let kept := Text.dropEndWhile (· == '0') digits
        layoutDigits kept (digits.length + p)
    if x.isNegative then "-" ++ body else body

end Binary64

end EngineBindings.Number
