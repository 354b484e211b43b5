import EngineBindings.Number.Power

/-! Binary floating point numbers as their bits.

A format has a fraction and an exponent field below a sign bit (`Format`). `magnitude` gives the
bits of the number nearest to a quotient, a tie going to the even one and a quotient past the
largest finite number to infinity; conversions between formats, from decimals and from whole
numbers all go through it. A double is kept as its bits (`Binary64`), so that equal values are
equal bits and nothing depends on the machine's own arithmetic. -/
namespace EngineBindings.Number

/-! ### Formats -/

/-- The widths of the two fields below the sign bit. -/
structure Format where
  /-- Bits of the fraction. -/
  fraction : Nat
  /-- Bits of the exponent. -/
  exponent : Nat

namespace Format

/-- Double precision. -/
def double : Format := ⟨52, 11⟩

/-- Single precision. -/
def single : Format := ⟨23, 8⟩

/-- The power of two that the last bit of a subnormal number stands for. -/
def minScale (f : Format) : Int :=
  2 - (twoPow (f.exponent - 1) : Int) - f.fraction

/-- The bits of infinity without the sign. -/
def infinity (f : Format) : Nat :=
  (twoPow f.exponent - 1) * twoPow f.fraction

/-- The sign bit alone. -/
def signBit (f : Format) : Nat :=
  twoPow (f.fraction + f.exponent)

end Format

/-! ### Rounding a quotient -/

/-- The whole number nearest to a quotient, a tie going to the even one. -/
def roundDiv (num den : Nat) : Nat :=
  let q := num / den
  let r := num % den
  if 2 * r > den ∨ (2 * r = den ∧ q % 2 = 1) then q + 1 else q

/-- The greatest `k` with `2 ^ k ≤ num / den`, for positive `num` and `den`. -/
def floorLog2 (num den : Nat) : Int :=
  let k : Int := (num.log2 : Int) - den.log2
  if num * twoPow (-k).toNat ≥ den * twoPow k.toNat then k else k - 1

/-- The bits, without the sign, of the number nearest to `num / den`. -/
def Format.magnitude (f : Format) (num den : Nat) : Nat :=
  if num = 0 then 0
  else
    let scale := max (floorLog2 num den - f.fraction) f.minScale
    let n := roundDiv (num * twoPow (-scale).toNat) (den * twoPow scale.toNat)
    min ((scale - f.minScale).toNat * twoPow f.fraction + n) f.infinity

/-! ### Doubles -/

/-- A double precision number, as its 64 bits. -/
structure Binary64 where
  /-- Sign, exponent and fraction, the sign highest. -/
  bits : UInt64
  deriving DecidableEq, Inhabited

namespace Binary64

/-- The bits below the sign. -/
def magnitude (x : Binary64) : Nat :=
  x.bits.toNat % Format.double.signBit

/-- Whether the sign bit is set. -/
def isNegative (x : Binary64) : Bool :=
  x.bits.toNat ≥ Format.double.signBit

/-- Not a number: an exponent of ones over a fraction that is not zero. -/
def isNaN (x : Binary64) : Bool :=
  x.magnitude > Format.double.infinity

/-- One of the two infinities. -/
def isInfinite (x : Binary64) : Bool :=
  x.magnitude = Format.double.infinity

/-- One of the two zeros. -/
def isZero (x : Binary64) : Bool :=
  x.magnitude = 0

/-- A sign and the bits below it as a number. -/
def ofMagnitude (negative : Bool) (magnitude : Nat) : Binary64 :=
  ⟨UInt64.ofNat (magnitude + if negative then Format.double.signBit else 0)⟩

/-- The quiet not-a-number. -/
def nan : Binary64 := ⟨0x7FF8000000000000⟩

/-- Infinity of either sign. -/
def infinity (negative : Bool) : Binary64 :=
  ofMagnitude negative Format.double.infinity

/-- The significand and scale of a finite number: its absolute value is `m · 2 ^ q`. -/
def scaled (x : Binary64) : Nat × Int :=
  let field : Nat := x.magnitude / twoPow 52
  let fraction : Nat := x.magnitude % twoPow 52
  if field = 0 then (fraction, Format.double.minScale)
  else (fraction + twoPow 52, (field : Int) - 1 + Format.double.minScale)

/-- The number nearest to `m · 10 ^ e`. Exponents past every finite number need no powers. -/
def ofDecimal (negative : Bool) (m : Nat) (e : Int) : Binary64 :=
  if m = 0 ∨ e + Int.ofNat (m.log2 / 3) + 1 < -400 then ofMagnitude negative 0
  else if e > 400 then infinity negative
  else ofMagnitude negative (Format.double.magnitude (m * tenPow e.toNat) (tenPow (-e).toNat))

/-- The number nearest to a whole number, if it is finite. -/
def ofInt? (n : Int) : Option Binary64 :=
  let magnitude := Format.double.magnitude n.natAbs 1
  if magnitude = Format.double.infinity then none else some (ofMagnitude (decide (n < 0)) magnitude)

/-- The whole part of a finite number. -/
def truncate (x : Binary64) : Int :=
  let (m, q) := x.scaled
  let whole := Int.ofNat (m * twoPow q.toNat / twoPow (-q).toNat)
  if x.isNegative then -whole else whole

/-- Whether a number is finite and has no fraction. -/
def isWhole (x : Binary64) : Bool :=
  let (m, q) := x.scaled
  !x.isNaN && !x.isInfinite && m % twoPow (-q).toNat = 0

/-- A number in units of the least positive double, of which every finite double is a whole
multiple. An infinity is put past every whole number that can be written. -/
def units? (x : Binary64) : Option Int :=
  if x.isNaN then none
  else
    let (m, q) := x.scaled
    let magnitude := Int.ofNat (if x.isInfinite then twoPow 16000
      else m * twoPow (q - Format.double.minScale).toNat)
    some (if x.isNegative then -magnitude else magnitude)

/-- A whole number in units of the least positive double. -/
def unitsOfInt (n : Int) : Int :=
  n * twoPow (-Format.double.minScale).toNat

/-- The bits of the nearest single precision number. A not-a-number keeps its sign and the high
bits of its fraction and becomes quiet. -/
def toSingle (x : Binary64) : Nat :=
  let sign := if x.isNegative then Format.single.signBit else 0
  let body :=
    if x.isNaN then Format.single.infinity + twoPow 22 + x.magnitude % twoPow 51 / twoPow 29
    else if x.isInfinite then Format.single.infinity
    else
      let (m, q) := x.scaled
      Format.single.magnitude (m * twoPow q.toNat) (twoPow (-q).toNat)
  sign + body

/-- The double equal to a single precision number given by its bits. -/
def ofSingle (bits : Nat) : Binary64 :=
  let negative := decide (bits % twoPow 32 ≥ Format.single.signBit)
  let magnitude := bits % Format.single.signBit
  if magnitude > Format.single.infinity then
    ofMagnitude negative 
      (Format.double.infinity + twoPow 51 + magnitude % twoPow 22 * twoPow 29)
  else if magnitude = Format.single.infinity then infinity negative
  else
    let field : Nat := magnitude / twoPow 23
    let fraction : Nat := magnitude % twoPow 23
    let m := if field = 0 then fraction else fraction + twoPow 23
    let q : Int := (max field 1 : Nat) - 1 + Format.single.minScale
    ofMagnitude negative 
      (Format.double.magnitude (m * twoPow q.toNat) (twoPow (-q).toNat))

end Binary64

end EngineBindings.Number
