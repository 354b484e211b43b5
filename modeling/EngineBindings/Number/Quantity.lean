import EngineBindings.Number.Numeral
import EngineBindings.Number.Shortest

/-! Numbers as a document writes them.

A number is whole or a floating point one, and a truth value counts as zero or one wherever a
number is needed. Sums and differences stay whole as long as both numbers are; `canCombine` tells whether
there is one. Numbers are
compared by what they stand for, not by how they are written. Whole numbers alone are enough
wherever a document has been read already; `Measured` is what they have in common with the others,
so that one rule serves both. -/
namespace EngineBindings.Number

namespace Binary64

/-- The number nearest to a multiple of the least positive double. -/
def ofUnits (n : Int) : Binary64 :=
  ofMagnitude (decide (n < 0))
    (Format.double.magnitude n.natAbs (twoPow (-Format.double.minScale).toNat))

/-- A number with the other sign. -/
def negated (x : Binary64) : Binary64 :=
  ofMagnitude (!x.isNegative) x.magnitude

/-- The sum of two numbers, rounded to the nearest. -/
def add (x y : Binary64) : Binary64 :=
  if x.isNaN || y.isNaN then nan
  else if x.isInfinite then
    if y.isInfinite && x.isNegative != y.isNegative then nan else x
  else if y.isInfinite then y
  else
    let sum := x.units?.getD 0 + y.units?.getD 0
    if sum = 0 then ofMagnitude (x.isNegative && y.isNegative) 0 else ofUnits sum

/-- The number nearest to a whole number; infinity where that is past every finite one. -/
def ofInt (n : Int) : Binary64 :=
  ofMagnitude (decide (n < 0)) (Format.double.magnitude n.natAbs 1)

/-- The spelling of values that are no finite number inside messages. -/
def plainSpelling : Spelling := ⟨"nan", "inf"⟩

end Binary64

/-- A number as a document writes it. -/
inductive Quantity where
  | truth (b : Bool)
  | whole (n : Int)
  | real (x : Binary64)

namespace Quantity

/-- The whole number that a quantity is, unless it is a floating point one. -/
def integer? : Quantity → Option Int
  | truth b => some (if b then 1 else 0)
  | whole n => some n
  | real _ => none

/-- A quantity as a floating point number. -/
def asReal : Quantity → Binary64
  | truth b => .ofInt (if b then 1 else 0)
  | whole n => .ofInt n
  | real x => x

/-- Whether two quantities have a sum and a difference. Two whole numbers have; any other two are
added as floating point numbers, which not every whole number is near to. -/
def canCombine (a b : Quantity) : Bool :=
  (a.integer?.isSome && b.integer?.isSome) || (isNearReal a && isNearReal b)
where
  /-- Whether a quantity is a floating point number or near to one. -/
  isNearReal : Quantity → Bool
    | whole n => !(Binary64.ofInt n).isInfinite
    | _ => true

/-- A quantity in units of the least positive double, unless it is not a number. -/
def units? : Quantity → Option Int
  | truth b => some (Binary64.unitsOfInt (if b then 1 else 0))
  | whole n => some (Binary64.unitsOfInt n)
  | real x => x.units?

/-- Whether a quantity is less than another one. -/
def isBelow (a b : Quantity) : Bool :=
  match a.units?, b.units? with
  | some m, some n => decide (m < n)
  | _, _ => false

instance : Zero Quantity := ⟨whole 0⟩

instance : LT Quantity := ⟨fun a b => a.isBelow b = true⟩

instance : DecidableLT Quantity := fun a b => inferInstanceAs (Decidable (a.isBelow b = true))

instance : Add Quantity := ⟨fun a b =>
  match a.integer?, b.integer? with
  | some m, some n => whole (m + n)
  | _, _ => real (a.asReal.add b.asReal)⟩

instance : Sub Quantity := ⟨fun a b =>
  match a.integer?, b.integer? with
  | some m, some n => whole (m - n)
  | _, _ => real (a.asReal.add b.asReal.negated)⟩

/-- A quantity inside a message. -/
def text : Quantity → String
  | truth b => if b then "True" else "False"
  | whole n => decimal n
  | real x => x.text Binary64.plainSpelling

/-- Whether a quantity has few enough digits to be written. -/
def isWritable : Quantity → Bool
  | whole n => Number.isWritable n
  | _ => true

end Quantity

/-- Numbers that can be written. -/
class Measured (N : Type) where
  /-- The number zero. -/
  zero : N
  /-- A number as a document would write it. -/
  quantity : N → Quantity

instance : Measured Int := ⟨0, .whole⟩

instance : Measured Quantity := ⟨.whole 0, id⟩

end EngineBindings.Number
