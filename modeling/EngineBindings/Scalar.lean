import EngineBindings.Number.Numeral

/-! Scalars of the native interface.

A number, a truth value or an address crosses the interface in one of these types. Each has a
size, which is also its alignment, and a name in emitted code. -/
namespace EngineBindings

/-- The widths of whole numbers. -/
inductive Width where
  | w8
  | w16
  | w32
  | w64
  deriving DecidableEq

namespace Width

/-- A width in bits. -/
def bits : Width → Nat
  | w8 => 8
  | w16 => 16
  | w32 => 32
  | w64 => 64

/-- A width in bytes. -/
def bytes : Width → Nat
  | w8 => 1
  | w16 => 2
  | w32 => 4
  | w64 => 8

/-- All widths. -/
def all : List Width := [w8, w16, w32, w64]

theorem bits_eq_bytes (w : Width) : w.bits = 8 * w.bytes := by
  cases w <;> rfl

end Width

/-- A scalar type. -/
inductive Scalar where
  | bool
  | int (width : Width) (signed : Bool)
  | float
  | double
  /-- An address of 64 bits. -/
  | pointer
  deriving DecidableEq

/-- The name of a whole number type whose bits are given as a text. -/
def integerTypeNameOf (bits : String) (signed : Bool) : String :=
  "c_" ++ (if signed then "int" else "uint") ++ bits

/-- The name of a whole number type of a given number of bits. -/
def integerTypeName (bits : Int) (signed : Bool) : String :=
  integerTypeNameOf (Number.decimal bits) signed

/-- The name of the floating point type for a given number of bits. -/
def floatTypeName (bits : Int) : String :=
  if bits = 32 then "c_float" else "c_double"

namespace Scalar

/-- The name of a scalar type in emitted code. -/
def name : Scalar → String
  | bool => "c_bool"
  | int width signed => integerTypeName width.bits signed
  | float => floatTypeName 32
  | double => floatTypeName 64
  | pointer => "c_void_p"

/-- The size of a scalar in bytes, which is also its alignment. -/
def size : Scalar → Nat
  | bool => 1
  | int width _ => width.bytes
  | float => 4
  | double => 8
  | pointer => 8

/-- All scalar types. -/
def all : List Scalar :=
  [bool, float, double, pointer] ++
    Width.all.flatMap fun width => [int width true, int width false]

/-- The scalar type of a given name. -/
def ofName? (name : String) : Option Scalar :=
  all.find? (·.name = name)

theorem size_pos (s : Scalar) : 0 < s.size := by
  cases s with
  | int width _ => cases width <;> simp [size, Width.bytes]
  | _ => decide

end Scalar

end EngineBindings
