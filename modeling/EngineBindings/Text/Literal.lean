import EngineBindings.Text.Digit
import EngineBindings.Text.Segment

/-! Literals among the default values of a schema.

A default value is a text. Some texts have a plain spelling in the emitted language: the two
truth values, the null, numerals and double-quoted strings without a backslash. All others
(constructor calls, arrays, …) have none. -/
namespace EngineBindings.Text

/-- What follows a run of at least one digit, if there is one. -/
def dropDigits? : List Char → Option (List Char)
  | [] => none
  | c :: cs => if isDecimal c then some (cs.dropWhile isDecimal) else none

/-- What follows the digits of a numeral: digits with an optional fraction, or a fraction. -/
def dropMantissa? (cs : List Char) : Option (List Char) :=
  match cs with
  | '.' :: rest => dropDigits? rest
  | _ =>
    match dropDigits? cs with
    | some ('.' :: rest) => some (rest.dropWhile isDecimal)
    | other => other

/-- Whether a list is empty or an exponent: `e` or `E`, an optional sign, digits. -/
def isExponentOrEmpty : List Char → Bool
  | [] => true
  | mark :: cs =>
    (mark = 'e' || mark = 'E') &&
      match cs with
      | sign :: rest =>
        if sign = '+' ∨ sign = '-' then dropDigits? rest == some [] else dropDigits? cs == some []
      | [] => false

/-- A numeral: an optional minus, digits with an optional fraction, an optional exponent. -/
def isNumeral (cs : List Char) : Bool :=
  let body := match cs with
    | '-' :: rest => rest
    | _ => cs
  match dropMantissa? body with
  | some rest => isExponentOrEmpty rest
  | none => false

/-- A text between double quotes that holds no backslash. -/
def isPlainString (cs : List Char) : Bool :=
  2 ≤ cs.length && cs.head? == some '"' && cs.getLast? == some '"' && !cs.contains '\\'

/-- The literal that spells a default value, if it has a plain one. -/
def literal? (text : String) : Option String :=
  let cs := stripChars text.toList
  let s := String.ofList cs
  if s = "true" then some "True"
  else if s = "false" then some "False"
  else if s = "null" then some "None"
  else if isNumeral cs || isPlainString cs then some s
  else none

end EngineBindings.Text
