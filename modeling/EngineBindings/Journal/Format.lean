import EngineBindings.Number.Numeral
import EngineBindings.Text.Word

/-! Formats of log lines.

A format is a text in which `%(name)s` stands for a field of the entry. Between the name and the
letter may stand flags, a width and, behind a point, a precision: the most characters of a text,
the least digits of a whole number or the digits behind the point of another. The letter says how
the field is shown. Two percent signs stand for one. A format without any named field is refused
beforehand. -/
namespace EngineBindings.Journal

open EngineBindings.Text

/-! ### Reading a format -/

/-- How a field is laid out. -/
structure FieldStyle where
  flags : List Char
  width : Nat
  precision : Option Nat
  letter : Char

/-- A piece of a format. A field without a name shows what is at hand. -/
inductive FormatPart where
  | char (c : Char)
  | field (name : Option String) (style : FieldStyle)

/-- Flags in front of a width. -/
def isFlag (c : Char) : Bool :=
  c = '#' || c = '0' || c = '+' || c = ' ' || c = '-'

/-- A name up to the parenthesis that closes it, and what follows; `depth` parentheses are open
inside it. -/
def readName? : (depth : Nat) → List Char → Option (List Char × List Char)
  | _, [] => none
  | 0, ')' :: rest => some ([], rest)
  | depth, c :: rest =>
    let inner := if c = '(' then depth + 1 else if c = ')' then depth - 1 else depth
    (readName? inner rest).map fun found => (c :: found.1, found.2)

/-- The number of the digits at the head of a list, and what follows them. -/
def readCount (cs : List Char) : Nat × List Char :=
  (Number.digitsValue (cs.takeWhile Char.isDigit), cs.dropWhile Char.isDigit)

/-- A point and the digits behind it. -/
def readPrecision (cs : List Char) : Option Nat × List Char :=
  match cs with
  | '.' :: rest =>
    let (precision, rest) := readCount rest
    (some precision, rest)
  | _ => (none, cs)

/-- What follows a mark of length, which says nothing. -/
def dropLength : List Char → List Char
  | 'h' :: rest => rest
  | 'l' :: rest => rest
  | 'L' :: rest => rest
  | rest => rest

/-- The style of a field, and what follows it. -/
def readStyle? (cs : List Char) : Option (FieldStyle × List Char) :=
  let flags := cs.takeWhile isFlag
  let (width, rest) := readCount (cs.dropWhile isFlag)
  let (precision, rest) := readPrecision rest
  match dropLength rest with
  | letter :: rest => some (⟨flags, width, precision, letter⟩, rest)
  | [] => none

/-- The field behind a percent sign, and what follows it. -/
def readField? (cs : List Char) : Option (FormatPart × List Char) :=
  match cs with
  | '(' :: rest => do
    let (name, rest) ← readName? 0 rest
    let (style, rest) ← readStyle? rest
    return (.field (some (String.ofList name)) style, rest)
  | _ => (readStyle? cs).map fun (style, rest) => (.field none style, rest)

/-- The pieces of a format; nothing if a field is cut short. -/
def parts? : (fuel : Nat) → List Char → Option (List FormatPart)
  | 0, _ => some []
  | _ + 1, [] => some []
  | fuel + 1, '%' :: '%' :: cs => (parts? fuel cs).map (.char '%' :: ·)
  | fuel + 1, '%' :: cs => do
    let (part, rest) ← readField? cs
    return part :: (← parts? fuel rest)
  | fuel + 1, c :: cs => (parts? fuel cs).map (.char c :: ·)

/-! ### Whether a format has a field -/

/-- The letters that may end a field, whatever their case. The last three read as letters of the
list when case is left aside. -/
def styleLetters : List Char :=
  "diouxefgcrsa%DIOUXEFGCRSA".toList ++ [Char.ofNat 0x130, Char.ofNat 0x131, Char.ofNat 0x17F]

/-- What follows a star or digits, if there are any. -/
def dropCount? (cs : List Char) : Option (List Char) :=
  match cs with
  | '*' :: rest => some rest
  | c :: rest => if isDecimal c then some (rest.dropWhile isDecimal) else none
  | [] => none

/-- Whether a well-formed field stands at the head of a list, behind the percent sign. -/
def startsField (cs : List Char) : Bool :=
  match cs with
  | '(' :: rest =>
    match rest.takeWhile isWordCharacter, rest.dropWhile isWordCharacter with
    | _ :: _, ')' :: style =>
      let behindFlags := style.dropWhile isFlag
      let body := (dropCount? behindFlags).getD behindFlags
      let body := match body with
        | '.' :: precision => (dropCount? precision).getD body
        | _ => body
      match body with
      | letter :: _ => styleLetters.contains letter
      | [] => false
    | _, _ => false
  | _ => false

/-- Whether a format has a well-formed field. -/
def hasField : List Char → Bool
  | [] => false
  | '%' :: cs => startsField cs || hasField cs
  | _ :: cs => hasField cs

end EngineBindings.Journal
