import EngineBindings.Json.Basic

/-! Reading documents.

The grammar is the usual one for nested lists and objects, with three names for the numbers
that are not finite. A number without fraction and exponent is a whole number of any size up to
`Number.maxDigits` digits. A key that occurs twice in an object keeps its first place and takes
its last value. Half of a pair of code units is kept. Reading is total: its fuel is
taken from the length of the text, and every step uses up a character. -/
namespace EngineBindings.Json

/-- Why a text is no document. -/
inductive ReadFault where
  | malformed
  /-- A whole number of more digits than a numeral may have. -/
  | numeralTooLong
  /-- Lists and objects inside one another past `maxDepth`. -/
  | tooDeep
  deriving DecidableEq

/-! ### Tokens -/

/-- Blanks between tokens. -/
def isSeparator (c : Char) : Bool :=
  c = ' ' || c = '\t' || c = '\n' || c = '\r'

/-- Drops the blanks in front of a token. -/
def skip (cs : List Char) : List Char :=
  cs.dropWhile isSeparator

/-- The character that a backslash and a letter stand for. -/
def simpleEscape? : Char → Option Char
  | '"' => some '"'
  | '\\' => some '\\'
  | '/' => some '/'
  | 'b' => some (Char.ofNat 8)
  | 'f' => some (Char.ofNat 12)
  | 'n' => some '\n'
  | 'r' => some '\r'
  | 't' => some '\t'
  | _ => none

/-- The spelling of the code unit `unit` and what follows it, which may be the second half of a
pair. -/
def pairedChar (unit : Nat) (rest : List Char) : List Char × List Char :=
  match rest with
  | '\\' :: 'u' :: a :: b :: c :: d :: tail =>
    match Text.hexNumber? [a, b, c, d] with
    | some low =>
      if 0xD800 ≤ unit ∧ unit < 0xDC00 ∧ 0xDC00 ≤ low ∧ low < 0xE000 then
        ([Text.ofPair unit low], tail)
      else (Text.spelling unit, rest)
    | none => (Text.spelling unit, rest)
  | _ => (Text.spelling unit, rest)

/-- The characters of a quoted text after its opening quote, and what follows its closing one.
The characters read so far come in reverse. -/
def readText : (fuel : Nat) → (done cs : List Char) → Except ReadFault (String × List Char)
  | 0, _, _ => .error .malformed
  | _ + 1, _, [] => .error .malformed
  | fuel + 1, done, c :: cs =>
    if c = '"' then .ok (String.ofList done.reverse, cs)
    else if c = '\\' then
      match cs with
      | 'u' :: a :: b :: c :: d :: rest =>
        match Text.hexNumber? [a, b, c, d] with
        | some unit =>
          let (spelt, rest) := pairedChar unit rest
          readText fuel (spelt.reverse ++ done) rest
        | none => .error .malformed
      | letter :: rest =>
        match simpleEscape? letter with
        | some char => readText fuel (char :: done) rest
        | none => .error .malformed
      | [] => .error .malformed
    else if c.toNat < 32 then .error .malformed
    else readText fuel (c :: done) cs

/-- The digits at the head of a list and what follows them. -/
def spanDigits (cs : List Char) : List Char × List Char :=
  (cs.takeWhile Char.isDigit, cs.dropWhile Char.isDigit)

/-- The digits of a fraction: a point and at least one digit, or nothing. -/
def readFraction (cs : List Char) : List Char × List Char :=
  match cs with
  | '.' :: rest =>
    let (digits, tail) := spanDigits rest
    if digits.isEmpty then ([], cs) else (digits, tail)
  | _ => ([], cs)

/-- The exponent after a number, if a complete one stands there. -/
def readExponent (cs : List Char) : Option Int × List Char :=
  match cs with
  | mark :: rest =>
    if mark = 'e' ∨ mark = 'E' then
      let (negative, body) := match rest with
        | '-' :: body => (true, body)
        | '+' :: body => (false, body)
        | body => (false, body)
      let (digits, tail) := spanDigits body
      if digits.isEmpty then (none, cs)
      else
        let n := Int.ofNat (Number.digitsValue digits)
        (some (if negative then -n else n), tail)
    else (none, cs)
  | [] => (none, cs)

/-- A number: digits without a leading zero, an optional fraction, an optional exponent. -/
def readNumber (negative : Bool) (cs : List Char) : Except ReadFault (Json × List Char) :=
  let (run, after) := spanDigits cs
  let (whole, rest) := match run with
    | '0' :: more => (['0'], more ++ after)
    | _ => (run, after)
  if whole.isEmpty then .error .malformed
  else
    let (fraction, rest) := readFraction rest
    let (exponent, rest) := readExponent rest
    if fraction.isEmpty && exponent.isNone then
      if whole.length > Number.maxDigits then .error .numeralTooLong
      else
        let n := Int.ofNat (Number.digitsValue whole)
        .ok (.int (if negative then -n else n), rest)
    else
      let m := Number.digitsValue (whole ++ fraction)
      let e := exponent.getD 0 - fraction.length
      .ok (.float (Number.Binary64.ofDecimal negative m e), rest)

/-- The names of values, and the values. -/
def names : List (String × Json) :=
  [("null", .null), ("true", .bool true), ("false", .bool false),
   ("NaN", .float Number.Binary64.nan), ("Infinity", .float (Number.Binary64.infinity false)),
   ("-Infinity", .float (Number.Binary64.infinity true))]

/-- A name or a number at the head of a list. -/
def readScalar (cs : List Char) : Except ReadFault (Json × List Char) :=
  match names.findSome? fun entry =>
      (Text.dropPrefix? entry.1.toList cs).map fun rest => (entry.2, rest) with
  | some found => .ok found
  | none =>
    match cs with
    | '-' :: rest => readNumber true rest
    | _ => readNumber false cs

/-! ### Values -/

/-- How many lists and objects may lie inside one another. -/
def maxDepth : Nat := 990

mutual

/-- One value that lies inside lists and objects, with room for `room` more, and what follows
it. -/
def readValue : (fuel room : Nat) → List Char → Except ReadFault (Json × List Char)
  | 0, _, _ => .error .malformed
  | fuel + 1, _, '"' :: cs => do
    let (s, rest) ← readText fuel [] cs
    .ok (.str s, rest)
  | fuel + 1, room, '[' :: cs =>
    if room = 0 then .error .tooDeep
    else
      match skip cs with
      | ']' :: rest => .ok (.arr [], rest)
      | rest => readItems fuel (room - 1) [] rest
  | fuel + 1, room, '\x7b' :: cs =>
    if room = 0 then .error .tooDeep
    else
      match skip cs with
      | '\x7d' :: rest => .ok (.obj [], rest)
      | rest => readFields fuel (room - 1) [] rest
  | _ + 1, _, cs => readScalar cs

/-- The items of a list from one of them on; the items read so far come in reverse. -/
def readItems : (fuel room : Nat) → (done : List Json) → List Char →
    Except ReadFault (Json × List Char)
  | 0, _, _, _ => .error .malformed
  | fuel + 1, room, done, cs => do
    let (item, rest) ← readValue fuel room cs
    match skip rest with
    | ',' :: more => readItems fuel room (item :: done) (skip more)
    | ']' :: more => .ok (.arr (item :: done).reverse, more)
    | _ => .error .malformed

/-- The fields of an object from one of them on; the fields read so far come in reverse. -/
def readFields : (fuel room : Nat) → (done : List (String × Json)) → List Char →
    Except ReadFault (Json × List Char)
  | 0, _, _, _ => .error .malformed
  | fuel + 1, room, done, '"' :: cs => do
    let (key, rest) ← readText fuel [] cs
    match skip rest with
    | ':' :: more =>
      let (value, rest) ← readValue fuel room (skip more)
      let fields := (key, value) :: done
      match skip rest with
      | ',' :: more => readFields fuel room fields (skip more)
      | '\x7d' :: more => .ok (.obj (OrderedMap.ofList fields.reverse).entries, more)
      | _ => .error .malformed
    | _ => .error .malformed
  | _ + 1, _, _, _ => .error .malformed

end

/-- The document that a text holds. -/
def read (text : String) : Except ReadFault Json := do
  let cs := skip text.toList
  let (value, rest) ← readValue (2 * cs.length + 2) maxDepth cs
  match skip rest with
  | [] => .ok value
  | _ => .error .malformed

end EngineBindings.Json
