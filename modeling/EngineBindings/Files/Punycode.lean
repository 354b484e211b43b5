import EngineBindings.Files.Tree
import EngineBindings.Text.Segment

/-! Characters outside ASCII behind the others.

The characters of ASCII come first, with a dash behind them; then every other character in the order
of its code point, as the number of steps that lead to its place from the place of the one before.
Numbers have digits in base 36, the lowest first. A digit below a threshold is the last; the
thresholds follow a bias that adapts to the numbers so far. -/
namespace EngineBindings.Punycode

open EngineBindings.Text

/-! ### Numbers -/

/-- The base of the digits. -/
def base : Nat := 36

/-- The threshold of the digit number `j`. -/
def threshold (bias j : Nat) : Nat :=
  max 1 (min 26 (base * (j + 1) - bias))

theorem threshold_bounds (bias j : Nat) : 1 ≤ threshold bias j ∧ threshold bias j ≤ 26 := by
  unfold threshold
  omega

/-- The bias of a number that has been scaled down, with what the scaling adds. -/
def settle (added delta : Nat) : Nat :=
  if 455 < delta then settle (added + base) (delta / 35)
  else added + base * delta / (delta + 38)
termination_by delta
decreasing_by exact Nat.div_lt_self (by omega) (by omega)

/-- The bias after a number, given how many characters are in place. -/
def adapt (isFirst : Bool) (delta count : Nat) : Nat :=
  let scaled := if isFirst then delta / 700 else delta / 2
  settle 0 (scaled + scaled / count)

/-- The initial bias. -/
def initialBias : Nat := 72

/-- The character of a digit. -/
def digit (value : Nat) : Char :=
  if value < 26 then Char.ofNat (97 + value) else Char.ofNat (22 + value)

/-- The value of a digit in capital letters. -/
def value? (c : Char) : Option Nat :=
  if 'A' ≤ c ∧ c ≤ 'Z' then some (c.toNat - 65)
  else if '0' ≤ c ∧ c ≤ '9' then some (c.toNat - 22)
  else none

/-- The digits of a number from digit number `j` on. -/
def digitsFrom (bias j n : Nat) : List Char :=
  let t := threshold bias j
  if n < t then [digit n]
  else digit (t + (n - t) % (base - t)) :: digitsFrom bias (j + 1) ((n - t) / (base - t))
termination_by n
decreasing_by
  have bounds := threshold_bounds bias j
  exact Nat.lt_of_le_of_lt (Nat.div_le_self _ _) (by omega)

/-- The number that digits from digit number `j` on spell, and what follows them. -/
def readNumber? (bias j weight : Nat) : List Char → Option (Nat × List Char)
  | [] => none
  | c :: cs => do
    let value ← value? c
    let t := threshold bias j
    if value < t then some (value * weight, cs)
    else do
      let (higher, rest) ← readNumber? bias (j + 1) (weight * (base - t)) cs
      return (value * weight + higher, rest)

/-! ### Writing -/

/-- What is known between two characters: how many steps have been made since the last one, the
bias, and how many characters are in place. -/
structure Progress where
  steps : Nat := 0
  bias : Nat := initialBias
  placed : Nat
  isFirst : Bool := true

/-- Steps over the characters of a text to those of a code point, and their digits. -/
def placeAll (code : Nat) : Progress → List Char → Progress × List Char
  | p, [] => (p, [])
  | p, c :: cs =>
    if c.toNat = code then
      let next : Progress :=
        { bias := adapt p.isFirst p.steps (p.placed + 1), placed := p.placed + 1, isFirst := false }
      let (p', digits) := placeAll code next cs
      (p', digitsFrom p.bias 0 p.steps ++ digits)
    else placeAll code (if c.toNat < code then { p with steps := p.steps + 1 } else p) cs

/-- The digits of all characters with code points of an ascending list; `last` is the first code
point that has not been looked at. -/
def placeCodes (text : List Char) : (last : Nat) → Progress → List Nat → List Char
  | _, _, [] => []
  | last, p, code :: codes =>
    let (p, digits) :=
      placeAll code { p with steps := p.steps + (code - last) * (p.placed + 1) } text
    digits ++ placeCodes text (code + 1) { p with steps := p.steps + 1 } codes

/-- The characters of ASCII of a text. -/
def basicPart (text : List Char) : List Char :=
  text.filter (·.toNat < 0x80)

/-- The code points of the others, each once and in ascending order. -/
def codes (text : List Char) : List Nat :=
  ((text.map (·.toNat)).filter (0x80 ≤ ·)).mergeSort.eraseDups

/-- A text with its other characters behind those of ASCII. -/
def encode (text : List Char) : List Char :=
  let basic := basicPart text
  basic ++ (if basic.isEmpty then [] else ['-']) ++
    placeCodes text 0x80 { placed := basic.length } (codes text)

/-! ### Reading -/

/-- Puts the code points that digits place into others. Every number uses up a digit, of which there
are as many as the fuel. -/
def insertAll : (fuel place code bias : Nat) → (isFirst : Bool) → (text : List Nat) →
    (digits : List Char) → Except FileFault (List Nat)
  | _, _, _, _, _, text, [] => .ok text
  | 0, _, _, _, _, _, _ => .error .illFormed
  | fuel + 1, place, code, bias, isFirst, text, digits =>
    match readNumber? bias 0 1 digits with
    | none => .error .illFormed
    | some (delta, rest) =>
      let count := text.length + 1
      let place := place + delta
      let code := code + place / count
      let place := place % count
      if code < 0x110000 then
        insertAll fuel (place + 1) code (adapt isFirst delta count) false
          (text.take place ++ code :: text.drop place) rest
      else .error .illFormed

/-- Small letters of ASCII as capital ones. -/
def capital (c : Char) : Char :=
  if 'a' ≤ c ∧ c ≤ 'z' then Char.ofNat (c.toNat - 32) else c

/-- The code points that characters of one byte stand for. -/
def decode (cs : List Char) : Except FileFault (List Nat) :=
  if cs.all (·.toNat < 0x80) then
    let digits := (cs.reverse.takeWhile (· ≠ '-')).reverse
    let basic := cs.take (cs.length - digits.length - 1)
    insertAll digits.length 0 0x80 initialBias true (basic.map (·.toNat)) (digits.map capital)
  else .error .undecodable

end EngineBindings.Punycode
