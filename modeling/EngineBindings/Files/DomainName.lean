import EngineBindings.Files.Punycode
import EngineBindings.Text.Direction
import EngineBindings.Text.Normal
import EngineBindings.Text.Small

/-! Names of domains.

A name is made of labels between points. A label outside ASCII is written in its normal form with
letters small, by its punycode behind a mark; every label has one to 63 characters. What follows the
last point is kept back when a name is written, since the label may go on. -/
namespace EngineBindings.DomainName

open EngineBindings.Text

/-- The points between labels. -/
def isPoint (c : Char) : Bool :=
  c = '.' || c = Char.ofNat 0x3002 || c = Char.ofNat 0xFF0E || c = Char.ofNat 0xFF61

/-- What stands in front of a label that is written by its punycode. -/
def mark : List Char := "xn--".toList

/-! ### Labels -/

/-- Characters that a label loses. -/
def isDropped (c : Char) : Bool :=
  let n := c.toNat
  n = 0xAD || n = 0x34F || n = 0x1806 || (0x180B ≤ n && n ≤ 0x180D) || (0x200B ≤ n && n ≤ 0x200D) ||
    n = 0x2060 || (0xFE00 ≤ n && n ≤ 0xFE0F) || n = 0xFEFF

/-- The small form of a character, with what its normal form holds small as well. -/
def folded (c : Char) : List Char :=
  let form := small c
  let settled := normal form
  let again := normal (settled.flatMap small)
  if settled = again then form else again

/-- Ranges of characters that no label may have: blanks and controls outside ASCII, what is private,
what is no character, and what tells how text is laid out. -/
def forbiddenRanges : List (Nat × Nat) := [
    (0x80, 0xA0), (0x340, 0x341), (0x6DD, 0x6DD), (0x70F, 0x70F), (0x1680, 0x1680),
    (0x180E, 0x180E), (0x2000, 0x200F), (0x2028, 0x202F), (0x205F, 0x2063), (0x206A, 0x206F),
    (0x2FF0, 0x2FFB), (0x3000, 0x3000), (0xE000, 0xF8FF), (0xFDD0, 0xFDEF), (0xFEFF, 0xFEFF),
    (0xFFF9, 0xFFFF), (0x1D173, 0x1D17A), (0xE0001, 0xE0001), (0xE0020, 0xE007F),
    (0xF0000, 0x10FFFF)]

/-- Whether no label may have a character. The last two of every plane are none. -/
def isForbidden (c : Char) : Bool :=
  let n := c.toNat
  forbiddenRanges.any (fun (first, last) => first ≤ n && n ≤ last) || 0xFFFE ≤ n % 0x10000

/-- Whether the directions of characters go together: where one is written from right to left none
is written from left to right, and the first and the last are written from right to left. -/
def isOneWay (label : List Char) : Bool :=
  !label.any isLeftward ||
    !label.any isRightward && label.head?.any isLeftward && label.getLast?.any isLeftward

/-- A label as it is compared. -/
def prepared (label : List Char) : Except FileFault (List Char) :=
  let form := normal ((label.filter (!isDropped ·)).flatMap folded)
  if form.any isForbidden || !isOneWay form then .error .illFormed else .ok form

/-- A label if its length is one that a label may have. -/
def sized (label : List Char) : Except FileFault (List Char) :=
  if label.isEmpty ∨ 64 ≤ label.length then .error .illFormed else .ok label

/-- Whether all characters are of ASCII. -/
def isAscii (label : List Char) : Bool :=
  label.all (·.toNat < 0x80)

/-- A label in ASCII. -/
def labelToAscii (label : List Char) : Except FileFault (List Char) := do
  if isAscii label then sized label
  else
    let label ← prepared label
    if isAscii label then sized label
    else if mark.isPrefixOf label then throw .illFormed
    else sized (mark ++ Punycode.encode label)

/-- The label that a label in ASCII stands for. It has to be the one that is written for it. -/
def labelOfAscii (label : List Char) : Except FileFault (List Char) := do
  if mark.isPrefixOf label then
    let codes ← Punycode.decode (label.drop mark.length)
    if codes.any Text.isHalf then throw .illFormed
    let meant := codes.map Char.ofNat
    let written ← labelToAscii meant
    if label.map Char.toLower = written then return meant else throw .illFormed
  else return label

/-! ### Names -/

/-- The labels between points. -/
def labels (isPoint : Char → Bool) : List Char → List (List Char)
  | [] => [[]]
  | c :: cs =>
    if isPoint c then [] :: labels isPoint cs
    else
      match labels isPoint cs with
      | [] => [[c]]
      | label :: rest => (c :: label) :: rest

/-- Labels with points between them and one at the end if there is anything to end. -/
def withPoints (labels : List (List Char)) : List Char :=
  labels.flatMap fun label => label ++ ['.']

/-- A name in ASCII, without the label that is not finished. -/
def encode (name : List Char) : Except FileFault (List Char) := do
  return withPoints (← (labels isPoint name).dropLast.mapM labelToAscii)

/-- The name that a name in ASCII stands for. -/
def decode (name : List Char) : Except FileFault (List Char) :=
  if isAscii name then do
    let found ← (labels (· = '.') name).mapM labelOfAscii
    return (withPoints found).dropLast
  else .error .undecodable

end EngineBindings.DomainName
