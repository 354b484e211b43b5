import EngineBindings.Files.Multibyte

/-! Encodings of seven bits that switch between sets.

An escape sequence names the set that the bytes after it are of; two sets can be chosen at a time,
and a pair of shift bytes switches between them. A third one holds single characters. Writing
switches only when a character needs it, and a character below 128 needs the set of ASCII. A code
for mail uses other sequences and knows two sets alone. -/
namespace EngineBindings

/-! ### Sets and their marks -/

/-- What an escape sequence calls a set: whether its characters take two bytes, and its last
letter. -/
structure SetMark where
  isWide : Bool
  letter : Char
  deriving DecidableEq

/-- A set that an encoding can switch to. -/
structure SwitchedSet where
  mark : SetMark
  code : CharCode
  /-- Whether it is the set that a shift byte leads to. -/
  isShifted : Bool := false

/-- The mark of ASCII. -/
def SetMark.ascii : SetMark := ⟨false, 'B'⟩

/-- The bytes of a text of ASCII. -/
def asciiBytes (s : String) : List UInt8 :=
  s.toList.map fun c => CharCode.byte c.toNat

/-- The byte that an escape sequence starts with. -/
def escapeByte : UInt8 := 0x1B

/-- The byte that leads to the shifted set. -/
def shiftOut : UInt8 := 0x0E

/-- The byte that leads back. -/
def shiftIn : UInt8 := 0x0F

/-- An encoding that switches between sets. -/
structure Switching where
  sets : List SwitchedSet
  /-- Whether shift bytes do what they are for. -/
  hasShifts : Bool := false
  /-- Whether a third set holds single characters. -/
  hasSingles : Bool := false
  /-- Whether a sequence may announce an edition of the basic set. -/
  hasEditions : Bool := false

/-- Which sets are chosen, and what the bytes to come are. -/
structure SwitchState where
  plain : SetMark := .ascii
  shifted : SetMark := .ascii
  single : SetMark := .ascii
  isShifted : Bool := false
  /-- Whether an unknown escape sequence goes on, whose bytes are characters. -/
  isUnknown : Bool := false

namespace Switching

/-! ### Writing -/

/-- The sequence that chooses a set. -/
def chooses (s : SwitchedSet) : List UInt8 :=
  let side := if s.isShifted then ")" else "("
  let middle :=
    if !s.mark.isWide then side
    else if s.mark = ⟨true, 'B'⟩ || s.mark = ⟨true, '@'⟩ then "$"
    else "$" ++ side
  escapeByte :: asciiBytes (middle.push s.mark.letter)

/-- What has to be written before a character of the set that is not shifted. -/
def toPlain (state : SwitchState) (mark : SetMark) (choice : List UInt8) :
    SwitchState × List UInt8 :=
  ({ state with plain := mark, isShifted := false },
    (if state.isShifted then [shiftIn] else []) ++ (if state.plain = mark then [] else choice))

/-- What has to be written before a character of the shifted set. -/
def toShifted (state : SwitchState) (mark : SetMark) (choice : List UInt8) :
    SwitchState × List UInt8 :=
  ({ state with shifted := mark, isShifted := true },
    (if state.shifted = mark then [] else choice) ++ (if state.isShifted then [] else [shiftOut]))

/-- The bytes of a character that is not ASCII: the first set that has it. -/
def writeSet? (w : Switching) (state : SwitchState) (c : Char) (cs : List Char) :
    Option (SwitchState × List UInt8 × Nat) :=
  w.sets.findSome? fun s => do
    let (bytes, taken) ← s.code.write c cs
    if bytes.isEmpty then return (state, [], taken)
    let (state, switch) :=
      if s.isShifted then toShifted state s.mark (chooses s)
      else toPlain state s.mark (chooses s)
    return (state, switch ++ bytes, taken)

/-- The bytes of characters, given the state before them. -/
def encode? (w : Switching) (state : SwitchState) : List Char → Option (List UInt8)
  | [] => some []
  | c :: cs =>
    if c.toNat < 0x80 then do
      let choice := escapeByte :: asciiBytes "(B"
      let switch := if state.plain = .ascii then [] else choice
      let back := if state.isShifted then [shiftIn] else []
      let rest ← w.encode? { state with plain := .ascii, isShifted := false } cs
      return switch ++ back ++ CharCode.byte c.toNat :: rest
    else do
      let (state, bytes, taken) ← w.writeSet? state c cs
      return bytes ++ (← w.encode? state (cs.drop taken))
termination_by cs => cs.length
decreasing_by
  all_goals simp only [List.length_drop, List.length_cons]; omega

/-! ### Reading -/

/-- Whether a character ends an escape sequence. -/
def endsEscape (c : Char) : Bool :=
  '@' ≤ c && c ≤ 'Z'

/-- Whether a character begins an escape sequence that chooses a set. -/
def beginsChoice (c : Char) : Bool :=
  "()$.&".toList.contains c

/-- The state after an escape sequence that chooses a set, given what follows its first byte, and how
much of that belongs to it. -/
def choice? (w : Switching) (state : SwitchState) (cs : List Char) : Option (SwitchState × Nat) :=
  let known (mark : SetMark) (next : SwitchState × Nat) : Option (SwitchState × Nat) :=
    if mark = .ascii || w.sets.any (·.mark = mark) then some next else none
  let plain (mark : SetMark) (taken : Nat) := known mark ({ state with plain := mark }, taken)
  let shifted (mark : SetMark) (taken : Nat) := known mark ({ state with shifted := mark }, taken)
  let edition :=
    match cs with
    | a :: b :: '\x1b' :: '$' :: 'B' :: _ =>
      if w.hasEditions ∧ (!endsEscape b ∨ (a = '&' ∧ b = '@')) then plain ⟨true, 'B'⟩ 5 else none
    | _ => none
  match cs with
  | '(' :: c :: _ => if endsEscape c then plain ⟨false, c⟩ 2 else edition
  | ')' :: c :: _ => if endsEscape c then shifted ⟨false, c⟩ 2 else edition
  | '.' :: c :: _ =>
    if endsEscape c then
      if w.hasSingles then known ⟨false, c⟩ ({ state with single := ⟨false, c⟩ }, 2) else none
    else edition
  | '$' :: '(' :: c :: _ => if endsEscape c then plain ⟨true, c⟩ 3 else edition
  | '$' :: ')' :: c :: _ => if endsEscape c then shifted ⟨true, c⟩ 3 else edition
  | '$' :: c :: _ => if endsEscape c then plain ⟨true, c⟩ 2 else edition
  | _ => edition

/-- The upper half of the Greek set that single characters may be of. -/
def greek : List Char :=
  ("\u00a0‘’£��¦§\u00a8©�«¬\u00ad�―°±²³\u0384\u0385Ά·ΈΉΊ»Ό½ΎΏΐΑΒΓΔΕΖΗΘΙΚΛΜΝΞΟΠΡ�ΣΤΥΦΧΨΩΪΫάέήί" ++
    "ΰαβγδεζηθικλμνξοπρςστυφχψωϊϋόύώ�").toList

/-- A single character of the third set. -/
def single? (state : SwitchState) (b : UInt8) : Option Char :=
  let n := b.toNat
  if state.single = .ascii then (if n < 0x80 then some (Char.ofNat n) else none)
  else if state.single = ⟨false, 'A'⟩ then
    (if n < 0x80 then some (Char.ofNat (n + 0x80)) else none)
  else if state.single = ⟨false, 'F'⟩ then
    if n < 0x20 then some (Char.ofNat (n + 0x80))
    else if n < 0x80 then greek[n - 0x20]?.filter (· ≠ CharSet.gap)
    else some (Char.ofNat (n - 0x80))
  else none

/-- The characters that bytes spell, given the state before them. -/
def decode? (w : Switching) (state : SwitchState) : List UInt8 → Option (List Char)
  | [] => some []
  | b :: bs =>
    let c := Char.ofNat b.toNat
    if state.isUnknown then
      (w.decode? { state with isUnknown := !endsEscape c } bs).map (c :: ·)
    else if b = escapeByte then
      let cs := (bs.take 5).map fun b => Char.ofNat b.toNat
      match cs with
      | [] => none
      | first :: _ =>
        if beginsChoice first then do
          let (state, taken) ← w.choice? state cs
          w.decode? state (bs.drop taken)
        else if w.hasSingles ∧ first = 'N' then do
          let c ← single? state (← bs[1]?)
          return c :: (← w.decode? state (bs.drop 2))
        else (w.decode? { state with isUnknown := true } bs).map (c :: ·)
    else if b = shiftIn ∧ w.hasShifts then w.decode? { state with isShifted := false } bs
    else if b = shiftOut ∧ w.hasShifts then w.decode? { state with isShifted := true } bs
    else if c = '\n' then (w.decode? { state with isShifted := false } bs).map (c :: ·)
    else if b < 0x20 then (w.decode? state bs).map (c :: ·)
    else if b ≥ 0x80 then none
    else
      let mark := if state.isShifted then state.shifted else state.plain
      if mark = .ascii then (w.decode? state bs).map (c :: ·)
      else do
        let (chars, taken) ← w.sets.findSome? fun s =>
          if s.mark = mark then s.code.read b bs else none
        return chars ++ (← w.decode? state (bs.drop taken))
termination_by bs => bs.length
decreasing_by
  all_goals simp only [List.length_drop, List.length_cons]; omega

end Switching

/-! ### Encodings -/

/-- The encodings that switch. -/
inductive Switched where
  | kr
  | jp
  | jp1
  | jp2
  | jp2004
  | jp3
  | jpExt
  deriving DecidableEq

namespace Switched

open CharCode (ascii bytes grid markedApart ofParts)
open Multibyte (firstPlane firstPlaneEarly kanaPairs yenAndLine)

/-- The basic set of Japanese. -/
def basic : SwitchedSet := ⟨⟨true, 'B'⟩, grid .low CharSet.jisX0208, false⟩

/-- The basic set under the mark of an older edition. -/
def basicOld : SwitchedSet := { basic with mark := ⟨true, '@'⟩ }

/-- The supplement of the basic set. -/
def supplement : SwitchedSet := ⟨⟨true, 'D'⟩, grid .low CharSet.jisX0212, false⟩

/-- ASCII with two signs of Japan. -/
def roman : SwitchedSet := ⟨⟨false, 'J'⟩, ofParts [yenAndLine, ascii], false⟩

/-- Katakana of half the width. -/
def narrowKana : SwitchedSet := ⟨⟨false, 'I'⟩, bytes 0x21 (CharSet.span 0xFF61 63), false⟩

/-- The national set of Korean. -/
def korean : SwitchedSet := ⟨⟨true, 'C'⟩, grid .low CharSet.ksX1001, false⟩

/-- The national set of simplified Chinese. -/
def chinese : SwitchedSet := ⟨⟨true, 'A'⟩, grid .low CharSet.gb2312, false⟩

/-- A set that only single characters are of. -/
def singles (letter : Char) : SwitchedSet := ⟨⟨false, letter⟩, ofParts [], false⟩

/-- The second plane. -/
def secondPlane : CharCode := grid .low CharSet.jisX0213Second

/-- The second plane, written as its first edition had it. -/
def secondPlaneEarly : CharCode :=
  { secondPlane with write := (grid .low Multibyte.secondPlaneEarly).write }

/-- The sets of two planes, whose characters with marks come first and are written one by one. -/
def planes (letter : Char) (first : CharSet) (second : CharCode) : List SwitchedSet :=
  [⟨⟨true, letter⟩, markedApart .low kanaPairs, false⟩, basic, ⟨⟨true, letter⟩, grid .low first, false⟩,
    ⟨⟨true, 'P'⟩, second, false⟩]

/-- All of them with their names and their other names. -/
def known : List (Switched × String × List String) :=
  [(.kr, "iso2022_kr", ["csiso2022kr", "iso2022kr", "iso_2022_kr"]),
   (.jp, "iso2022_jp", ["csiso2022jp", "iso2022jp", "iso_2022_jp"]),
   (.jp1, "iso2022_jp_1", ["iso2022jp_1", "iso_2022_jp_1"]),
   (.jp2, "iso2022_jp_2", ["iso2022jp_2", "iso_2022_jp_2"]),
   (.jp2004, "iso2022_jp_2004", ["iso_2022_jp_2004", "iso2022jp_2004"]),
   (.jp3, "iso2022_jp_3", ["iso2022jp_3", "iso_2022_jp_3"]),
   (.jpExt, "iso2022_jp_ext", ["iso2022jp_ext", "iso_2022_jp_ext"])]

/-- What an encoding switches between. -/
def switching : Switched → Switching
  | kr => { sets := [{ korean with isShifted := true }], hasShifts := true }
  | jp => { sets := [basic, roman, basicOld], hasEditions := true }
  | jp1 => { sets := [basic, supplement, roman, basicOld], hasEditions := true }
  | jp2 =>
    { sets := [basic, supplement, korean, chinese, roman, basicOld, singles 'A', singles 'F']
      hasSingles := true
      hasEditions := true }
  | jp2004 => { sets := planes 'Q' firstPlane secondPlane, hasEditions := true }
  | jp3 => { sets := planes 'O' firstPlaneEarly secondPlaneEarly, hasEditions := true }
  | jpExt =>
    { sets := [basic, supplement, roman, narrowKana, basicOld], hasEditions := true }

end Switched

/-! ### The code for mail -/

namespace Tilde

/-- The bytes of characters: a tilde and a brace lead to the national set and back, and a tilde is
written twice. -/
def encode? (isWide : Bool) : List Char → Option (List UInt8)
  | [] => some []
  | c :: cs =>
    if c.toNat < 0x80 then do
      let back := if isWide then asciiBytes "~\x7d" else []
      let twice := if c = '~' then asciiBytes "~" else []
      return back ++ CharCode.byte c.toNat :: twice ++ (← encode? false cs)
    else do
      let (pair, _) ← Switched.chinese.code.write c cs
      let switch := if isWide then [] else asciiBytes "~\x7b"
      return switch ++ pair ++ (← encode? true cs)

/-- The characters that bytes spell. A tilde in front of a line end hides it. -/
def decode? (isWide : Bool) : List UInt8 → Option (List Char)
  | [] => some []
  | b :: bs =>
    if b = CharCode.byte '~'.toNat then
      match bs with
      | [] => none
      | second :: rest =>
        match Char.ofNat second.toNat, isWide with
        | '~', false => (decode? false rest).map ('~' :: ·)
        | '\x7b', false => decode? true rest
        | '\n', false => decode? false rest
        | '\x7d', true => decode? false rest
        | _, _ => none
    else if b ≥ 0x80 then none
    else if isWide then
      match bs with
      | [] => none
      | second :: rest => do
        let (chars, _) ← Switched.chinese.code.read b [second]
        return chars ++ (← decode? true rest)
    else (decode? false bs).map (Char.ofNat b.toNat :: ·)

end Tilde

end EngineBindings
