import EngineBindings.Files.CharSet

/-! Codes of characters.

A code writes a text as bytes and reads bytes as a text, a step at a time: a step takes one
character or byte and as many of the following ones as belong to it. Codes are put together from
parts; the first part that knows what to do with a step takes it, so a part that comes later fills
in what the earlier ones leave open, in one direction or in both. -/
namespace EngineBindings

/-- How characters are written and read. -/
structure CharCode where
  /-- The bytes of a character in front of others, and how many of those they spell too. -/
  write : Char → List Char → Option (List UInt8 × Nat)
  /-- What a byte in front of others spells, and how many of those belong to it. -/
  read : UInt8 → List UInt8 → Option (List Char × Nat)

namespace CharCode

/-! ### Whole texts -/

/-- The bytes of a list of characters. -/
def encode? (code : CharCode) : List Char → Option (List UInt8)
  | [] => some []
  | c :: cs => do
    let (bytes, taken) ← code.write c cs
    return bytes ++ (← code.encode? (cs.drop taken))
termination_by cs => cs.length
decreasing_by simp only [List.length_drop, List.length_cons]; omega

/-- The characters that a list of bytes spells. -/
def decode? (code : CharCode) : List UInt8 → Option (List Char)
  | [] => some []
  | b :: bs => do
    let (chars, taken) ← code.read b bs
    return chars ++ (← code.decode? (bs.drop taken))
termination_by bs => bs.length
decreasing_by simp only [List.length_drop, List.length_cons]; omega

/-! ### Parts -/

/-- A number as a byte. -/
def byte (n : Nat) : UInt8 := UInt8.ofNat n

/-- The parts of a code, the first of which decides. -/
def ofParts (parts : List CharCode) : CharCode :=
  { write := fun c cs => parts.findSome? (·.write c cs)
    read := fun b bs => parts.findSome? (·.read b bs) }

/-- A part that is never read. -/
def writeOnly (code : CharCode) : CharCode :=
  { code with read := fun _ _ => none }

/-- The characters below 128 as their own bytes. -/
def ascii : CharCode :=
  { write := fun c _ => if c.toNat < 0x80 then some ([byte c.toNat], 0) else none
    read := fun b _ => if b.toNat < 0x80 then some ([Char.ofNat b.toNat], 0) else none }

/-- Characters as successive bytes. -/
def bytes (first : Nat) (chars : List Char) : CharCode :=
  { write := fun c _ => (chars.findIdx? (· = c)).map fun i => ([byte (first + i)], 0)
    read := fun b _ =>
      if first ≤ b.toNat then (chars[b.toNat - first]?).map fun c => ([c], 0) else none }

/-- A set as pairs of bytes on a grid. -/
def grid (grid : Grid) (set : CharSet) : CharCode :=
  { write := fun c _ => do
      let (lead, trail) ← grid.pair? (← set.cell? c)
      return ([byte lead, byte trail], 0)
    read := fun b bs => do
      let c ← set.char? (← grid.cell? b.toNat (← bs.head?).toNat)
      return ([c], 1) }

/-- Characters with marks as pairs of bytes on a grid. A character that a mark may follow is kept
back at the end of a text, where it is not known yet whether one does. -/
def marked (grid : Grid) (pairs : List (Nat × Char × Char)) : CharCode :=
  { write := fun c cs =>
      match cs with
      | [] => if pairs.any (·.2.1 = c) then some ([], 0) else none
      | mark :: _ => do
        let (cell, _) ← pairs.find? fun entry => entry.2 = (c, mark)
        let (lead, trail) ← grid.pair? cell
        return ([byte lead, byte trail], 1)
    read := fun b bs => do
      let cell ← grid.cell? b.toNat (← bs.head?).toNat
      let (_, c, mark) ← pairs.find? (·.1 = cell)
      return ([c, mark], 1) }

/-- Characters with marks that are read and never written: a character that a mark may follow is only
kept back at the end of a text. -/
def markedApart (grid : Grid) (pairs : List (Nat × Char × Char)) : CharCode :=
  { marked grid pairs with
    write := fun c cs => if cs.isEmpty ∧ pairs.any (·.2.1 = c) then some ([], 0) else none }

/-- A code behind a byte that leads to it. -/
def behind (front : Nat) (code : CharCode) : CharCode :=
  { write := fun c cs => (code.write c cs).map fun step => (byte front :: step.1, step.2)
    read := fun b bs => do
      if b ≠ byte front then none
      let (chars, taken) ← code.read (← bs.head?) (bs.drop 1)
      return (chars, taken + 1) }

/-- The first part that takes a character decides about it. -/
theorem write_ofParts_cons {part : CharCode} {c : Char} {cs : List Char} {step : List UInt8 × Nat}
    (h : part.write c cs = some step) (parts : List CharCode) :
    (ofParts (part :: parts)).write c cs = some step := by
  simp [ofParts, h]

end CharCode

end EngineBindings
