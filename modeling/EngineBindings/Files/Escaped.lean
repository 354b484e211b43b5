import EngineBindings.Text.CharName
import EngineBindings.Text.Quoted

/-! Texts with escapes.

Characters of one byte may stand for themselves, all others are escaped by their code points in
hexadecimal digits. In a plain text of this kind nothing else is escaped, and only an escape that
gives a code point is read as one. In a full one the controls and the backslash are escaped too,
and reading knows the usual letters, up to three octal digits and the names of characters. -/
namespace EngineBindings.Escaped

open EngineBindings.Text

/-! ### Writing -/

/-- A character of a plain text. -/
def plainChar (c : Char) : List Char :=
  if c.toNat < 0x100 then [c] else codeEscape c.toNat

/-- A character of a full text. -/
def fullChar (c : Char) : List Char :=
  if c = '\\' then ['\\', '\\']
  else if c = '\t' then ['\\', 't']
  else if c = '\n' then ['\\', 'n']
  else if c = '\r' then ['\\', 'r']
  else if 0x20 ≤ c.toNat ∧ c.toNat < 0x7F then [c]
  else codeEscape c.toNat

/-- A text as bytes. -/
def encode (isFull : Bool) (text : String) : ByteArray :=
  let spell := if isFull then fullChar else plainChar
  ⟨((text.toList.flatMap spell).map fun c => UInt8.ofNat c.toNat).toArray⟩

/-! ### Reading -/

/-- The spelling of the code point of exactly `width` hexadecimal digits, and what follows them. -/
def readCode? (width : Nat) (cs : List Char) : Option (List Char × List Char) := do
  let digits := cs.take width
  if digits.length < width then none
  let code ← hexNumber? digits
  if code < 0x110000 then some (spelling code, cs.drop width) else none

/-- The value of an octal digit. -/
def octalValue? (c : Char) : Option Nat :=
  if '0' ≤ c ∧ c ≤ '7' then some (c.toNat - '0'.toNat) else none

/-- The character of one to three octal digits, and what follows them. -/
def readOctal? (cs : List Char) : Option (Char × List Char) :=
  let values := ((cs.take 3).takeWhile fun c => (octalValue? c).isSome).filterMap octalValue?
  if values.isEmpty then none
  else some (Char.ofNat (values.foldl (fun n value => 8 * n + value) 0), cs.drop values.length)

/-- What a letter behind a backslash stands for. -/
def simple? : Char → Option Char
  | '\\' => some '\\'
  | '\'' => some '\''
  | '"' => some '"'
  | 'a' => some (Char.ofNat 7)
  | 'b' => some (Char.ofNat 8)
  | 't' => some '\t'
  | 'n' => some '\n'
  | 'v' => some (Char.ofNat 11)
  | 'f' => some (Char.ofNat 12)
  | 'r' => some '\r'
  | _ => none

/-- The character whose name stands in curly brackets, and what follows them. -/
def readName? : List Char → Option (List Char × List Char)
  | '\x7b' :: cs => do
    let isInside (c : Char) := c ≠ '\x7d'
    match cs.dropWhile isInside with
    | [] => none
    | _ :: rest => return (spelling (← CharName.code? (cs.takeWhile isInside)), rest)
  | _ => none

/-- What the characters behind a backslash stand for in a full text, and what follows them.
A letter that says nothing stays with its backslash. -/
def readFull? : List Char → Option (List Char × List Char)
  | [] => none
  | '\n' :: rest => some ([], rest)
  | 'x' :: rest => readCode? 2 rest
  | 'u' :: rest => readCode? 4 rest
  | 'U' :: rest => readCode? 8 rest
  | 'N' :: rest => readName? rest
  | c :: rest =>
    match simple? c, readOctal? (c :: rest) with
    | some meant, _ => some ([meant], rest)
    | none, some (meant, rest) => some ([meant], rest)
    | none, none => some (['\\', c], rest)

/-- What the characters behind a backslash stand for in a plain text, and what follows them. -/
def readPlain? : List Char → Option (List Char × List Char)
  | [] => some (['\\'], [])
  | 'u' :: rest => readCode? 4 rest
  | 'U' :: rest => readCode? 8 rest
  | c :: rest => some (['\\', c], rest)

/-- The characters that escaped ones stand for. Every step uses up a character, of which there are
as many as the fuel. -/
def decodeChars? (isFull : Bool) : (fuel : Nat) → List Char → Option (List Char)
  | _, [] => some []
  | 0, _ => none
  | fuel + 1, c :: cs =>
    if c = '\\' then do
      let (chars, rest) ← if isFull then readFull? cs else readPlain? cs
      return chars ++ (← decodeChars? isFull fuel rest)
    else (decodeChars? isFull fuel cs).map (c :: ·)

/-- The text that bytes spell. -/
def decode? (isFull : Bool) (bytes : ByteArray) : Option String :=
  (decodeChars? isFull bytes.size (bytes.data.toList.map fun b => Char.ofNat b.toNat)).map
    String.ofList

end EngineBindings.Escaped
