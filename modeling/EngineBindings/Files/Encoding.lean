import EngineBindings.Files.CodePage
import EngineBindings.Files.DomainName
import EngineBindings.Files.Escaped
import EngineBindings.Files.Shifted
import EngineBindings.Files.Switched
import EngineBindings.Files.Tree

/-! Text encodings of files.

Encodings of one byte have a character for each byte, or for some. Those of two and four bytes
start a file with a signature that tells the order of the bytes, unless the encoding's name does;
UTF-8 may have a signature too. Texts of seven bits shift what ASCII has no place for. Other
encodings have more than one byte for some characters, switch between sets, or spell characters by
their code points. Decoding refuses what is no text in the encoding. -/
namespace EngineBindings

/-- The order of the bytes of a unit. -/
inductive ByteOrder where
  | little
  | big
  deriving DecidableEq

/-- How a text is written as bytes. -/
inductive Encoding where
  | ascii
  | latin1
  | utf8
  /-- UTF-8 behind a signature. -/
  | signedUtf8
  /-- Units of two bytes, in the order that a signature tells if none is given. -/
  | utf16 (order : Option ByteOrder)
  /-- Units of four bytes. -/
  | utf32 (order : Option ByteOrder)
  /-- Seven bits, with everything else shifted. -/
  | shifted
  | page (page : CodePage)
  | multibyte (code : Multibyte)
  | switched (sets : Switched)
  /-- Seven bits with a tilde that leads to the national set of Chinese. -/
  | tilde
  /-- Escapes of code points, and in a full text those of controls and the backslash. -/
  | escaped (isFull : Bool)
  | punycode
  | domainNames
  /-- The encoding that no text is in. -/
  | never
  deriving DecidableEq

namespace Encoding

/-! ### Names -/

/-- The encodings of more than one page, with their names and their other names, in the spelling
that `plainName` makes. -/
def unpaged : List (Encoding × String × List String) :=
  [(.utf8, "utf_8", ["utf8", "u8", "utf", "utf8_ucs2", "utf8_ucs4", "cp65001"]),
   (.signedUtf8, "utf_8_sig", []),
   (.ascii, "ascii", ["us_ascii", "us", "646", "cp367", "csascii", "ibm367", "iso646_us",
     "iso_ir_6", "ansi_x3.4_1968", "ansi_x3_4_1968", "ansi_x3.4_1986", "iso_646.irv_1991"]),
   (.latin1, "latin_1", ["latin1", "latin", "l1", "8859", "cp819", "csisolatin1", "ibm819",
     "iso8859", "iso8859_1", "iso_8859_1", "iso_8859_1_1987", "iso_ir_100"]),
   (.latin1, "charmap", []),
   (.utf16 none, "utf_16", ["utf16", "u16"]),
   (.utf16 (some .little), "utf_16_le", ["utf_16le", "unicodelittleunmarked"]),
   (.utf16 (some .big), "utf_16_be", ["utf_16be", "unicodebigunmarked"]),
   (.utf32 none, "utf_32", ["utf32", "u32"]),
   (.utf32 (some .little), "utf_32_le", ["utf_32le"]),
   (.utf32 (some .big), "utf_32_be", ["utf_32be"]),
   (.shifted, "utf_7", ["utf7", "u7", "unicode_1_1_utf_7"]),
   (.tilde, "hz", ["hzgb", "hz_gb", "hz_gb_2312"]),
   (.escaped true, "unicode_escape", []),
   (.escaped false, "raw_unicode_escape", []),
   (.punycode, "punycode", []),
   (.domainNames, "idna", []),
   (.never, "undefined", [])]

/-- All encodings with their names. -/
def known : List (Encoding × String × List String) :=
  unpaged ++ (CodePage.all.map fun p => (.page p, p.name, p.aliases)) ++
    (Multibyte.known.map fun entry => (.multibyte entry.1, entry.2)) ++
    Switched.known.map fun entry => (.switched entry.1, entry.2)

/-- A name in small letters with one underscore for every run of other characters. -/
def plainName (name : String) : String :=
  let cs := name.toList.map fun c => if c.isAlphanum || c = '.' then c.toLower else '_'
  Text.join "_" (((Text.fields '_' cs).filter (!·.isEmpty)).map String.ofList)

/-- A name with underscores for its points. -/
def unpointed (name : String) : String :=
  String.ofList (name.toList.map fun c => if c = '.' then '_' else c)

/-- The name that stands for the usual encoding of the system. -/
def systemName : String := "locale"

/-- The encoding of a given name. In the other names of an encoding a point may stand for an
underscore. -/
def named (name : String) : Except FileFault Encoding :=
  let plain := plainName name
  let byOther (name : String) := known.find? fun entry => entry.2.2.contains name
  if name.toList.contains (Char.ofNat 0) then .error .invalidName
  else if name = systemName then .ok .utf8
  else
    match byOther plain <|> byOther (unpointed plain) <|>
        known.find? fun entry => entry.2.1 = plain with
    | some entry => .ok entry.1
    | none => .error .unknownEncoding

/-! ### Units -/

/-- The character that tells the order of bytes at the start of a file. -/
def signature : Char := Char.ofNat 0xFEFF

/-- The bytes of a unit. -/
def unitBytes (width : Nat) (order : ByteOrder) (unit : Nat) : List UInt8 :=
  let bytes := Memory.wordBytes width unit
  match order with
  | .little => bytes
  | .big => bytes.reverse

/-- The units that bytes hold; nothing if the last one is incomplete. -/
def units? (width : Nat) (order : ByteOrder) (bytes : List UInt8) : Option (List Nat) :=
  if bytes.length % width = 0 then
    some (match order with
      | .little => Memory.wordValues width (bytes.length / width) bytes
      | .big => (Memory.wordValues width (bytes.length / width) bytes).map fun unit =>
        Memory.wordValue (Memory.wordBytes width unit).reverse)
  else none

/-- The characters that units of two bytes spell. -/
def chars16? : List Nat → Option (List Char)
  | [] => some []
  | [unit] => if 0xD800 ≤ unit ∧ unit < 0xE000 then none else some [Char.ofNat unit]
  | unit :: low :: rest =>
    if 0xD800 ≤ unit ∧ unit < 0xE000 then
      if unit < 0xDC00 ∧ 0xDC00 ≤ low ∧ low < 0xE000 then
        (chars16? rest).map (Text.ofPair unit low :: ·)
      else none
    else (chars16? (low :: rest)).map (Char.ofNat unit :: ·)

/-- The characters that units of four bytes are. -/
def chars32? (units : List Nat) : Option (List Char) :=
  units.mapM fun unit => if unit.isValidChar then some (Char.ofNat unit) else none

/-! ### Encoding -/

/-- The characters of a text as single bytes, if all are below a bound. -/
def singleBytes (bound : Nat) (text : String) : Except FileFault ByteArray :=
  let cs := text.toList
  if cs.all (·.toNat < bound) then .ok ⟨(cs.map fun c => UInt8.ofNat c.toNat).toArray⟩
  else .error .unencodable

/-- The characters of a text as units, behind the signature if no order is given. -/
def unitsOf (width : Nat) (spell : Char → List Nat) (order : Option ByteOrder) (text : String) :
    ByteArray :=
  let cs := if order.isNone then signature :: text.toList else text.toList
  ⟨((cs.flatMap spell).flatMap (unitBytes width (order.getD .little))).toArray⟩

/-- Characters as bytes. -/
def encodeCharacters (e : Encoding) (text : String) : Except FileFault ByteArray :=
  match e with
  | .ascii => singleBytes 0x80 text
  | .latin1 => singleBytes 0x100 text
  | .utf8 => .ok text.toUTF8
  | .signedUtf8 => .ok (String.singleton signature ++ text).toUTF8
  | .utf16 order => .ok (unitsOf 2 Shifted.units order text)
  | .utf32 order => .ok (unitsOf 4 (fun c => [c.toNat]) order text)
  | .shifted => .ok (Shifted.encode text)
  | .page p => (p.encode? text).elim (.error .unencodable) .ok
  | .multibyte m => written (m.code.encode? text.toList)
  | .switched s => written (s.switching.encode? {} text.toList)
  | .tilde => written (Tilde.encode? false text.toList)
  | .escaped isFull => .ok (Escaped.encode isFull text)
  | .punycode => .ok (String.ofList (Punycode.encode text.toList)).toUTF8
  | .domainNames =>
    (DomainName.encode text.toList).map fun name => (String.ofList name).toUTF8
  | .never => .error .illFormed
where
  /-- Bytes that have been found, or a refusal. -/
  written (bytes : Option (List UInt8)) : Except FileFault ByteArray :=
    bytes.elim (.error .unencodable) fun bytes => .ok ⟨bytes.toArray⟩

/-- A text as bytes. Half of a pair has none. -/
def encode (e : Encoding) (text : String) : Except FileFault ByteArray :=
  (Text.characters? text).elim (.error .unencodable) e.encodeCharacters

/-! ### Decoding -/

/-- Bytes below a bound as the characters of their numbers. -/
def singleChars (bound : Nat) (bytes : ByteArray) : Except FileFault String :=
  if bytes.data.all (·.toNat < bound) then
    .ok (String.ofList (bytes.data.toList.map fun b => Char.ofNat b.toNat))
  else .error .undecodable

/-- The text that bytes spell in UTF-8. -/
def textOfUtf8 (bytes : ByteArray) : Except FileFault String :=
  (String.fromUTF8? bytes).elim (.error .undecodable) .ok

/-- The order that the signature at the start of bytes tells, and the bytes behind it. -/
def readSignature? (width : Nat) (bytes : List UInt8) : Option (ByteOrder × List UInt8) :=
  ([ByteOrder.little, .big].find? fun order =>
    bytes.take width == unitBytes width order signature.toNat).map (·, bytes.drop width)

/-- The text that units in a known order spell. -/
def textOfOrdered (width : Nat) (spelt : List Nat → Option (List Char)) (order : ByteOrder)
    (bytes : List UInt8) : Except FileFault String :=
  match (units? width order bytes).bind spelt with
  | some cs => .ok (String.ofList cs)
  | none => .error .undecodable

/-- The text that units spell. Without a signature that it needs, a text is looked at as if its
low bytes came first, and refused even if it is one. -/
def textOfUnits (width : Nat) (spelt : List Nat → Option (List Char)) (order : Option ByteOrder)
    (bytes : ByteArray) : Except FileFault String :=
  let bytes := bytes.data.toList
  match order, readSignature? width bytes with
  | some order, _ => textOfOrdered width spelt order bytes
  | none, some (order, rest) => textOfOrdered width spelt order rest
  | none, none => do
    let _ ← textOfOrdered width spelt .little bytes
    if bytes.isEmpty then return "" else throw .illFormed

/-- The characters behind the signature that UTF-8 may have. -/
def textOfSigned (bytes : ByteArray) : Except FileFault String :=
  let signatureBytes := (String.singleton signature).toUTF8.data.toList
  if bytes.size < 3 && bytes.data.toList.isPrefixOf signatureBytes then .ok ""
  else
    (textOfUtf8 bytes).map fun text =>
      match text.toList with
      | c :: rest => if c = signature then String.ofList rest else text
      | [] => text

/-- The text that bytes hold. -/
def decode (e : Encoding) (bytes : ByteArray) : Except FileFault String :=
  match e with
  | .ascii => singleChars 0x80 bytes
  | .latin1 => singleChars 0x100 bytes
  | .utf8 => (textOfUtf8 bytes).map Text.ofCharacters
  | .signedUtf8 => (textOfSigned bytes).map Text.ofCharacters
  | .utf16 order => (textOfUnits 2 chars16? order bytes).map Text.ofCharacters
  | .utf32 order => (textOfUnits 4 chars32? order bytes).map Text.ofCharacters
  | .shifted => (Shifted.decode? bytes).elim (.error .undecodable) .ok
  | .page p => (p.decode? bytes).elim (.error .undecodable) .ok
  | .multibyte m => found (m.code.decode? bytes.data.toList)
  | .switched s => found (s.switching.decode? {} bytes.data.toList)
  | .tilde => found (Tilde.decode? false bytes.data.toList)
  | .escaped isFull => (Escaped.decode? isFull bytes).elim (.error .undecodable) .ok
  | .punycode => (Punycode.decode (byteChars bytes)).map Text.ofCodes
  | .domainNames => (DomainName.decode (byteChars bytes)).map spelt
  | .never => .error .illFormed
where
  /-- The text of characters. -/
  spelt (cs : List Char) : String :=
    Text.ofCharacters (String.ofList cs)
  /-- The text of characters that have been found, or a refusal. -/
  found (chars : Option (List Char)) : Except FileFault String :=
    chars.elim (.error .undecodable) fun cs => .ok (spelt cs)
  /-- Bytes as the characters of their numbers. -/
  byteChars (bytes : ByteArray) : List Char :=
    bytes.data.toList.map fun b => Char.ofNat b.toNat

end Encoding

end EngineBindings
