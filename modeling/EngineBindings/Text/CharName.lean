import EngineBindings.Text.CharName.Alphabets
import EngineBindings.Text.CharName.Ancient
import EngineBindings.Text.CharName.Signs
import EngineBindings.Text.CharName.Syllables
import EngineBindings.Text.Quoted
import EngineBindings.Text.Syllable

/-! Names of characters.

A character is found by its name or by one of its further names. Syllables are named by the
romanised letters that they are made of, ideographs by their code points, and all others by tables.
A name of a table is told by how it differs from the one before it, piece by piece; a piece ends
with a blank or a hyphen. The data is Unicode 14. -/
namespace EngineBindings.Text.CharName

/-! ### Further names

Controls have no other names, and some characters have a short name or a corrected one besides their
own. -/

/-- Further names in the order of the code points. -/
def aliases : List String := [
    "0aNULL", "0aNULaSTART OF HEADING", "1aSOHaSTART OF TEXT", "2aSTXaEND OF TEXT",
    "3aETXaEND OF TRANSMISSION", "4aEOTaENQUIRY", "5aENQaACKNOWLEDGE", "6aACKaALERT",
    "7aBELaBACKSPACE", "8aBSaCHARACTER TABULATION", "9nHORIZONTAL ", "9aHT", "9aTABaLINE FEED",
    "AaNEW LINE", "AaEND OF LINE", "AaLF", "AaNL", "AaEOLaLINE TABULATION", "BnVERTICAL ",
    "BaVTaFORM FEED", "CaFFaCARRIAGE RETURN", "DaCRaSHIFT OUT", "EaLOCKING-SHIFT ONE",
    "EaSOaSHIFT IN", "FaLOCKING-SHIFT ZERO", "FaSIaDATA LINK ESCAPE", "10aDLEaDEVICE CONTROL ONE",
    "11aDC1aDEVICE CONTROL TWO", "12aDC2aDEVICE CONTROL THREE", "13aDC3aDEVICE CONTROL FOUR",
    "14aDC4aNEGATIVE ACKNOWLEDGE", "15aNAKaSYNCHRONOUS IDLE", "16aSYNaEND OF TRANSMISSION BLOCK",
    "17aETBaCANCEL", "18aCANaEND OF MEDIUM", "19aEOMaSUBSTITUTE", "1AaSUBaESCAPE",
    "1BaESCaINFORMATION SEPARATOR FOUR", "1CaFILE SEPARATOR", "1CaFSaINFORMATION SEPARATOR THREE",
    "1DaGROUP SEPARATOR", "1DaGSaINFORMATION SEPARATOR TWO", "1EaRECORD SEPARATOR",
    "1EaRSaINFORMATION SEPARATOR ONE", "1FaUNIT SEPARATOR", "1FaUSaSP", "7FaDELETE",
    "7FaDELaPADDING CHARACTER", "80aPADaHIGH OCTET PRESET", "81aHOPaBREAK PERMITTED HERE",
    "82aBPHaNO BREAK HERE", "83aNBHaINDEX", "84aINDaNEXT LINE", "85aNELaSTART OF SELECTED AREA",
    "86aSSAaEND OF SELECTED AREA", "87aESAaCHARACTER TABULATION SET", "88nHORIZONTAL ",
    "88aHTSaCHARACTER TABULATION WITH JUSTIFICATION", "89nHORIZONTAL ",
    "89aHTJaLINE TABULATION SET", "8AnVERTICAL ", "8AaVTSaPARTIAL LINE FORWARD", "8BcDOWN",
    "8BaPLDaPARTIAL LINE BACKWARD", "8CcUP", "8CaPLUaREVERSE LINE FEED", "8DbINDEX",
    "8DaRIaSINGLE SHIFT TWO", "8EaSINGLE-SHIFT-2", "8EaSS2aSINGLE SHIFT THREE", "8FaSINGLE-SHIFT-3",
    "8FaSS3aDEVICE CONTROL STRING", "90aDCSaPRIVATE USE ONE", "91bUSE-1", "91aPU1aPRIVATE USE TWO",
    "92bUSE-2", "92aPU2aSET TRANSMIT STATE", "93aSTSaCANCEL CHARACTER", "94aCCHaMESSAGE WAITING",
    "95aMWaSTART OF GUARDED AREA", "96pPROTECTED ", "96aSPAaEND OF GUARDED AREA", "97pPROTECTED ",
    "97aEPAaSTART OF STRING", "98aSOSaSINGLE GRAPHIC CHARACTER INTRODUCER",
    "99aSGCaSINGLE CHARACTER INTRODUCER", "9AaSCIaCONTROL SEQUENCE INTRODUCER",
    "9BaCSIaSTRING TERMINATOR", "9CaSTaOPERATING SYSTEM COMMAND", "9DaOSCaPRIVACY MESSAGE",
    "9EaPMaAPPLICATION PROGRAM COMMAND", "9FaAPCaNBSP", "ADaSHY",
    "1A2aLATIN CAPITAL LETTER GHAoSMALL ", "34FaCGJ", "61CaALM",
    "709aSYRIAC SUBLINEAR COLON SKEWED LEFT", "CDEaKANNADA LETTER LLLA", "E9DaLAO LETTER FO FON",
    "E9FdFAY", "EA3cRO", "EA5cLO", "FD0aTIBETAN MARK BKA- SHOG GI MGO RGYAN",
    "11ECaHANGUL JONGSEONG YESIEUNG-KIYEOKdSSANGKIYEOKcSSANGYESIEUNGcYESIEUNG-KHIEUKH",
    "180BaFVS1aFVS2aFVS3aMVSaFVS4", "200BaZWSPaZWNJaZWJaLRMaRLM", "202AaLREaRLEaPDFaLROaRLOaNNBSP",
    "205FaMMSPaWJ", "2066aLRIaRLIaFSIaPDI", "2118aWEIERSTRASS ELLIPTIC FUNCTION",
    "2448aMICR ON US SYMBOLbDASH SYMBOL",
    "2B7AaLEFTWARDS TRIANGLE-HEADED ARROW WITH DOUBLE VERTICAL STROKE", "2B7CnRIGHTWARDS ",
    "A015aYI SYLLABLE ITERATION MARK", "AA6EaMYANMAR LETTER KHAMTI LLA",
    "FE00aVS1aVS2aVS3aVS4aVS5aVS6aVS7aVS8aVS9aVS10aVS11aVS12aVS13aVS14aVS15aVS16",
    "FE18aPRESENTATION FORM FOR VERTICAL RIGHT WHITE LENTICULAR BRACKET", "FEFFaBYTE ORDER MARK",
    "FEFFaBOM", "FEFFaZWNBSP", "122D4aCUNEIFORM SIGN NU11 TENUdOVER NU11 BUR OVER BUR",
    "16E56aMEDEFAIDRIN CAPITAL LETTER HdNG", "16E76bSMALL LETTER HdNG",
    "1B001aHENTAIGANA LETTER E-1", "1D0C5aBYZANTINE MUSICAL SYMBOL FTHORA SKLIRON CHROMA VASIS",
    "E0100aVS17aVS18aVS19aVS20aVS21aVS22aVS23aVS24aVS25aVS26aVS27aVS28aVS29aVS30aVS31aVS32aVS33",
    "aVS34aVS35aVS36aVS37aVS38aVS39aVS40aVS41aVS42aVS43aVS44aVS45aVS46aVS47aVS48aVS49aVS50aVS51",
    "aVS52aVS53aVS54aVS55aVS56aVS57aVS58aVS59aVS60aVS61aVS62aVS63aVS64aVS65aVS66aVS67aVS68aVS69",
    "aVS70aVS71aVS72aVS73aVS74aVS75aVS76aVS77aVS78aVS79aVS80aVS81aVS82aVS83aVS84aVS85aVS86aVS87",
    "aVS88aVS89aVS90aVS91aVS92aVS93aVS94aVS95aVS96aVS97aVS98aVS99aVS100aVS101aVS102aVS103aVS104",
    "aVS105aVS106aVS107aVS108aVS109aVS110aVS111aVS112aVS113aVS114aVS115aVS116aVS117aVS118aVS119",
    "aVS120aVS121aVS122aVS123aVS124aVS125aVS126aVS127aVS128aVS129aVS130aVS131aVS132aVS133aVS134",
    "aVS135aVS136aVS137aVS138aVS139aVS140aVS141aVS142aVS143aVS144aVS145aVS146aVS147aVS148aVS149",
    "aVS150aVS151aVS152aVS153aVS154aVS155aVS156aVS157aVS158aVS159aVS160aVS161aVS162aVS163aVS164",
    "aVS165aVS166aVS167aVS168aVS169aVS170aVS171aVS172aVS173aVS174aVS175aVS176aVS177aVS178aVS179",
    "aVS180aVS181aVS182aVS183aVS184aVS185aVS186aVS187aVS188aVS189aVS190aVS191aVS192aVS193aVS194",
    "aVS195aVS196aVS197aVS198aVS199aVS200aVS201aVS202aVS203aVS204aVS205aVS206aVS207aVS208aVS209",
    "aVS210aVS211aVS212aVS213aVS214aVS215aVS216aVS217aVS218aVS219aVS220aVS221aVS222aVS223aVS224",
    "aVS225aVS226aVS227aVS228aVS229aVS230aVS231aVS232aVS233aVS234aVS235aVS236aVS237aVS238aVS239",
    "aVS240aVS241aVS242aVS243aVS244aVS245aVS246aVS247aVS248aVS249aVS250aVS251aVS252aVS253aVS254",
    "aVS255aVS256"]

/-! ### Pieces -/

/-- A name in pieces. -/
abbrev Pieces := List (List Char)

/-- The pieces of a name, each with the blank or the hyphen that ends it. -/
def pieces : List Char → Pieces
  | [] => []
  | c :: cs =>
    if c = ' ' ∨ c = '-' then [c] :: pieces cs
    else
      match pieces cs with
      | [] => [[c]]
      | piece :: rest => (c :: piece) :: rest

/-- Nothing of a name is lost. -/
theorem flatten_pieces (name : List Char) : (pieces name).flatten = name := by
  induction name with
  | nil => rfl
  | cons c cs ih =>
    unfold pieces
    split
    · simp [ih]
    · split
      · next none =>
        rw [none] at ih
        simpa using ih
      · next piece rest found =>
        rw [found] at ih
        simpa using ih

/-! ### Lines of a table -/

/-- How a name follows from the one before it: so many pieces stay, others are given, and behind
those that they replace the rest may stay too. -/
structure Entry where
  kept : Nat
  given : Pieces
  keepsRest : Bool

/-- The entry of a small letter and the characters behind it. The letters from `a` on tell how many
pieces stay in front, those from `n` on tell the same and that the rest stays. -/
def Entry.ofLetter (letter : Char) (given : List Char) : Entry :=
  let place := letter.toNat - 'a'.toNat
  if place < 13 then ⟨place, pieces given, false⟩ else ⟨place - 13, pieces given, true⟩

/-- The name that follows. -/
def Entry.name (entry : Entry) (before : Pieces) : Pieces :=
  before.take entry.kept ++ entry.given ++
    if entry.keepsRest then before.drop (entry.kept + entry.given.length) else []

/-- The characters in front of the first small letter, and the entries that small letters begin. -/
def entries : List Char → List Char × List Entry
  | [] => ([], [])
  | c :: cs =>
    let (front, found) := entries cs
    if c.isLower then ([], .ofLetter c front :: found) else (c :: front, found)

/-! ### Finding names -/

/-- How far a table has been read: up to a name, which stands for a code point, or through names of
which the last one is told and the code point that the next one stands for. -/
inductive Reading where
  | found (code : Nat)
  | through (next : Nat) (before : Pieces)

namespace Reading

/-- Reads one more name. -/
def step (wanted : Pieces) : Reading → Entry → Reading
  | found code, _ => found code
  | through next before, entry =>
    let name := entry.name before
    if name = wanted then found next else through (next + 1) name

/-- Reads one more line. Its names are those of successive code points, of which the first stands in
front in hexadecimal digits unless it is the next after those of the line before. -/
def line (wanted : Pieces) : Reading → String → Reading
  | found code, _ => found code
  | through next before, line =>
    let (front, entries) := entries line.toList
    let first := if front.isEmpty then next else (hexNumber? front).getD next
    entries.foldl (step wanted) (through first before)

/-- The code point that was found. -/
def code? : Reading → Option Nat
  | found code => some code
  | through _ _ => none

end Reading

/-- The code point that a name stands for in the lines of a table. -/
def codeIn? (name : List Char) (lines : List String) : Option Nat :=
  (lines.foldl (Reading.line (pieces name)) (.through 0 [])).code?

/-- The tables. -/
def tables : List (List String) :=
  [alphabets, signs, syllables, ancient, pictures, aliases]

/-! ### Names by rule -/

/-- What is left of a text behind its beginning. -/
def after? (start : String) (cs : List Char) : Option (List Char) :=
  if start.toList.isPrefixOf cs then some (cs.drop start.length) else none

/-- The romanised letters that begin a syllable. -/
def initials : List String :=
  ["G", "GG", "N", "D", "DD", "R", "M", "B", "BB", "S", "SS", "", "J", "JJ", "C", "K", "T", "P", "H"]

/-- The romanised vowels. -/
def vowels : List String :=
  ["A", "AE", "YA", "YAE", "EO", "E", "YEO", "YE", "O", "WA", "WAE", "OE", "YO", "U", "WEO", "WE",
    "WI", "YU", "EU", "YI", "I"]

/-- The romanised letters that end a syllable. -/
def finals : List String :=
  ["", "G", "GG", "GS", "N", "NJ", "NH", "D", "L", "LG", "LM", "LB", "LS", "LT", "LP", "LH", "M",
    "B", "BS", "S", "SS", "NG", "J", "C", "K", "T", "P", "H"]

/-- Whether a letter is one that vowels are romanised by. -/
def isOfVowel (c : Char) : Bool :=
  "AEIOUWY".toList.contains c

/-- The syllable of romanised letters. -/
def syllableOf? (letters : List Char) : Option Syllable := do
  let initial := letters.takeWhile (!isOfVowel ·)
  let rest := letters.dropWhile (!isOfVowel ·)
  let place? (among : List String) (cs : List Char) := among.findIdx? (·.toList = cs)
  return ⟨← place? initials initial, ← place? vowels (rest.takeWhile isOfVowel),
    ← place? finals (rest.dropWhile isOfVowel)⟩

/-- The code point that a name of a syllable stands for. -/
def syllableNamed? (name : List Char) : Option Nat := do
  return (← syllableOf? (← after? "HANGUL SYLLABLE " name)).code

/-- The ideographs that all scripts with ideographs share. -/
def sharedIdeographs : List (Nat × Nat) :=
  [(0x3400, 0x4DBF), (0x4E00, 0x9FFF), (0x20000, 0x2A6DF), (0x2A700, 0x2B738), (0x2B740, 0x2B81D),
    (0x2B820, 0x2CEA1), (0x2CEB0, 0x2EBE0), (0x30000, 0x3134A)]

/-- Whether a code point is in one of some ranges. -/
def isInRanges (ranges : List (Nat × Nat)) (code : Nat) : Bool :=
  ranges.any fun (first, last) => first ≤ code && code ≤ last

/-- The code point that a name of a shared ideograph stands for. It has four or five hexadecimal
digits in upper case, of which the first may be a zero. -/
def ideographNamed? (name : List Char) : Option Nat := do
  let digits ← after? "CJK UNIFIED IDEOGRAPH-" name
  if digits.any Char.isLower ∨ ¬(digits.length = 4 ∨ digits.length = 5) then none
  let code ← hexNumber? digits
  if isInRanges sharedIdeographs code then some code else none

/-- Names that end with the code point: how they begin, and the ranges of the code points. -/
def numberedNames : List (String × List (Nat × Nat)) :=
  [("CJK COMPATIBILITY IDEOGRAPH-", [(0xF900, 0xFA6D), (0xFA70, 0xFAD9), (0x2F800, 0x2FA1D)]),
    ("KHITAN SMALL SCRIPT CHARACTER-", [(0x18B00, 0x18CD5)]),
    ("NUSHU CHARACTER-", [(0x1B170, 0x1B2FB)])]

/-- The code point that a name with that code point stands for. -/
def numberNamed? (name : List Char) : Option Nat :=
  numberedNames.findSome? fun (start, ranges) => do
    let digits ← after? start name
    let code ← hexNumber? digits
    if isInRanges ranges code ∧ digits.length = (if code < 0x10000 then 4 else 5) then some code
    else none

/-- The code point that a name stands for. Letters are read without regard to case except in the
names of syllables and of shared ideographs. -/
def code? (name : List Char) : Option Nat :=
  let upper := name.map Char.toUpper
  syllableNamed? name <|> ideographNamed? name <|> numberNamed? upper <|>
    tables.findSome? (codeIn? upper)

end EngineBindings.Text.CharName
