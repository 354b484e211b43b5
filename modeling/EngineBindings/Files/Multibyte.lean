import EngineBindings.Files.CharSet.Big5
import EngineBindings.Files.CharSet.Chinese
import EngineBindings.Files.CharSet.Japanese
import EngineBindings.Files.CharSet.Korean
import EngineBindings.Files.Hangul

/-! Encodings of one to four bytes a character.

All of them write ASCII as it is, or nearly so, and put the characters of one or two sets on grids
of pairs of bytes. They differ in the grids, in what vendors have put into the gaps, and in how
what is left is reached: behind a byte that leads to another set, by letters, or by number. -/
namespace EngineBindings

/-- The encodings of one to four bytes a character. -/
inductive Multibyte where
  | gb2312
  | gbk
  | gb18030
  | big5
  | big5hkscs
  | cp950
  | shiftJis
  | cp932
  | shiftJis2004
  | shiftJisX0213
  | eucJp
  | eucJis2004
  | eucJisX0213
  | eucKr
  | cp949
  | johab
  deriving DecidableEq

namespace Multibyte

open CharCode (ascii bytes grid marked behind writeOnly ofParts)

/-- All of them with their names and their other names. -/
def known : List (Multibyte × String × List String) :=
  [(.gb2312, "gb2312", ["chinese", "csiso58gb231280", "euc_cn", "euccn", "eucgb2312_cn",
     "gb2312_1980", "gb2312_80", "iso_ir_58", "x_mac_simp_chinese"]),
   (.gbk, "gbk", ["936", "cp936", "ms936"]),
   (.gb18030, "gb18030", ["gb18030_2000"]),
   (.big5, "big5", ["big5_tw", "csbig5", "x_mac_trad_chinese"]),
   (.big5hkscs, "big5hkscs", ["big5_hkscs", "hkscs"]),
   (.cp950, "cp950", ["950", "ms950"]),
   (.shiftJis, "shift_jis", ["csshiftjis", "shiftjis", "sjis", "s_jis", "x_mac_japanese"]),
   (.cp932, "cp932", ["932", "ms932", "mskanji", "ms_kanji"]),
   (.shiftJis2004, "shift_jis_2004", ["shiftjis2004", "sjis_2004", "s_jis_2004"]),
   (.shiftJisX0213, "shift_jisx0213", ["shiftjisx0213", "sjisx0213", "s_jisx0213"]),
   (.eucJp, "euc_jp", ["eucjp", "ujis", "u_jis"]),
   (.eucJis2004, "euc_jis_2004", ["jisx0213", "eucjis2004", "euc_jis2004"]),
   (.eucJisX0213, "euc_jisx0213", ["eucjisx0213"]),
   (.eucKr, "euc_kr", ["euckr", "korean", "ksc5601", "ks_c_5601", "ks_c_5601_1987", "ksx1001",
     "ks_x_1001", "x_mac_korean"]),
   (.cp949, "cp949", ["949", "ms949", "uhc"]),
   (.johab, "johab", ["cp1361", "ms1361"])]

/-! ### Chinese -/

/-- The national set of simplified Chinese with the signs that its extensions have. -/
def gbkBase : CharSet :=
  (CharSet.gb2312.patch 3 ['·']).patch 9 ['—']

/-- Ideographs of the extension, in the order of the basic block. -/
def gbkIdeographs : List Char :=
  CharSet.gb2312.missing 0x4E00 20902 ++ CharSet.gbkLast.toList

/-- How many ideographs of the extension lie in front of the national set. -/
def gbkFrontCount : Nat := 32 * 190

/-- The ideographs in front of the national set. -/
def gbkFront : CharSet :=
  CharSet.empty.patch 0 (gbkIdeographs.take gbkFrontCount)

/-- The ideographs beside the national set. -/
def gbkSide : CharSet :=
  CharSet.empty.patch 0 (gbkIdeographs.drop gbkFrontCount)

/-- The places beside the national set. -/
def sideGrid : Grid := ⟨[(0xAA, 0xFE)], [(0x40, 0x7E), (0x80, 0xA0)]⟩

/-- The parts of the first extension. -/
def gbkParts : List CharCode :=
  [ascii, grid .high gbkBase, grid .gbk CharSet.gbkSigns, grid .gbk gbkFront,
    grid sideGrid gbkSide]

/-- Private characters that fill whole rows of the national set. -/
def privateRows : CharSet :=
  CharSet.empty.patch 0 (CharSet.span 0xE000 (13 * 94))

/-- Private characters beside rows of the national set. -/
def privateSide : CharSet :=
  CharSet.empty.patch 0 (CharSet.span 0xE4C6 (7 * 96))

/-- Private characters in gaps. -/
def privateGaps : CharSet :=
  CharSet.gb18030Private.foldl (fun s run =>
    s.patch ((Grid.gbk.cell? (run.1 / 0x100) (run.1 % 0x100)).getD 0)
      (CharSet.span run.2.1 run.2.2)) .empty

/-- Rows that private characters fill. -/
def privateGrid : Grid := ⟨[(0xAA, 0xAF), (0xF8, 0xFE)], [(0xA1, 0xFE)]⟩

/-- Places beside the rows of signs. -/
def privateSideGrid : Grid := ⟨[(0xA1, 0xA7)], [(0x40, 0x7E), (0x80, 0xA0)]⟩

/-- Characters of the basic plane that have no place of two bytes, in ascending order. -/
def fourByteChars : Array Char :=
  let sets := [gbkBase, CharSet.gbkSigns, gbkFront, gbkSide, CharSet.gb18030Signs, privateRows,
    privateSide, privateGaps]
  let all : CharSet := ⟨sets.foldl (fun cells s => cells ++ s.cells.filter (· ≠ CharSet.gap)) #[]⟩
  (all.missing 0x80 (0xD800 - 0x80) ++ all.missing 0xE000 0x2000).toArray

/-- Halves of the places of four bytes. -/
def halfGrid : Grid := ⟨[(0x81, 0xFE)], [(0x30, 0x39)]⟩

/-- How many places of four bytes a half of them leads to. -/
def halfCount : Nat := 126 * 10

/-- The place of the first character beyond the basic plane. -/
def beyondPlace : Nat := 150 * halfCount

/-- The place of four bytes of a character. -/
def fourBytePlace? (c : Char) : Option Nat :=
  if 0x10000 ≤ c.toNat then some (beyondPlace + (c.toNat - 0x10000))
  else fourByteChars.findIdx? (· = c)

/-- The character at a place of four bytes. -/
def fourByteChar? (place : Nat) : Option Char :=
  if place < beyondPlace then fourByteChars[place]?
  else
    let n := place - beyondPlace + 0x10000
    if n.isValidChar then some (Char.ofNat n) else none

/-- All other characters by number, as two halves of two bytes. -/
def fourBytes : CharCode :=
  { write := fun c _ => do
      let place ← fourBytePlace? c
      let (a, b) ← halfGrid.pair? (place / halfCount)
      let (c, d) ← halfGrid.pair? (place % halfCount)
      return ([a, b, c, d].map CharCode.byte, 0)
    read := fun b bs => do
      match (b :: bs.take 3).map (·.toNat) with
      | [a, b, c, d] =>
        let place := (← halfGrid.cell? a b) * halfCount + (← halfGrid.cell? c d)
        return ([← fourByteChar? place], 3)
      | _ => none }

/-- Characters of Hong Kong with marks. -/
def hkscsPairs : List (Nat × Char × Char) :=
  [(0x8862, 0xCA, 0x304), (0x8864, 0xCA, 0x30C), (0x88A3, 0xEA, 0x304), (0x88A5, 0xEA, 0x30C)].map
    fun (code, c, mark) => ((Grid.big5.cell? (code / 0x100) (code % 0x100)).getD 0,
      Char.ofNat c, Char.ofNat mark)

/-- The number of a code of traditional Chinese. -/
def big5Cell (code : Nat) : Nat :=
  (Grid.big5.cell? (code / 0x100) (code % 0x100)).getD 0

/-- Places of the common set whose characters Hong Kong writes at places of its own. -/
def isMovedInHkscs (cell : Nat) : Bool :=
  big5Cell 0xA27E ≤ cell && cell ≤ big5Cell 0xA2A7

/-- The common set without those places and without those that Hong Kong has other characters at. -/
def hkscsBase : CharSet :=
  CharSet.big5.without fun cell =>
    isMovedInHkscs cell || (big5Cell 0xC6A1 ≤ cell && cell ≤ big5Cell 0xC8FE)

/-- The moved characters at their places in the common set. -/
def hkscsSecond : CharSet :=
  CharSet.big5.without (!isMovedInHkscs ·)

/-! ### Japanese -/

/-- The characters of single bytes: katakana of half the width. -/
def narrowKana : CharCode :=
  bytes 0xA1 (CharSet.span 0xFF61 63)

/-- The number of a row and a cell, both counted from one. -/
def cellOf (row cell : Nat) : Nat := (row - 1) * 94 + (cell - 1)

/-- The basic set as the desktop systems have it: some signs are others, and private characters
fill twenty rows. -/
def cp932Set : CharSet :=
  let base := CharSet.cp932Signs.foldl (fun s sign => s.patch (cellOf sign.1 sign.2.1) [sign.2.2])
    CharSet.jisX0208
  (base.overlay CharSet.cp932Rows).patch (cellOf 95 1) (CharSet.span 0xE000 (20 * 94))

/-- Signs that are other signs on the desktop systems. -/
def cp932Others : CharCode :=
  grid .kana (CharSet.cp932Signs.foldl (fun s sign =>
    let cell := cellOf sign.1 sign.2.1
    s.patch cell ((CharSet.jisX0208.char? cell).toList)) .empty)

/-- The first plane of the later set. -/
def firstPlane : CharSet :=
  CharSet.jisX0208.overlay CharSet.jisX0213

/-- The first plane as its first edition had it. -/
def firstPlaneEarly : CharSet :=
  firstPlane.without fun cell => CharSet.jisX0213Late.any fun late => cellOf late.1 late.2 = cell

/-- A place of the second plane that holds one form of a character in the first edition and another
in the second. -/
def movedCell : Nat := cellOf 93 27

/-- The second plane as its first edition had it. -/
def secondPlaneEarly : CharSet :=
  CharSet.jisX0213Second.patch movedCell [Char.ofNat 0x9B1D]

/-- The characters with marks of the later set. -/
def kanaPairs : List (Nat × Char × Char) :=
  CharSet.jisX0213Pairs.map fun (row, cell, c, mark) =>
    (cellOf row cell, Char.ofNat c, Char.ofNat mark)

/-- The signs that Japan has in place of the backslash and the tilde. -/
def yenAndLine : CharCode :=
  ofParts [bytes 0x5C ['¥'], bytes 0x7E [Char.ofNat 0x203E]]

/-- The backslash and the tilde where their usual bytes are taken. -/
def backslashAndTilde (set : CharSet) : CharSet :=
  (set.patch (cellOf 1 32) ['\\']).patch (cellOf 2 18) ['~']

/-- The rows of the second plane in the order of their leading bytes. -/
def secondPlaneRows : List Nat :=
  [1, 8, 3, 4, 5, 12, 13, 14, 15] ++ (List.range 17).map (78 + ·)

/-- The second plane in that order. -/
def secondPlaneShifted (plane : CharSet) : CharSet :=
  secondPlaneRows.zipIdx.foldl (fun s row =>
    s.patch (row.2 * 94) ((List.range 94).map fun i =>
      (plane.char? (cellOf row.1 1 + i)).getD CharSet.gap)) .empty

/-- The leading bytes of the second plane. -/
def secondPlaneGrid : Grid := ⟨[(0xF0, 0xFC)], [(0x40, 0x7E), (0x80, 0xFC)]⟩

/-- The encoding of two planes around katakana. -/
def shiftedPlanes (first second : CharSet) : List CharCode :=
  [yenAndLine, narrowKana, marked .kana kanaPairs, grid .kana (backslashAndTilde first),
    grid secondPlaneGrid (secondPlaneShifted second), ascii]

/-- The supplement. -/
def supplement : CharCode := grid .high CharSet.jisX0212

/-- The characters that only the second edition of the later set has. -/
def lateChars : List Char :=
  (CharSet.jisX0213Late.filterMap fun late => firstPlane.char? (cellOf late.1 late.2)) ++
    (CharSet.jisX0213Second.char? movedCell).toList

/-- The supplement, of which those characters are read and not written. -/
def supplementEarly : CharCode :=
  let early := CharSet.jisX0212.without fun cell =>
    (CharSet.jisX0212.char? cell).any lateChars.contains
  { supplement with write := (grid .high early).write }

/-- The encoding of two planes, the second behind a byte that leads to it and to the supplement. -/
def extendedPlanes (first second : CharSet) (supplement : CharCode) : List CharCode :=
  let wideTilde := Char.ofNat 0xFF5E
  [ascii, behind 0x8E narrowKana, marked .high kanaPairs,
    grid .high (first.patch (cellOf 2 18) [wideTilde]), behind 0x8F (grid .high second),
    behind 0x8F supplement]

/-! ### Korean -/

/-- The filler in place of a letter. -/
def filler : Char := Char.ofNat 0x3164

/-- The number of the filler. -/
def fillerCell : Nat := cellOf 4 52

/-- The common syllables on a grid, and behind the filler all others by letters. -/
def koreanParts : List CharCode :=
  [ascii, grid .high (CharSet.ksX1001.without (· = fillerCell)), Hangul.spelledOut,
    (grid .high (CharSet.empty.patch fillerCell [filler])).writeOnly]

/-- The places of rare syllables: in front of the common set first, and then beside it. -/
def syllableGrids : List Grid :=
  let letters := [(0x41, 0x5A), (0x61, 0x7A)]
  [⟨[(0x81, 0xA0)], letters ++ [(0x81, 0xFE)]⟩, ⟨[(0xA1, 0xC6)], letters ++ [(0x81, 0xA0)]⟩]

/-- How many rare syllables there are in front of the common set. -/
def rareFrontCount : Nat := 32 * 178

/-- The rare syllables in their places. -/
def rareParts : List CharCode :=
  let rare := CharSet.ksX1001.missing 0xAC00 11172
  (syllableGrids.zip [rare.take rareFrontCount, rare.drop rareFrontCount]).map fun (places, chars) =>
    grid places (CharSet.empty.patch 0 chars)

/-- Signs and ideographs of the national set in double rows; its letters are packed. -/
def johabSet : CharSet :=
  let letters := CharSet.ksX1001.without fun cell => cellOf 4 1 ≤ cell && cell < fillerCell
  ⟨letters.cells.take (12 * 94) ++ (letters.cells.drop (41 * 94)).take (52 * 94)⟩

/-! ### All of them -/

/-- The parts of an encoding. -/
def parts : Multibyte → List CharCode
  | gb2312 => [ascii, grid .high CharSet.gb2312]
  | gbk => gbkParts
  | gb18030 =>
    gbkParts ++ [grid .gbk CharSet.gb18030Signs, grid privateGrid privateRows,
      grid privateSideGrid privateSide, grid .gbk privateGaps, fourBytes]
  | big5 => [ascii, grid .big5 CharSet.big5, grid .big5 CharSet.big5Second]
  | big5hkscs =>
    [ascii, marked .big5 hkscsPairs, grid .big5 hkscsBase, grid .big5 CharSet.hkscs,
      grid .big5 CharSet.big5Second, grid .big5 hkscsSecond]
  | cp950 =>
    [ascii, grid .big5 (CharSet.cp950Signs.overlay CharSet.big5), grid .big5 CharSet.big5Second,
      grid .big5 CharSet.big5]
  | shiftJis => [ascii, narrowKana, grid .kana CharSet.jisX0208, yenAndLine]
  | cp932 =>
    [ascii, narrowKana, bytes 0x80 [Char.ofNat 0x80], bytes 0xA0 [Char.ofNat 0xF8F0],
      bytes 0xFD (CharSet.span 0xF8F1 3), grid .kana cp932Set, cp932Others]
  | shiftJis2004 => shiftedPlanes firstPlane CharSet.jisX0213Second
  | shiftJisX0213 => shiftedPlanes firstPlaneEarly secondPlaneEarly
  | eucJp =>
    [ascii, behind 0x8E narrowKana, grid .high CharSet.jisX0208,
      behind 0x8F (grid .high CharSet.jisX0212), yenAndLine]
  | eucJis2004 => extendedPlanes firstPlane CharSet.jisX0213Second supplement
  | eucJisX0213 => extendedPlanes firstPlaneEarly secondPlaneEarly supplementEarly
  | eucKr => koreanParts
  | cp949 => [ascii, grid .high CharSet.ksX1001] ++ rareParts
  | johab => [ascii, Hangul.fiveBits, grid .johab johabSet]

/-- The code of an encoding. -/
def code (m : Multibyte) : CharCode :=
  ofParts m.parts

end Multibyte

end EngineBindings
