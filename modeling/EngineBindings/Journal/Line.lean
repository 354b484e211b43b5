import EngineBindings.Journal.Basic
import EngineBindings.Journal.Format
import EngineBindings.Number.Notation
import EngineBindings.Text.Quoted

/-! Lines of logs.

A line is a format with its fields filled in. A field without a name shows all fields together, if
it is the first one. A format that asks for what there is not leaves the line out. -/
namespace EngineBindings.Journal

open EngineBindings.Text

/-! ### Fields of entries

A log shows fields of an entry by their names. Most of them are the same in every run; of the
others, such as a time, only the start is, and a log is known as far as no more of them is shown. -/

/-- The value of a field. -/
inductive FieldValue where
  | text (text : String)
  | number (n : Nat)
  | details (details : List Detail)
  | missing
  /-- A text of which the start is known. -/
  | textFrom (start : String)
  /-- A number of which the first digits are known. -/
  | numberFrom (start : String)
  /-- Any other value, of whose display the start is known. -/
  | displayFrom (start : String)

namespace FieldValue

/-- A value as a text, or the start of it. -/
def plain : FieldValue → String
  | text s => s
  | number n => Number.decimal n
  | details ds => tuple (ds.map Detail.literal)
  | missing => "None"
  | textFrom start => start
  | numberFrom start => start
  | displayFrom start => start

/-- A value as a text with quotes around texts, or the start of it. -/
def literal : FieldValue → String
  | text s => quoted s
  | textFrom start => "'" ++ start
  | value => value.plain

/-- Whether all of a value is known. -/
def isWhole : FieldValue → Bool
  | textFrom _ => false
  | numberFrom _ => false
  | displayFrom _ => false
  | _ => true

end FieldValue

/-- The names of the thread and the process that a run works in. -/
def workers : List (String × String) :=
  [("threadName", "MainThread"), ("processName", "MainProcess")]

/-- The starts of the fields that differ from run to run. -/
def varying : List (String × FieldValue) :=
  [("asctime", .textFrom "20"), ("pathname", .textFrom "/"), ("created", .numberFrom "1"),
   ("thread", .numberFrom "1"), ("process", .numberFrom ""), ("msecs", .numberFrom ""),
   ("relativeCreated", .numberFrom "")]

/-- The value of a field of an entry. -/
def fieldValue? (e : Entry) (name : String) : Option FieldValue :=
  match name with
  | "message" => some (.text e.message)
  | "msg" => some (.text e.wording)
  | "args" => some (.details e.details)
  | "levelname" => some (.text e.level.name)
  | "levelno" => some (.number e.level.rank)
  | "name" => some (.text e.site.reporter)
  | "module" => some (.text e.site.module)
  | "filename" => some (.text e.site.file)
  | "funcName" => some (.text e.site.activity)
  | "lineno" => some (.number e.site.line)
  | "stack_info" => some .missing
  | "exc_info" => some (e.trace.elim .missing fun trace => .displayFrom trace.display)
  | "exc_text" => some (e.trace.elim .missing fun _ => .textFrom Trace.heading)
  | _ => ((workers.lookup name).map .text).or (varying.lookup name)

/-- All fields of an entry with their names, of which the first ones are known. -/
def allFields (e : Entry) : FieldValue :=
  .displayFrom ("\x7b'name': " ++ quoted e.site.reporter ++ ", 'msg': " ++ quoted e.wording ++
    ", 'args': " ++ tuple (e.details.map Detail.literal) ++ ", 'levelname': " ++
    quoted e.level.name ++ ", 'levelno': " ++ Number.decimal e.level.rank ++ ", 'pathname': '/")

/-! ### Converting fields -/

/-- A width or a precision that no line is shown in. -/
def tooMuch : Nat := 1000000000

/-- A field's text before it is laid out. -/
structure Converted where
  /-- Whether the text is a number, which takes a sign and zeros in front. -/
  isNumber : Bool
  /-- The mark of a number's base. -/
  mark : String
  body : String

/-- A text cut to a style's precision. -/
def limited (style : FieldStyle) (text : String) : Converted :=
  ⟨false, "", style.precision.elim text (takeCodes · text)⟩

/-- Digits filled up to a style's precision, behind the mark of their base. -/
def whole (style : FieldStyle) (mark digits : String) : Converted :=
  ⟨true, if style.flags.contains '#' then mark else "",
    Number.zeros (style.precision.getD 0 - digits.length) ++ digits⟩

/-- The letters that show numbers. -/
def numberLetters : List Char := "diuoxXeEfFgGc".toList

/-- A number in the style of a field. -/
def numberText? (style : FieldStyle) (n : Nat) : Option Converted :=
  let places := style.precision.getD 6
  let point := style.flags.contains '#'
  let broken (text : String) : Option Converted :=
    if places < tooMuch then some ⟨true, "", text⟩ else none
  match style.letter with
  | 'd' | 'i' | 'u' => some (whole { style with flags := [] } "" (Number.decimal n))
  | 'o' => some (whole style "0o" (Number.digitsIn 8 n))
  | 'x' => some (whole style "0x" (Number.digitsIn 16 n))
  | 'X' => some (whole style "0X" (Number.digitsIn 16 n).toUpper)
  | 'e' => broken (Number.scientific 'e' places point n)
  | 'E' => broken (Number.scientific 'E' places point n)
  | 'f' | 'F' => broken (Number.fixed places point n)
  | 'g' => broken (Number.general 'e' places point n)
  | 'G' => broken (Number.general 'E' places point n)
  | 'c' => some ⟨false, "", String.singleton (Char.ofNat n)⟩
  | _ => none

/-- A value in the style of a field. -/
def converted? (style : FieldStyle) (value : FieldValue) : Option Converted :=
  match style.letter, value with
  | 's', value => some (limited style value.plain)
  | 'r', value => some (limited style value.literal)
  | 'a', value => some (limited style (asciiOnly value.literal))
  | 'c', .text s => if codeCount s = 1 then some ⟨false, "", s⟩ else none
  | _, .number n => numberText? style n
  | letter, .numberFrom _ =>
    if numberLetters.contains letter then some ⟨false, "", ""⟩ else none
  | _, _ => none

/-- Whether the start of a value that is known is all that a style shows of it. -/
def isEnough (style : FieldStyle) (value : FieldValue) : Bool :=
  value.isWhole || "sra".toList.contains style.letter && style.precision.any fun limit =>
    limit ≤ codeCount (if style.letter = 's' then value.plain else value.literal)

/-- A converted field laid out: the sign and the mark in front, zeros between them and the number
or blanks around all. -/
def laidOut (style : FieldStyle) (c : Converted) : String :=
  let sign :=
    if !c.isNumber then ""
    else if style.flags.contains '+' then "+"
    else if style.flags.contains ' ' then " "
    else ""
  let missing := style.width - codeCount (sign ++ c.mark ++ c.body)
  if style.flags.contains '-' then sign ++ c.mark ++ c.body ++ spaces missing
  else if c.isNumber && style.flags.contains '0' then
    sign ++ c.mark ++ Number.zeros missing ++ c.body
  else spaces missing ++ sign ++ c.mark ++ c.body

/-! ### Filling a format in -/

/-- A text as far as it is known. -/
structure Known where
  text : String
  /-- Whether all of it is known. -/
  isWhole : Bool := true

/-- A known text in front of another. -/
def Known.before (first rest : Known) : Known :=
  if first.isWhole then ⟨first.text ++ rest.text, rest.isWhole⟩ else first

/-- A field in its style. -/
def shownField? (style : FieldStyle) (value : FieldValue) : Option Known := do
  let text ← converted? style value
  if isEnough style value then return ⟨laidOut style text, true⟩
  else return ⟨text.body, false⟩

/-- Pieces of a format, filled in from an entry; `unnamed` is what a field without a name shows. -/
def fill? (e : Entry) : (unnamed : Option FieldValue) → List FormatPart → Option Known
  | _, [] => some ⟨"", true⟩
  | unnamed, .char c :: rest => (fill? e unnamed rest).map (Known.before ⟨String.singleton c, true⟩)
  | unnamed, .field name style :: rest => do
    let value ← name.elim unnamed (fieldValue? e)
    if style.width ≥ tooMuch || style.precision.any (· ≥ 2147483648) then none
    let shown ← shownField? style value
    (fill? e none rest).map shown.before

/-- The line of an entry, without its end. -/
def line? (format : String) (e : Entry) : Option Known := do
  let cs := format.toList
  fill? e (some (allFields e)) (← parts? (cs.length + 1) cs)

/-- Adds the lines of entries to a text. What follows the heading of a trace is not known, nor is
what follows a field that is not. A line is left out if it holds half of a pair, or its trace does.
-/
def addLines (format : String) (done : String) : Journal → String
  | [] => done
  | e :: rest =>
    match line? format e with
    | none => addLines format done rest
    | some line =>
      if holdsHalf line.text || e.trace.any (holdsHalf ·.wording) then addLines format done rest
      else if !line.isWhole then done ++ line.text
      else
        match e.trace with
        | none => addLines format (done ++ line.text ++ "\n") rest
        | some _ =>
          let gap := if line.text.toList.getLast? == some '\n' then "" else "\n"
          done ++ line.text ++ gap ++ Trace.heading

/-- The text of a log. -/
def text (format : String) (threshold : Nat) (journal : Journal) : String :=
  addLines format "" (journal.shown threshold)

end EngineBindings.Journal
