import EngineBindings.Json.Basic

/-! Writing documents.

Everything outside printable ASCII is escaped, a character beyond the basic plane as a pair of
code units. `compact` puts a document on one line; `pretty` gives every item and field a line of
its own. -/
namespace EngineBindings.Json

/-- A code unit as an escape. -/
def unitEscape (unit : Nat) : List Char :=
  '\\' :: 'u' :: Text.hexDigits 4 unit

/-- One code point inside quotes. -/
def escapedCode (n : Nat) : List Char :=
  let c := Char.ofNat n
  if c = '"' ∨ c = '\\' then ['\\', c]
  else if c = '\n' then ['\\', 'n']
  else if c = '\r' then ['\\', 'r']
  else if c = '\t' then ['\\', 't']
  else if n = 8 then ['\\', 'b']
  else if n = 12 then ['\\', 'f']
  else if 32 ≤ n ∧ n < 127 then [c]
  else if n < 0x10000 then unitEscape n
  else unitEscape (0xD800 + (n - 0x10000) / 0x400) ++ unitEscape (0xDC00 + (n - 0x10000) % 0x400)

/-- A text in quotes. -/
def quotedText (s : String) : String :=
  String.ofList ('"' :: ((Text.codesOf s).flatMap escapedCode ++ ['"']))

/-- The names under which the numbers that are not finite are written. -/
def numberSpelling : Number.Binary64.Spelling := ⟨"NaN", "Infinity"⟩

/-- A value without parts. -/
def scalarText : Json → String
  | .null => "null"
  | .bool b => if b then "true" else "false"
  | .int i => Number.decimal i
  | .float x => x.text numberSpelling
  | .str s => quotedText s
  | .arr _ => "[]"
  | .obj _ => "\x7b\x7d"

/-- A value as the name of a field: a text as it is, any other as it is written. -/
def fieldName : Json → String
  | .str s => s
  | value => scalarText value

/-! Both layouts extend a text that holds what has been written so far. -/

mutual

/-- Writes a document on the same line. -/
def putCompact (done : String) : Json → String
  | .arr items => putCompactItems (done ++ "[") "" items ++ "]"
  | .obj fields => putCompactFields (done ++ "\x7b") "" fields ++ "\x7d"
  | value => done ++ scalarText value

/-- Writes items on the same line, the first after `lead` and the others after a comma. -/
def putCompactItems (done lead : String) : List Json → String
  | [] => done
  | item :: rest => putCompactItems (putCompact (done ++ lead) item) "," rest

/-- Writes fields on the same line, the first after `lead` and the others after a comma. -/
def putCompactFields (done lead : String) : List (String × Json) → String
  | [] => done
  | (key, value) :: rest =>
    putCompactFields (putCompact (done ++ lead ++ quotedText key ++ ":") value) "," rest

end

/-- A document on one line. -/
def compact (value : Json) : String :=
  putCompact "" value

/-- The start of a line inside `depth` brackets. -/
def lineStart (depth : Nat) : String :=
  "\n" ++ Text.spaces (2 * depth)

mutual

/-- Writes a document with a line for each item and field, inside `depth` brackets. -/
def putPretty (depth : Nat) (done : String) : Json → String
  | .arr (item :: rest) =>
    putPrettyItems (depth + 1) (done ++ "[") "" (item :: rest) ++ lineStart depth ++ "]"
  | .obj (field :: rest) =>
    putPrettyFields (depth + 1) (done ++ "\x7b") "" (field :: rest) ++ lineStart depth ++ "\x7d"
  | value => done ++ scalarText value

/-- Writes items on lines of their own, the first after `lead` and the others after a comma. -/
def putPrettyItems (depth : Nat) (done lead : String) : List Json → String
  | [] => done
  | item :: rest =>
    putPrettyItems depth (putPretty depth (done ++ lead ++ lineStart depth) item) "," rest

/-- Writes fields on lines of their own, the first after `lead` and the others after a comma. -/
def putPrettyFields (depth : Nat) (done lead : String) : List (String × Json) → String
  | [] => done
  | (key, value) :: rest =>
    putPrettyFields depth
      (putPretty depth (done ++ lead ++ lineStart depth ++ quotedText key ++ ": ") value) "," rest

end

/-- A document with a line for each item and field. -/
def pretty (value : Json) : String :=
  putPretty 0 "" value

end EngineBindings.Json
