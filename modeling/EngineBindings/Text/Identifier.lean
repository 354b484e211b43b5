import EngineBindings.Text.Digit
import EngineBindings.Text.Segment

/-! Identifiers for engine names.

Engine names are already in snake case. What remains is to replace the separators that an
identifier cannot hold, to put an underscore before a leading digit, and to put one after a
word that the emitted language reserves or that every emitted method uses for its own
receiver. -/
namespace EngineBindings.Text

/-- The reserved words of the emitted language. -/
def reservedWords : List String :=
  ["False", "None", "True", "and", "as", "assert", "async", "await", "break", "class",
   "continue", "def", "del", "elif", "else", "except", "finally", "for", "from", "global",
   "if", "import", "in", "is", "lambda", "nonlocal", "not", "or", "pass", "raise", "return",
   "try", "while", "with", "yield"]

/-- The names under which emitted methods receive their object and their class. -/
def receiverNames : List String := ["self", "cls"]

/-- A word that no emitted name may be. -/
def isReserved (word : String) : Bool :=
  reservedWords.contains word || receiverNames.contains word

/-- Dots and slashes become underscores. -/
def replaceSeparators (cs : List Char) : List Char :=
  cs.map fun c => if c = '.' ∨ c = '/' then '_' else c

/-- An underscore goes before a leading digit. -/
def guardLeadingDigit : List Char → List Char
  | [] => []
  | c :: cs => if isDigitLike c then '_' :: c :: cs else c :: cs

/-- An engine name as an identifier; the empty name becomes `arg`. -/
def sanitize (name : String) : String :=
  if name.isEmpty then "arg"
  else
    let out := String.ofList (guardLeadingDigit (replaceSeparators name.toList))
    if isReserved out then out ++ "_" else out

/-- A dotted type name with every part made an identifier. -/
def hostName (name : String) : String :=
  join "." ((splitFields '.' name).map sanitize)

end EngineBindings.Text
