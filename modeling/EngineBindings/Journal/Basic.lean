import EngineBindings.Journal.Trace
import EngineBindings.Schema.Model

/-! What a run reports.

A journal is the list of a run's entries in order. An entry's message is a wording with places
left open and the details that fill them; a log may show either. A log shows the entries that are
important enough, each on a line of a chosen format. A failure is an entry too, with a trace of the
fault behind it. -/
namespace EngineBindings

/-- How important an entry is. -/
inductive Level where
  | debug
  | info
  | warning
  | error
  deriving DecidableEq

namespace Level

/-- A level's name in a log. -/
def name : Level → String
  | debug => "DEBUG"
  | info => "INFO"
  | warning => "WARNING"
  | error => "ERROR"

/-- A level's number in a log. -/
def rank : Level → Nat
  | debug => 10
  | info => 20
  | warning => 30
  | error => 40

end Level

/-! ### Details -/

/-- What fills an open place of a wording. -/
inductive Detail where
  | text (text : String)
  | count (n : Nat)
  | name (name : Name)
  | path (text : String)
  | diagnostic (d : Diagnostic)

namespace Detail

/-- A detail inside a message. -/
def display : Detail → String
  | text s => s
  | count n => Number.decimal n
  | name n => n.display
  | path s => s
  | diagnostic d => d.text

/-- A detail as a list of details spells it. -/
def literal : Detail → String
  | text s => Text.quoted s
  | count n => Number.decimal n
  | name n => n.literal
  | path s => "PosixPath(" ++ Text.quoted s ++ ")"
  | diagnostic d =>
    "Diagnostic(owner=" ++ d.owner.literal ++ ", member=" ++ d.member.literal ++ ", reason=" ++
      Text.quoted d.reason ++ ")"

end Detail

/-- A wording with its open places, each a percent sign and a letter, filled in order. -/
def filledIn : (wording : List Char) → (details : List String) → List Char
  | '%' :: _ :: rest, detail :: details => detail.toList ++ filledIn rest details
  | c :: rest, details => c :: filledIn rest details
  | [], _ => []

/-! ### Entries -/

/-- One thing that a run reports. -/
structure Entry where
  level : Level
  site : Site
  wording : String
  details : List Detail
  /-- The trace of a failure. -/
  trace : Option Trace := none

namespace Entry

/-- What an entry says. -/
def message (e : Entry) : String :=
  String.ofList (filledIn e.wording.toList (e.details.map Detail.display))

/-- Something for a reader who follows every step. -/
def debug (site : Site) (wording : String) (details : List Detail) : Entry :=
  { level := .debug, site, wording, details }

/-- Something for every reader. -/
def info (site : Site) (wording : String) (details : List Detail) : Entry :=
  { level := .info, site, wording, details }

/-- Something that a reader should look at. -/
def warning (site : Site) (wording : String) (details : List Detail) : Entry :=
  { level := .warning, site, wording, details }

/-- The end of a run that cannot go on. -/
def failure (site : Site) (wording : String) (details : List Detail) (trace : Trace) : Entry :=
  { level := .error, site, wording, details, trace := some trace }

end Entry

/-! ### Journals -/

/-- Entries in order. -/
abbrev Journal := List Entry

namespace Journal

/-- The entries of a log of a given threshold: all that reach it. -/
def shown (threshold : Nat) (journal : Journal) : Journal :=
  journal.filter (threshold ≤ ·.level.rank)

/-- Runs steps in order up to the first that does not go on, and gathers their entries. -/
def inOrder (step : α → Journal × Bool) : List α → Journal × Bool
  | [] => ([], true)
  | x :: rest =>
    match step x with
    | (entries, false) => (entries, false)
    | (entries, true) =>
      let (more, goesOn) := inOrder step rest
      (entries ++ more, goesOn)

end Journal

end EngineBindings
