import EngineBindings.Number.Numeral
import EngineBindings.Profile

/-! The command line.

Arguments are sorted first, each by itself: an option under its name or an unambiguous start of
it, possibly with a value behind an equals sign, several one-letter options in one argument, or a
plain argument. An ambiguous start ends the program before anything else is looked at. Then the
options are carried out in order; an option with a value takes the plain argument behind it.
Plain arguments that no option takes are refused once all options have been carried out. A pair
of dashes behind the equals sign takes the value away: the option is set to nothing, whatever
values it is restricted to. -/
namespace EngineBindings

open EngineBindings.Text

/-- What an option is set to. -/
inductive Setting (α : Type) where
  | value (value : α)
  /-- A pair of dashes in place of a value. -/
  | nothing

/-- The value of a setting, if it has one. -/
def Setting.value? : Setting α → Option α
  | value x => some x
  | nothing => none

/-- The text of a setting that counts as given. -/
def givenText (setting : Option (Setting String)) : Option String :=
  (setting.bind Setting.value?).filter fun text => !text.isEmpty

/-- The format of log lines when none is given. -/
def defaultLogFormat : String := "%(levelname)s: %(message)s"

/-- What the command line sets. -/
structure Options where
  api : Setting String := .value ""
  outputDir : Setting String := .value "generated"
  configuration : Setting String := .value Profile.defaultName
  singleFile : Bool := false
  templatesDir : Option (Setting String) := none
  runtimeModule : Setting String := .value "godot.runtime"
  jobs : Setting Int := .value 1
  noVirtuals : Bool := false
  noProperties : Bool := false
  noManifest : Bool := false
  dryRun : Bool := false
  verbose : Nat := 0
  quiet : Nat := 0
  logLevel : Option (Setting String) := none
  logFormat : Setting String := .value defaultLogFormat
  logFile : Option (Setting String) := none

namespace Options

/-! ### The options there are -/

/-- Options with a value. -/
inductive Field where
  | api
  | outputDir
  | configuration
  | templatesDir
  | runtimeModule
  | jobs
  | logLevel
  | logFormat
  | logFile
  deriving DecidableEq

/-- Options without one. -/
inductive Switch where
  | help
  | singleFile
  | noVirtuals
  | noProperties
  | noManifest
  | dryRun
  | verbose
  | quiet
  deriving DecidableEq

/-- An option. -/
inductive Action where
  | set (field : Field)
  | turn (switch : Switch)
  deriving DecidableEq

/-- The names of options. -/
def longNames : List (String × Action) :=
  [("--help", .turn .help), ("--api", .set .api), ("--output-dir", .set .outputDir),
   ("--build-configuration", .set .configuration), ("--single-file", .turn .singleFile),
   ("--templates-dir", .set .templatesDir), ("--runtime-module", .set .runtimeModule),
   ("--jobs", .set .jobs), ("--no-virtuals", .turn .noVirtuals),
   ("--no-properties", .turn .noProperties), ("--no-manifest", .turn .noManifest),
   ("--dry-run", .turn .dryRun), ("--verbose", .turn .verbose), ("--quiet", .turn .quiet),
   ("--log-level", .set .logLevel), ("--log-format", .set .logFormat),
   ("--log-file", .set .logFile)]

/-- The one-letter names of options. -/
def letters : List (Char × Switch) :=
  [('h', .help), ('v', .verbose), ('q', .quiet)]

/-- The names of log levels, in capitals. -/
def levelNames : List String :=
  ["CRITICAL", "ERROR", "WARNING", "INFO", "DEBUG", "NOTSET"]

/-- How the program ends without having run. -/
inductive Refusal where
  /-- Help has been asked for. -/
  | help
  | invalid
  deriving DecidableEq

/-- The exit code of a refusal. -/
def Refusal.exitCode : Refusal → Nat
  | help => 0
  | invalid => 2

/-! ### Sorting arguments -/

/-- What an argument is, looked at by itself. -/
inductive Token where
  | plain (text : String)
  /-- A pair of dashes, behind which every argument is plain. -/
  | separator
  /-- An option under its long name, with the value behind an equals sign if there is one. -/
  | long (action : Action) (value : Option String)
  /-- One-letter options, and the characters behind the first. -/
  | short (first : Switch) (more : List Char)
  /-- An option that there is not. -/
  | unknown

/-- The name before an equals sign, and the value behind it. -/
def splitValue (cs : List Char) : List Char × Option String :=
  match cs.dropWhile (· ≠ '=') with
  | [] => (cs, none)
  | _ :: value => (cs.takeWhile (· ≠ '='), some (String.ofList value))

/-- Whether characters behind a dash spell a negative number. -/
def isNumberBody (cs : List Char) : Bool :=
  let cs := match cs.getLast? with
    | some '\n' => cs.dropLast
    | _ => cs
  match cs.dropWhile isDecimal with
  | [] => !cs.isEmpty
  | '.' :: fraction => !fraction.isEmpty && fraction.all isDecimal
  | _ => false

/-- What an argument is that starts with a dash and means no option. -/
def otherToken (text : String) (body : List Char) : Token :=
  if isNumberBody body || text.toList.contains ' ' then .plain text else .unknown

/-- Sorts one argument. -/
def token (text : String) : Except Refusal Token :=
  match text.toList with
  | ['-'] => .ok (.plain text)
  | '-' :: '-' :: _ =>
    let (name, value) := splitValue text.toList
    match longNames.lookup text, longNames.lookup (String.ofList name) with
    | some action, _ => .ok (.long action none)
    | none, some action => .ok (.long action value)
    | none, none =>
      match longNames.filter fun entry => startsWith entry.1 (String.ofList name) with
      | [] => .ok (otherToken text (text.toList.drop 1))
      | [entry] => .ok (.long entry.2 value)
      | _ => .error .invalid
  | '-' :: letter :: more =>
    match letters.lookup letter with
    | some switch => .ok (.short switch more)
    | none => .ok (otherToken text (letter :: more))
  | _ => .ok (.plain text)

/-- Sorts all arguments; the separator makes those behind it plain. -/
def tokens : List String → Except Refusal (List Token)
  | [] => .ok []
  | text :: rest =>
    if text = "--" then .ok (.separator :: rest.map .plain)
    else do
      let first ← token text
      return first :: (← tokens rest)

/-! ### Carrying options out -/

/-- What has come of the options carried out so far. -/
structure Progress where
  options : Options := {}
  hasApi : Bool := false
  /-- Whether an argument has been met that no option takes. -/
  hasExtras : Bool := false

/-- Carries out an option without a value. -/
def turn (p : Progress) (switch : Switch) : Except Refusal Progress :=
  let o := p.options
  match switch with
  | .help => .error .help
  | .singleFile => .ok { p with options := { o with singleFile := true } }
  | .noVirtuals => .ok { p with options := { o with noVirtuals := true } }
  | .noProperties => .ok { p with options := { o with noProperties := true } }
  | .noManifest => .ok { p with options := { o with noManifest := true } }
  | .dryRun => .ok { p with options := { o with dryRun := true } }
  | .verbose => .ok { p with options := { o with verbose := o.verbose + 1 } }
  | .quiet => .ok { p with options := { o with quiet := o.quiet + 1 } }

/-- A value that has to be one of several. -/
def oneOf (choices : List String) (value : String) : Except Refusal String :=
  if choices.contains value then .ok value else .error .invalid

/-- A setting whose value, if it has one, has to pass a reading. -/
def readSetting (read : String → Except Refusal α) : Setting String → Except Refusal (Setting α)
  | .value text => (read text).map .value
  | .nothing => .ok .nothing

/-- Carries out an option with a value. -/
def set (p : Progress) (field : Field) (value : Setting String) : Except Refusal Progress :=
  let o := p.options
  match field with
  | .api => .ok { p with options := { o with api := value }, hasApi := true }
  | .outputDir => .ok { p with options := { o with outputDir := value } }
  | .configuration => do
    let configuration ← readSetting (oneOf Profile.names) value
    return { p with options := { o with configuration } }
  | .templatesDir => .ok { p with options := { o with templatesDir := some value } }
  | .runtimeModule => .ok { p with options := { o with runtimeModule := value } }
  | .jobs => do
    let jobs ← readSetting (fun text => (Number.integer? text).elim (.error .invalid) .ok) value
    return { p with options := { o with jobs } }
  | .logLevel => do
    let level ← readSetting (oneOf (levelNames ++ levelNames.map (·.toLower))) value
    return { p with options := { o with logLevel := some level } }
  | .logFormat => .ok { p with options := { o with logFormat := value } }
  | .logFile => .ok { p with options := { o with logFile := some value } }

/-- The setting that a text behind an equals sign gives. -/
def attached (text : String) : Setting String :=
  if text = "--" then .nothing else .value text

/-- The options that letters stand for. All have to be options. -/
def cluster (more : List Char) : Except Refusal (List Switch) :=
  more.mapM fun letter => (letters.lookup letter).elim (.error .invalid) .ok

/-- The letters behind the first one-letter option. An equals sign may stand in front of them,
but not of nothing. -/
def clusterLetters : List Char → Except Refusal (List Char)
  | ['='] => .error .invalid
  | '=' :: more => .ok more
  | more => .ok more

/-- Carries out one-letter options in one argument, once all of them are known to be options. -/
def turnAll (p : Progress) (first : Switch) (more : List Char) : Except Refusal Progress := do
  let switches ← cluster (← clusterLetters more)
  (first :: switches).foldlM turn p

/-- Carries out sorted arguments in order. -/
def carryOut (p : Progress) : List Token → Except Refusal Progress
  | [] => .ok p
  | .plain _ :: rest => carryOut { p with hasExtras := true } rest
  | .separator :: rest => carryOut { p with hasExtras := true } rest
  | .unknown :: rest => carryOut { p with hasExtras := true } rest
  | .short first more :: rest => do carryOut (← turnAll p first more) rest
  | .long (.turn switch) none :: rest => do carryOut (← turn p switch) rest
  | .long (.turn _) (some _) :: _ => .error .invalid
  | .long (.set field) (some text) :: rest => do carryOut (← set p field (attached text)) rest
  | .long (.set field) none :: .plain text :: rest => do
    carryOut (← set p field (.value text)) rest
  | .long (.set _) none :: _ => .error .invalid

/-- What a command line sets, or why it is refused. The schema's path has to be given. -/
def ofArguments (arguments : List String) : Except Refusal Options := do
  let p ← carryOut {} (← tokens arguments)
  if p.hasApi && !p.hasExtras then return p.options else throw .invalid

end Options

end EngineBindings
