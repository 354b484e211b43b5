import EngineBindings.Files.Encoding
import EngineBindings.Number.Numeral
import EngineBindings.Number.Power

/-! Writing text files.

A text is written with plain line ends. Unless told otherwise a file that already holds the text
is left alone. Otherwise the text goes into a temporary file beside the target, which takes the
target's place in one step; when anything is refused on the way the temporary file is removed and
the target keeps its content. Every step can be made to fail from outside. -/
namespace EngineBindings

/-- The steps of writing a file that the file system can refuse. -/
inductive WriteStep where
  | makeParents
  | readOld
  | createTemporary
  | fillTemporary
  | setMode
  | replace
  deriving DecidableEq

/-- Which steps are made to fail, and how. -/
abbrev Disturbance := WriteStep → Option FileFault

/-- No step is made to fail. -/
def undisturbed : Disturbance := fun _ => none

/-- How a text is written. -/
structure WriteOptions where
  /-- The name of the encoding, or why there is none. -/
  encoding : Except FileFault String := .ok "utf-8"
  makeParents : Bool := true
  /-- The access rights of the file, or why there are none. Nothing leaves it those of a temporary
  file. -/
  mode : Except FileFault (Option Int) := .ok (some 0o644)
  onlyIfChanged : Bool := true

namespace Tree

/-- The access rights of a temporary file. -/
def temporaryMode : Nat := 0o600

/-- A step that is made to fail if the disturbance says so. -/
def attempt (disturbed : Disturbance) (step : WriteStep) (result : Except FileFault α) :
    Except FileFault α :=
  match disturbed step with
  | some fault => .error fault
  | none => result

/-- Whether a file holds a text, line ends aside. A missing file holds none, and its encoding need
not be known. -/
def holds (t : Tree) (path : Path) (encoding : Except FileFault String) (content : String) :
    Except FileFault Bool := do
  let name ← encoding
  if name.toList.contains (Char.ofNat 0) then throw .invalidName
  match t.read path with
  | .error .notFound => return false
  | .error fault => throw fault
  | .ok bytes =>
    let old ← (← Encoding.named name).decode bytes
    return Text.normalizeNewlines old = content

/-- The name of the temporary file number `n` for a target. -/
def temporaryName (target : String) (n : Nat) : String :=
  let digits := (Number.decimal n).toList
  "." ++ target ++ "." ++ String.ofList (List.replicate (8 - digits.length) '0' ++ digits)

/-- A place beside a target that nothing lies at. -/
def freshPlace (t : Tree) (directory : Path) (target : String) : Path :=
  let places := (List.range (t.nodes.entries.length + 1)).map fun n =>
    directory ++ [temporaryName target n]
  (places.find? fun place => (t.node? place).isNone).getD (directory ++ [temporaryName target 0])

/-- Makes an empty temporary file beside a target; gives its place. -/
def createTemporary (t : Tree) (path : Path) : Except FileFault (Path × Tree) := do
  let likely ← t.locate (path.parent ++ [temporaryName path.name 0])
  let place := t.freshPlace likely.parent path.name
  return (place, t.put place (.file ByteArray.empty temporaryMode))

/-- The access rights that a number asks for. -/
def accessRights (mode : Int) : Except FileFault Nat :=
  if mode < -Number.twoPow 31 ∨ mode ≥ Number.twoPow 31 then .error .invalidMode
  else .ok (mode % 0o10000).toNat

/-- Moves a file to a place that no directory takes. The place has to have a name. -/
def moveFile (t : Tree) (source : Path) (target : Path) : Except FileFault Tree := do
  let place ← t.locate target
  if target.isEmpty || target.name = Path.up then throw .busy
  match t.node? place, t.node? source with
  | some .directory, _ => .error .isADirectory
  | _, some node => .ok ((t.remove source).replace place node)
  | _, none => .error .notFound

/-- Fills a temporary file and lets it take the target's place. -/
def completeWrite (disturbed : Disturbance) (o : WriteOptions) (t : Tree)
    (temporary target : Path) (content : String) : Except FileFault Tree := do
  let bytes ← attempt disturbed .fillTemporary
    (o.encoding.bind fun name => (Encoding.named name).bind (·.encode content))
  let t := t.put temporary (.file bytes temporaryMode)
  let t ← match o.mode with
    | .ok none => pure t
    | .ok (some mode) =>
      attempt disturbed .setMode ((accessRights mode).map fun mode =>
        t.put temporary (.file bytes mode))
    | .error fault => attempt disturbed .setMode (.error fault)
  attempt disturbed .replace (t.moveFile temporary target)

/-- Writes a file by way of a temporary one, which is gone afterwards whatever happens. -/
def replaceFile (disturbed : Disturbance) (o : WriteOptions) (t : Tree) (path : Path)
    (content : String) : Tree × Except FileFault Bool :=
  match attempt disturbed .createTemporary (t.createTemporary path) with
  | .error fault => (t, .error fault)
  | .ok (temporary, t) =>
    match completeWrite disturbed o t temporary path content with
    | .ok t => (t, .ok true)
    | .error fault => (t.remove temporary, .error fault)

/-- Makes the directories above a path if that is asked for. -/
def prepareParents (disturbed : Disturbance) (o : WriteOptions) (t : Tree) (path : Path) :
    Tree × Except FileFault Unit :=
  if o.makeParents then
    match disturbed .makeParents with
    | some fault => (t, .error fault)
    | none => t.ensureDirectory path.parent
  else (t, .ok ())

/-- A text as a file is to hold it: its code points are spelt as they are to be, and its lines end
in one way. -/
def fileText (text : String) : String :=
  Text.normalizeNewlines (Text.respelt text)

/-- Writes a text file; tells whether anything has been written. -/
def writeText (disturbed : Disturbance) (o : WriteOptions) (t : Tree) (path : Path)
    (text : String) : Tree × Except FileFault Bool :=
  let content := fileText text
  match prepareParents disturbed o t path with
  | (t, .error fault) => (t, .error fault)
  | (t, .ok ()) =>
    if o.onlyIfChanged then
      match attempt disturbed .readOld (t.holds path o.encoding content) with
      | .error fault => (t, .error fault)
      | .ok true => (t, .ok false)
      | .ok false => replaceFile disturbed o t path content
    else replaceFile disturbed o t path content

end Tree

end EngineBindings
