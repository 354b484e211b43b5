import EngineBindings.CommandLine.Run

/-! The program.

A run works on a file tree in memory. The program looks up the places on disk that the options
name, runs once to learn which files the run would write, looks those up too, and runs again on
all of them. Then it carries the differences over to the disk. -/
namespace EngineBindings

/-- What lies at a place on disk whose directory exists. -/
def lookUp (path : Path) : IO (Option Node) := do
  try
    return some (.file (← IO.FS.readBinFile path.text) 0o644)
  catch
    | .noFileOrDirectory .. => return none
    | _ => return some .directory

/-- Adds what lies on disk at a path and above it; `done` is the directory already added. -/
def addPath (t : Tree) (done : Path) : Path → IO Tree
  | [] => return t
  | name :: rest => do
    let path := done ++ [name]
    match ← lookUp path with
    | some .directory => addPath (t.put path .directory) path rest
    | some node => return t.put path node
    | none => return t

/-- What lies on disk at the given paths and above them. -/
def snapshot (paths : List Path) : IO Tree :=
  paths.foldlM (fun t path => addPath t [] (Path.collapse path)) .empty

/-- The paths that options name. -/
def Options.paths (cwd : Path) (o : Options) : List Path :=
  let named := [some o.api, some o.outputDir, o.templatesDir, o.logFile].filterMap givenText
  let templates := (givenText o.templatesDir).toList.flatMap fun directory =>
    [Package.coreTemplate, Package.utilityTemplate, Package.initTemplate].map fun name =>
      Path.ofText cwd directory ++ [name]
  named.map (Path.ofText cwd) ++ templates

/-- Whether two trees hold the same at a path. -/
def agreeAt (t u : Tree) (path : Path) : Bool :=
  match t.node? path, u.node? path with
  | some .directory, some .directory => true
  | some (.file a _), some (.file b _) => a == b
  | _, _ => false

/-- Carries a new entry over to the disk. -/
def carryOver (path : Path) : Node → IO Unit
  | .directory => IO.FS.createDirAll path.text
  | .file content _ => IO.FS.writeBinFile path.text content

/-- Carries what a run has changed over to the disk. -/
def applyChanges (before after : Tree) : IO Unit :=
  after.listing.forM fun (path, node) => do
    unless agreeAt before after path do carryOver path node

/-- What is said to someone who uses the program wrongly. -/
def usage : String :=
  "usage: engine-bindings --api FILE [--output-dir DIR] [--build-configuration NAME]\n" ++
  "  [--single-file] [--templates-dir DIR] [--runtime-module NAME] [--jobs N] [--no-virtuals]\n" ++
  "  [--no-properties] [--no-manifest] [--dry-run] [-v] [-q] [--log-level LEVEL]\n" ++
  "  [--log-format FORMAT] [--log-file FILE]\n"

/-- Runs the program on the disk with options. -/
def runOnDisk (o : Options) : IO UInt32 := do
  let cwd := Path.parts (toString (← IO.currentDir))
  let named := o.paths cwd
  let draft := run cwd o (← snapshot named)
  let before ← snapshot (named ++ draft.tree.nodes.keys)
  let result := run cwd o before
  applyChanges before result.tree
  IO.eprint (o.logStyle.text result.journal)
  match result.ending with
  | .exit code => return UInt32.ofNat code.number
  | .broken _ =>
    IO.eprintln "The run has been broken off."
    return 1

/-- Runs the program on the disk with arguments. -/
def runArguments (arguments : List String) : IO UInt32 := do
  match Options.ofArguments arguments with
  | .ok o => runOnDisk o
  | .error refusal =>
    IO.eprint usage
    return UInt32.ofNat refusal.exitCode

end EngineBindings

/-- The program. -/
def main (arguments : List String) : IO UInt32 :=
  EngineBindings.runArguments arguments
