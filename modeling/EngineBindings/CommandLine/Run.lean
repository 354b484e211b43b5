import EngineBindings.CommandLine.Options
import EngineBindings.Files.Encoding
import EngineBindings.Journal.Reports
import EngineBindings.Json.Reader
import EngineBindings.Manifest
import EngineBindings.Package.Emission

/-! A run of the program on a file tree.

A run reads the schema, plans every class, function and builtin, emits the package and writes the
manifest. Each phase ends the run with an exit code of its own when it fails for a reason that the
phase expects; any other reason breaks the run off. What is reported on the way goes into the log
file, if one is asked for; it is opened before anything else happens. -/
namespace EngineBindings

/-! ### Loading a schema -/

/-- Why a schema cannot be loaded. -/
inductive LoadFault where
  | file (cause : FileFault)
  | text (cause : Json.ReadFault)
  /-- The document is no object. -/
  | document (cause : SchemaFault)

/-- The document in a file, which has to be an object in UTF-8. -/
def Schema.load (t : Tree) (cwd : Path) (path : String) : Except LoadFault Json := do
  let bytes ← (t.read (Path.ofText cwd path)).mapError .file
  let text ← (Encoding.utf8.decode bytes).mapError .file
  match ← (Json.read text).mapError .text with
  | .obj fields => return .obj fields
  | _ => throw (.document (.notADocument (Path.normalized path)))

/-! ### How a run ends -/

/-- How a run ends by itself. -/
inductive ExitCode where
  | success
  /-- A template cannot be rendered. -/
  | templating
  /-- The schema cannot be read or makes no registry. -/
  | schema
  /-- The type tables or the value layouts do not cover the schema. -/
  | mapping
  /-- The output cannot be written. -/
  | output
  /-- The manifest cannot be written. -/
  | manifest
  deriving DecidableEq

/-- The number that the program exits with. -/
def ExitCode.number : ExitCode → Nat
  | success => 0
  | templating => 1
  | schema => 2
  | mapping => 3
  | output => 4
  | manifest => 5

/-- Why a run is broken off. -/
inductive RunFault where
  /-- The format of log lines has no field. -/
  | logFormat
  /-- An option that needs a value is set to nothing. -/
  | missingValue
  | file (cause : FileFault)
  | text (cause : Json.ReadFault)
  | fault (cause : Fault)

/-- How a run ends. -/
inductive Ending where
  | exit (code : ExitCode)
  | broken (cause : RunFault)

/-- What has come of a run. -/
structure RunResult where
  tree : Tree
  journal : Journal
  ending : Ending

namespace Fault

/-- Whether the type tables or the value layouts are at fault. -/
def isMapping : Fault → Bool
  | mapping _ => true
  | layout _ => true
  | _ => false

end Fault

namespace Options

/-! ### Settings -/

/-- The number of a log level given by its name. -/
def levelRank (name : String) : Nat :=
  match levelNames.findIdx? (· = name.toUpper) with
  | some place => 50 - 10 * place
  | none => Level.info.rank

/-- How important an entry has to be for the log. -/
def threshold (o : Options) : Nat :=
  match o.logLevel.bind Setting.value? with
  | some name => levelRank name
  | none =>
    if o.verbose ≥ 1 then Level.debug.rank
    else if o.quiet ≥ 2 then Level.error.rank
    else if o.quiet = 1 then Level.warning.rank
    else Level.info.rank

/-- The format of log lines. -/
def lineFormat (o : Options) : String :=
  (givenText (some o.logFormat)).getD defaultLogFormat

/-- Which entries the log shows, and how. -/
def logStyle (o : Options) : LogStyle :=
  ⟨o.lineFormat, o.threshold⟩

/-- What is planned. -/
def flags (o : Options) : Flags :=
  ⟨!o.noProperties, !o.noVirtuals⟩

/-- The runtime module as a document. -/
def runtimeModuleValue (o : Options) : Json :=
  match o.runtimeModule with
  | .value name => .str name
  | .nothing => .arr []

/-- How artifacts are rendered. -/
def renderOptions (o : Options) : Package.RenderOptions :=
  { runtimeModule := o.runtimeModuleValue.display, singleFile := o.singleFile }

end Options

/-- The value of a setting that needs one. -/
def neededValue : Setting α → Except RunFault α
  | .value x => .ok x
  | .nothing => .error .missingValue

/-- A path from the root, with every name that goes up carried out. -/
def absolutePath (cwd : Path) (text : String) : Except RunFault Path :=
  if text.toList.contains (Char.ofNat 0) then .error (.file .invalidName)
  else .ok (Path.collapse (Path.ofText cwd text))

/-- The places that a run works with, and how many jobs it may do at once. -/
structure Places where
  output : Path
  templates : Option Path
  jobs : Int

namespace Places

/-- The places that options name. -/
def ofOptions (cwd : Path) (o : Options) : Except RunFault Places := do
  let output ← absolutePath cwd (← neededValue o.outputDir)
  let templates ← (givenText o.templatesDir).mapM (absolutePath cwd)
  let jobs ← neededValue o.jobs
  return ⟨output, templates, max 1 jobs⟩

/-- The settings of the run that uses these places and a build configuration. -/
def context (p : Places) (o : Options) (configuration : String) : RunContext :=
  { outputDir := p.output.text
    templatesDir := p.templates.map Path.text
    configuration
    runtimeModule := o.runtimeModuleValue
    singleFile := .bool o.singleFile
    dryRun := o.dryRun
    jobs := .int p.jobs }

end Places

/-! ### Templates of the user's own -/

/-- Looks for the directory of the user's own templates. -/
def findTemplates (t : Tree) (directory : Option Path) : Journal × Except Ending (Option Path) :=
  match directory with
  | none => ([], .ok none)
  | some directory =>
    match t.locate directory with
    | .error .nameTooLong =>
      ([.failure .runTemplates "Failed to initialize templating" [] (.ofFile .nameTooLong)],
        .error (.exit .templating))
    | _ =>
      if t.leadsToDirectory directory then ([], .ok (some directory))
      else
        ([.warning .templates "Templates directory %s does not exist; using package templates"
           [.path directory.text]], .ok none)

/-! ### Reading the schema -/

/-- How a run ends when the schema cannot be loaded. -/
def LoadFault.ending : LoadFault → Ending
  | file cause => if cause.isSystem then .exit .schema else .broken (.file cause)
  | text .malformed => .exit .schema
  | text cause => .broken (.text cause)
  | document _ => .exit .schema

/-- The trace of a schema that cannot be loaded. -/
def LoadFault.trace : LoadFault → Trace
  | file cause => .ofFile cause
  | text cause => .ofText cause
  | document cause => .ofFault (.schema cause)

/-- How a run ends when a document makes no registry. -/
def registryEnding : Fault → Ending
  | .schema _ => .exit .schema
  | cause => .broken (.fault cause)

/-- What is reported at the end of a run that a phase ends: the given failure, unless the run is
broken off. -/
def Ending.report (site : Site) (wording : String) (details : List Detail) (trace : Trace) :
    Ending → Journal
  | exit _ => [.failure site wording details trace]
  | broken _ => []

/-- Reports that the schema in a file cannot be loaded. -/
def loadFailure (api : String) (trace : Trace) (ending : Ending) : Journal :=
  ending.report .runSchema "Failed to load %s" [.text api] trace

/-- Makes the registry of a document in a file for a build configuration, unless none is set. -/
def makeRegistry (api : String) (configuration : Setting String) (document : Json) :
    Journal × Except Ending Registry :=
  match configuration with
  | .nothing => ([], .error (.broken .missingValue))
  | .value name =>
    let read := Journal.documentEntries name document
    match Registry.ofDocument name document with
    | .ok r => (read ++ Journal.registryEntries r, .ok r)
    | .error cause =>
      let ending := registryEnding cause
      (read ++ loadFailure api (.ofFault cause) ending, .error ending)

/-- Reads the schema in a file and makes the registry. -/
def readRegistryAt (cwd : Path) (api : String) (o : Options) (t : Tree) :
    Journal × Except Ending Registry :=
  match Schema.load t cwd api with
  | .error cause => (loadFailure api cause.trace cause.ending, .error cause.ending)
  | .ok document =>
    let (read, result) := makeRegistry api o.configuration document
    (.debug .document "Loaded schema %s" [.path (Path.normalized api)] :: read, result)

/-- Reads the schema and makes the registry. -/
def readRegistry (cwd : Path) (o : Options) (t : Tree) : Journal × Except Ending Registry :=
  match o.api with
  | .nothing => ([], .error (.broken .missingValue))
  | .value api => readRegistryAt cwd api o t

/-! ### Planning -/

/-- How a run ends when something cannot be planned. -/
def planEnding (cause : Fault) : Ending :=
  if cause.isMapping then .exit .mapping else .broken (.fault cause)

/-- Plans everything. -/
def planGeneration (r : Registry) (flags : Flags) : Journal × Except Ending Generation :=
  let planned := Journal.planEntries r flags
  match r.generate flags with
  | .ok g => (planned ++ [Journal.generationSummary g], .ok g)
  | .error cause =>
    let ending := planEnding cause
    (planned ++ ending.report .runPlans
      "Type mapping failed; the mapping tables do not cover this schema" [] (.ofFault cause),
      .error ending)

/-- Reads the schema and plans everything. Neither changes a file. -/
def prepare (cwd : Path) (o : Options) (t : Tree) : Journal × Except Ending Generation :=
  match readRegistry cwd o t with
  | (journal, .error ending) => (journal, .error ending)
  | (journal, .ok r) =>
    let (planned, result) := planGeneration r o.flags
    (journal ++ planned, result)

/-! ### Emitting -/

/-- How a run ends when the output cannot be written. Directories that lie too deep pass for a
template that fails. -/
def outputEnding (cause : FileFault) : Ending :=
  if cause.isSystem then .exit .output
  else if cause = .tooDeep then .exit .templating
  else .broken (.file cause)

/-- How a run ends when the plans cannot be rendered. -/
def renderEnding (cause : Fault) : Ending :=
  match cause with
  | .value .selfNesting => .exit .templating
  | cause => planEnding cause

/-- How a run ends when a template fails. -/
def templateEnding : TemplateFault → Ending
  | .undecodable => .broken (.fault (.template .undecodable))
  | _ => .exit .templating

/-- What is reported when the output cannot be written. -/
def outputFailure (cause : FileFault) : Journal :=
  let ending := outputEnding cause
  if cause.isSystem then
    ending.report .runOutput "Failed to write generated sources" [] (.ofFile cause)
  else ending.report .runRendering "Failed to render generated sources" [] (.ofFile cause)

/-- What is reported of the file that cannot be written, if the file system refuses it. -/
def refusedFile (path : Path) (cause : FileFault) : Journal :=
  if cause.isSystem then
    [.failure .fileRefused "Failed to write %s" [.path path.text] (.ofFile cause)]
  else []

/-- How a run ends when emitting stops, and what is reported about it. -/
def emissionEnding : Package.EmissionFault → Journal × Ending
  | .directory cause => (outputFailure cause, outputEnding cause)
  | .file path cause => (refusedFile path cause ++ outputFailure cause, outputEnding cause)
  | .render (.template failure) =>
    let ending := templateEnding failure.cause
    let trace := .ofFault (.template failure.cause)
    (.failure .template "Failed to render template %s" [.name failure.name] trace ::
      ending.report .runRendering "Failed to render generated sources" [] trace, ending)
  | .render (.fault cause) =>
    let ending := renderEnding cause
    let trace := .ofFault cause
    (if cause.isMapping then
        ending.report .runLayouts "Failed to lay out builtin value types" [] trace
      else ending.report .runRendering "Failed to render generated sources" [] trace, ending)

/-- What is reported about members that are left out, if there are any. -/
def skippedEntries (g : Generation) : Journal :=
  if g.diagnostics.isEmpty then []
  else
    [.warning .runSkipped "%d member(s) were skipped; see the log above or manifest.json"
      [.count g.diagnostics.length]]

/-- The name of the manifest's file. -/
def manifestName : String := "manifest.json"

/-- Publishes the manifest, if it is asked for. -/
def publishManifest (o : Options) (places : Places) (g : Generation) (artifacts : List Name)
    (t : Tree) : RunResult :=
  if o.noManifest then ⟨t, [], .exit .success⟩
  else
    let path := places.output ++ [manifestName]
    let manifest := Manifest.ofGeneration (places.context o g.registry.profile.name) g artifacts
    match t.publish undisturbed {} o.dryRun path manifest.toJson.pretty with
    | (t, .ok publication) => ⟨t, [publication.entry path], .exit .success⟩
    | (t, .error cause) =>
      let refused := if cause.isSystem then
          [.failure .manifest "Failed to write manifest to %s" [.path path.text] (.ofFile cause)]
        else []
      ⟨t, refused ++ [.failure .runManifest "Failed to emit generation manifest" [] (.ofFile cause)],
        .exit .manifest⟩

/-- What a trial reports at its end. -/
def trialEntries (o : Options) : Ending → Journal
  | .exit .success =>
    if o.dryRun then [.info .runTrial "Dry-run complete (no files written)." []] else []
  | _ => []

/-- A run that is over, with its last entries in the log. -/
def RunResult.ofEnd (o : Options) (t : Tree) (last : Journal) (ending : Ending) : RunResult :=
  ⟨t.report o.logStyle last, last, ending⟩

/-- A run that goes on behind entries that are in the log already. -/
def RunResult.behind (result : RunResult) (earlier : Journal) : RunResult :=
  { result with journal := earlier ++ result.journal }

/-- Publishes the manifest of a generation and ends the run. -/
def finish (o : Options) (places : Places) (g : Generation) (artifacts : List Name) (t : Tree) :
    RunResult :=
  let final := publishManifest o places g artifacts t
  .ofEnd o final.tree (final.journal ++ trialEntries o final.ending) final.ending

/-- Emits the package and the manifest of a generation. -/
def emitGeneration (o : Options) (places : Places) (own : Option Path) (g : Generation)
    (t : Tree) : RunResult :=
  let emission := Package.emit o.logStyle o.dryRun o.renderOptions own places.output g t
  match emission.outcome with
  | .error cause =>
    let (entries, ending) := emissionEnding cause
    (RunResult.ofEnd o emission.tree entries ending).behind emission.journal
  | .ok artifacts =>
    let skipped := skippedEntries g
    (finish o places g artifacts (emission.tree.report o.logStyle skipped)).behind
      (emission.journal ++ skipped)

/-! ### The whole run -/

/-- Runs with a directory of templates that has been looked for. -/
def runPrepared (cwd : Path) (o : Options) (places : Places) (own : Option Path) (t : Tree) :
    RunResult :=
  match prepare cwd o t with
  | (prepared, .error ending) => .ofEnd o t prepared ending
  | (prepared, .ok g) =>
    (emitGeneration o places own g (t.report o.logStyle prepared)).behind prepared

/-- Runs at given places. -/
def runPhases (cwd : Path) (o : Options) (places : Places) (t : Tree) : RunResult :=
  match findTemplates t places.templates with
  | (journal, .error ending) => .ofEnd o t journal ending
  | (journal, .ok own) =>
    (runPrepared cwd o places own (t.report o.logStyle journal)).behind journal

/-- Runs up to the end, with the log in place. -/
def runLogged (cwd : Path) (o : Options) (t : Tree) : RunResult :=
  match Places.ofOptions cwd o with
  | .error cause => ⟨t, [], .broken cause⟩
  | .ok places => runPhases cwd o places t

/-- Opens the log file, if there is to be one. -/
def openLog (cwd : Path) (o : Options) (t : Tree) : Except FileFault Tree :=
  match givenText o.logFile with
  | none => .ok { t with log := none }
  | some text => do
    let (place, t) ← t.truncate (Path.collapse (Path.ofText cwd text)) 0o644
    return { t with log := some place }

/-- Closes the log file, if there is one. -/
def closeLog (result : RunResult) : RunResult :=
  { result with tree := { result.tree with log := none } }

/-- Runs the program on a file tree. -/
def run (cwd : Path) (o : Options) (t : Tree) : RunResult :=
  if !Journal.hasField o.lineFormat.toList then ⟨t, [], .broken .logFormat⟩
  else
    match openLog cwd o t with
    | .error cause => ⟨t, [], .broken (.file cause)⟩
    | .ok t => closeLog (runLogged cwd o t)

end EngineBindings
