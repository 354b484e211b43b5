import EngineBindings.Json.Printer
import EngineBindings.Plan.Generation

/-! The manifest: what one run has made of a schema.

It names the engine and the settings of the run, counts the members of every class, and lists
every member that was left out with the reason. -/
namespace EngineBindings

/-- The settings of a run. -/
structure RunContext where
  outputDir : String
  templatesDir : Option String
  configuration : String
  runtimeModule : Json
  singleFile : Json
  dryRun : Bool
  jobs : Json

/-- The members of one class, counted. -/
structure ClassCount where
  name : Name
  parent : Option Name
  apiType : Json
  methods : Nat
  virtuals : Nat
  properties : Nat
  skipped : Nat

/-- What one run has made. -/
structure Manifest where
  context : RunContext
  engine : OrderedMap Name Json
  configuration : String
  artifacts : List Name
  utilities : Nat
  builtinMethods : OrderedMap Name Nat
  classes : List ClassCount
  diagnostics : List Diagnostic

namespace RunContext

/-- The settings as a document. -/
def toJson (c : RunContext) : Json :=
  .obj [("output_dir", .str c.outputDir),
    ("templates_dir", (c.templatesDir.map Json.str).getD .null),
    ("build_configuration", .str c.configuration), ("runtime_module", c.runtimeModule),
    ("single_file", c.singleFile), ("dry_run", .bool c.dryRun), ("jobs", c.jobs)]

end RunContext

/-- The members of a planned class, counted. -/
def ClassPlan.count (p : ClassPlan) : ClassCount :=
  { name := p.name
    parent := p.parent
    apiType := p.cls.apiType
    methods := p.bindings.length
    virtuals := p.virtuals.length
    properties := p.properties.length
    skipped := p.diagnostics.length }

/-- The counts of a class as a document. -/
def ClassCount.toJson (c : ClassCount) : Json :=
  .obj [("name", c.name.value), ("inherits", (c.parent.map Name.value).getD .null),
    ("api_type", c.apiType), ("methods", .int c.methods), ("virtuals", .int c.virtuals),
    ("properties", .int c.properties), ("skipped", .int c.skipped)]

/-- A diagnostic as a document. -/
def Diagnostic.toJson (d : Diagnostic) : Json :=
  .obj [("owner", d.owner.value), ("member", d.member.value), ("reason", .str d.reason)]

/-- Entries as the fields of an object. -/
def OrderedMap.toJson (m : OrderedMap Name Json) : Json :=
  .obj (m.entries.map fun entry => (entry.1.value.fieldName, entry.2))

namespace Manifest

/-- The name of the generator. -/
def generatorName : String := "extension-api-bindgen"

/-- The manifest of a generation with the artifacts made of it. -/
def ofGeneration (c : RunContext) (g : Generation) (artifacts : List Name) : Manifest :=
  { context := c
    engine := g.registry.header
    configuration := g.registry.profile.name
    artifacts := artifacts
    utilities := g.utilities.length
    builtinMethods := .ofList (g.builtins.map fun p => (p.name, p.bindings.length))
    classes := g.plans.map ClassPlan.count
    diagnostics := g.diagnostics }

/-- A manifest as a document. -/
def toJson (m : Manifest) : Json :=
  .obj [("generator", .str generatorName), ("context", m.context.toJson),
    ("engine", m.engine.toJson), ("build_configuration", .str m.configuration),
    ("artifacts", .arr (m.artifacts.map Name.value)), ("class_count", .int m.classes.length),
    ("utility_function_count", .int m.utilities),
    ("builtin_methods",
      .obj (m.builtinMethods.entries.map fun e => (e.1.value.fieldName, .int e.2))),
    ("classes", .arr (m.classes.map ClassCount.toJson)),
    ("diagnostics", .arr (m.diagnostics.map Diagnostic.toJson))]

end Manifest

end EngineBindings
