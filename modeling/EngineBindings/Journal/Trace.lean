import EngineBindings.Fault
import EngineBindings.Files.Tree
import EngineBindings.Json.Reader
import EngineBindings.Text.Quoted
import EngineBindings.Text.Segment

/-! Traces of failures.

Behind the line of a failure a log tells how the run came to it. Of such a trace the heading is the
same in every run; of the fault that it ends in a log can show the kind and the wording. -/
namespace EngineBindings

/-! ### Where entries come from

A log can be asked to show, beside a message, who reports it: the reporter's name, the module
that the name ends in, the activity and the line. None of this changes what is reported. -/

/-- Where an entry comes from. -/
structure Site where
  /-- The dotted name of the reporter, without the name of the program. -/
  part : String
  activity : String
  line : Nat
  deriving DecidableEq

namespace Site

/-- The name of the program. -/
def program : String := "extension_api_bindgen"

/-- The full name of the reporter. -/
def reporter (s : Site) : String :=
  program ++ "." ++ s.part

/-- The last part of the reporter's name. -/
def module (s : Site) : String :=
  (Text.splitOwner s.part).2

/-- The file that the reporter's name stands for. -/
def file (s : Site) : String :=
  s.module ++ ".py"

/-! ### Reading the schema -/

def document : Site := ⟨"parsing.schema_parser", "load_schema", 313⟩
def virtualHash : Site := ⟨"parsing.schema_parser", "_parse_method", 186⟩
def declarations : Site := ⟨"parsing.schema_parser", "build_registry", 355⟩
def registry : Site := ⟨"registry", "build", 164⟩

/-! ### Planning -/

def enumZero : Site := ⟨"default_values", "_enum_default", 75⟩
def call : Site := ⟨"method_binding", "_plan", 320⟩
def property : Site := ⟨"properties", "synthesize", 78⟩
def classDiagnostic : Site := ⟨"class_generator", "generate", 164⟩
def classPlan : Site := ⟨"class_generator", "generate", 165⟩
def utilityDiagnostic : Site := ⟨"class_generator", "generate_utilities", 180⟩
def builtinDiagnostic : Site := ⟨"class_generator", "generate_builtin", 196⟩
def generation : Site := ⟨"class_generator", "generate_all", 237⟩

/-! ### Emitting -/

def templates : Site := ⟨"utils", "__init__", 170⟩
def template : Site := ⟨"emitters.python_emitter", "_render_template", 137⟩
def fileUnchanged : Site := ⟨"utils", "atomic_write_text", 265⟩
def fileWritten : Site := ⟨"utils", "atomic_write_text", 279⟩
def fileWithheld : Site := ⟨"utils", "write_text", 299⟩
def fileRefused : Site := ⟨"emitters.python_emitter", "emit", 99⟩
def emission : Site := ⟨"emitters.python_emitter", "emit", 101⟩
def manifest : Site := ⟨"manifest", "emit_manifest", 96⟩

/-! ### The run -/

/-- A line of the run itself. -/
def run (line : Nat) : Site := ⟨"generate_bindings", "main", line⟩

def runTemplates : Site := run 199
def runSchema : Site := run 207
def runPlans : Site := run 218
def runRendering : Site := run 229
def runLayouts : Site := run 232
def runOutput : Site := run 235
def runSkipped : Site := run 239
def runManifest : Site := run 246
def runTrial : Site := run 250

end Site

/-! ### Kinds of faults -/

/-- The kind of a fault of a value. -/
def ValueFault.kind : ValueFault → String
  | fieldOfNonObject | notText | fixedFieldName => "AttributeError"
  | compositeName | notIterable | noPath | wrongPartCount | nameNotText | unorderedNames
  | notNumeric | headerNotPairs | voidMember | tooManyValues | notAStructure
  | takenFieldName => "TypeError"
  | badNumeral | numeralTooLong | wrongItemCount | negativeLength | byteOutOfRange
  | badStructName => "ValueError"
  | infiniteNumber | lengthTooLarge | numberTooLarge => "OverflowError"
  | outOfMemory => "MemoryError"
  | selfNesting | tooNested => "RecursionError"
  | badCount => "error"
  | missingItem => "IndexError"
  | unknownKey => "KeyError"

/-- The kind of a fault of a template. -/
def TemplateFault.kind : TemplateFault → String
  | notFound _ => "RuntimeError"
  | undefinedName => "UndefinedError"
  | malformed => "TemplateSyntaxError"
  | undecodable => "UnicodeDecodeError"
  | badName cause => cause.kind

/-- The kind of a fault. -/
def Fault.kind : Fault → String
  | schema _ => "SchemaError"
  | mapping _ => "MappingError"
  | layout _ => "LayoutError"
  | slot _ => "AbiError"
  | template cause => cause.kind
  | value cause => cause.kind
  | engine _ => "RuntimeError"

/-- The kind of a fault of a file operation. -/
def FileFault.kind : FileFault → String
  | notFound => "FileNotFoundError"
  | alreadyExists => "FileExistsError"
  | isADirectory => "IsADirectoryError"
  | notADirectory => "NotADirectoryError"
  | nameTooLong | busy => "OSError"
  | wrongKind => "TypeError"
  | invalidName => "ValueError"
  | invalidMode => "OverflowError"
  | unknownEncoding => "LookupError"
  | undecodable => "UnicodeDecodeError"
  | illFormed => "UnicodeError"
  | unencodable => "UnicodeEncodeError"
  | tooDeep => "RecursionError"

/-- The kind of a fault of a document's text. -/
def Json.ReadFault.kind : Json.ReadFault → String
  | malformed => "JSONDecodeError"
  | numeralTooLong => "ValueError"
  | tooDeep => "RecursionError"

/-- The number of a fault in the file system, and its wording. -/
def FileFault.system? : FileFault → Option (Nat × String)
  | notFound => some (2, "No such file or directory")
  | busy => some (16, "Device or resource busy")
  | alreadyExists => some (17, "File exists")
  | notADirectory => some (20, "Not a directory")
  | isADirectory => some (21, "Is a directory")
  | nameTooLong => some (36, "File name too long")
  | _ => none

/-! ### Traces -/

/-- The fault that a trace ends in. -/
structure Trace where
  kind : String
  /-- The details of the fault, if all of them are known. -/
  details : Option String
  /-- What the fault says. -/
  wording : String := ""

namespace Trace

/-- The first line of a trace. -/
def heading : String := "Traceback (most recent call last):"

/-- The trace of a fault. -/
def ofFault (cause : Fault) : Trace :=
  ⟨cause.kind, cause.message?.map Text.quoted, cause.message?.getD ""⟩

/-- The trace of a fault of a file operation. -/
def ofFile (cause : FileFault) : Trace :=
  ⟨cause.kind, cause.system?.map fun (number, wording) =>
    Number.decimal number ++ ", " ++ Text.quoted wording, ""⟩

/-- The trace of a fault of a document's text. -/
def ofText (cause : Json.ReadFault) : Trace :=
  ⟨cause.kind, none, ""⟩

/-- Where kinds of faults are at home that are not everywhere. -/
def homes : List (String × String) :=
  (["SchemaError", "MappingError", "LayoutError", "AbiError"].map fun kind =>
      (kind, Site.program ++ ".errors.")) ++
    [("JSONDecodeError", "json.decoder."), ("UndefinedError", "jinja2.exceptions."),
     ("TemplateSyntaxError", "jinja2.exceptions.")]

/-- The full name of the kind of fault. -/
def fullKind (t : Trace) : String :=
  (homes.lookup t.kind).getD "" ++ t.kind

/-- What the fault's display starts with: its kind, the fault and the place of its trace, as far as
they are known. -/
def display (t : Trace) : String :=
  "(<class '" ++ t.fullKind ++ "'>, " ++ t.kind ++ "(" ++
    t.details.elim "" fun details => details ++ "), <traceback object at 0x"

end Trace

end EngineBindings
