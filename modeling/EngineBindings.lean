import EngineBindings.Code.Basic
import EngineBindings.CommandLine.Options
import EngineBindings.CommandLine.Run
import EngineBindings.Fault
import EngineBindings.Files.CharCode
import EngineBindings.Files.CharSet
import EngineBindings.Files.CharSet.Big5
import EngineBindings.Files.CharSet.Chinese
import EngineBindings.Files.CharSet.Japanese
import EngineBindings.Files.CharSet.Korean
import EngineBindings.Files.CodePage
import EngineBindings.Files.DomainName
import EngineBindings.Files.Encoding
import EngineBindings.Files.Escaped
import EngineBindings.Files.Hangul
import EngineBindings.Files.Multibyte
import EngineBindings.Files.Operand
import EngineBindings.Files.Path
import EngineBindings.Files.Publish
import EngineBindings.Files.Punycode
import EngineBindings.Files.Shifted
import EngineBindings.Files.Switched
import EngineBindings.Files.Tree
import EngineBindings.Files.Write
import EngineBindings.Handle
import EngineBindings.Insertion
import EngineBindings.Journal.Basic
import EngineBindings.Journal.Format
import EngineBindings.Journal.Line
import EngineBindings.Journal.Reports
import EngineBindings.Journal.Trace
import EngineBindings.Json.Basic
import EngineBindings.Json.Operand
import EngineBindings.Json.Printer
import EngineBindings.Json.Reader
import EngineBindings.Layout.Basic
import EngineBindings.Layout.Given
import EngineBindings.Layout.Native
import EngineBindings.Layout.Store
import EngineBindings.Layout.Value
import EngineBindings.Main
import EngineBindings.Manifest
import EngineBindings.Memory.Content
import EngineBindings.Memory.Operand
import EngineBindings.Memory.Slot
import EngineBindings.Memory.Word
import EngineBindings.Name
import EngineBindings.Number.Binary
import EngineBindings.Number.Notation
import EngineBindings.Number.Numeral
import EngineBindings.Number.Power
import EngineBindings.Number.Quantity
import EngineBindings.Number.Shortest
import EngineBindings.OrderedMap
import EngineBindings.Package.ClassModule
import EngineBindings.Package.CoreDefs
import EngineBindings.Package.Emission
import EngineBindings.Package.Members
import EngineBindings.Package.Render
import EngineBindings.Package.Template
import EngineBindings.Plan.Binding
import EngineBindings.Plan.Generation
import EngineBindings.Plan.Property
import EngineBindings.Plan.Trampoline
import EngineBindings.Profile
import EngineBindings.Proofs.Attempt
import EngineBindings.Proofs.Code.Execution
import EngineBindings.Proofs.Code.Reads
import EngineBindings.Proofs.CommandLine.Stopped
import EngineBindings.Proofs.Files.Contents
import EngineBindings.Proofs.Files.Directories
import EngineBindings.Proofs.Files.Emitted
import EngineBindings.Proofs.Files.Written
import EngineBindings.Proofs.Handle
import EngineBindings.Proofs.Insertion
import EngineBindings.Proofs.Layout.Agreement
import EngineBindings.Proofs.Layout.Alignment
import EngineBindings.Proofs.Layout.Covered
import EngineBindings.Proofs.Layout.Declared
import EngineBindings.Proofs.Layout.Nested
import EngineBindings.Proofs.Layout.Placed
import EngineBindings.Proofs.Layout.Realized
import EngineBindings.Proofs.Layout.Spelled
import EngineBindings.Proofs.Layout.StructType
import EngineBindings.Proofs.Layout.Tiling
import EngineBindings.Proofs.Memory.Addresses
import EngineBindings.Proofs.Memory.Bytes
import EngineBindings.Proofs.Memory.Session
import EngineBindings.Proofs.Memory.Wrapping
import EngineBindings.Proofs.Name
import EngineBindings.Proofs.OrderedMap
import EngineBindings.Proofs.Package.Answers
import EngineBindings.Proofs.Package.Carriers
import EngineBindings.Proofs.Package.ClassCode
import EngineBindings.Proofs.Package.Declared
import EngineBindings.Proofs.Package.Dispatching
import EngineBindings.Proofs.Package.ErasedClass
import EngineBindings.Proofs.Package.Erasure
import EngineBindings.Proofs.Package.FieldClashes
import EngineBindings.Proofs.Package.FoundNames
import EngineBindings.Proofs.Package.ImportGraph
import EngineBindings.Proofs.Package.LocalImports
import EngineBindings.Proofs.Package.Modes
import EngineBindings.Proofs.Package.Passages
import EngineBindings.Proofs.Package.Quiet
import EngineBindings.Proofs.Package.RelativeImports
import EngineBindings.Proofs.Package.Reordered
import EngineBindings.Proofs.Package.ResolvedImports
import EngineBindings.Proofs.Package.Scope
import EngineBindings.Proofs.Package.SingleModule
import EngineBindings.Proofs.Package.ZeroValues
import EngineBindings.Proofs.Plan.Accessor
import EngineBindings.Proofs.Plan.Accounting
import EngineBindings.Proofs.Plan.Agreeing
import EngineBindings.Proofs.Plan.Arity
import EngineBindings.Proofs.Plan.BoundReads
import EngineBindings.Proofs.Plan.Capture
import EngineBindings.Proofs.Plan.Conversion
import EngineBindings.Proofs.Plan.Defaults
import EngineBindings.Proofs.Plan.Dispatch
import EngineBindings.Proofs.Plan.EngineCall
import EngineBindings.Proofs.Plan.EngineCapture
import EngineBindings.Proofs.Plan.EngineFaithful
import EngineBindings.Proofs.Plan.Extended
import EngineBindings.Proofs.Plan.Faithful
import EngineBindings.Proofs.Plan.Handing
import EngineBindings.Proofs.Plan.Isolation
import EngineBindings.Proofs.Plan.Marshalling
import EngineBindings.Proofs.Plan.Planned
import EngineBindings.Proofs.Plan.Probe
import EngineBindings.Proofs.Plan.ProbedProxy
import EngineBindings.Proofs.Plan.PropertyReads
import EngineBindings.Proofs.Plan.Proxy
import EngineBindings.Proofs.Plan.ProxyReads
import EngineBindings.Proofs.Plan.Requirements
import EngineBindings.Proofs.Plan.ResizedBinding
import EngineBindings.Proofs.Plan.ResizedGeneration
import EngineBindings.Proofs.Plan.Slot
import EngineBindings.Proofs.Plan.Supplied
import EngineBindings.Proofs.Plan.Surface
import EngineBindings.Proofs.Plan.Synthesis
import EngineBindings.Proofs.Plan.Total
import EngineBindings.Proofs.Plan.TotalGeneration
import EngineBindings.Proofs.Plan.Visibility
import EngineBindings.Proofs.Registry.Acyclic
import EngineBindings.Proofs.Registry.Built
import EngineBindings.Proofs.Registry.Classified
import EngineBindings.Proofs.Registry.Lineage
import EngineBindings.Proofs.Registry.Ordering
import EngineBindings.Proofs.Registry.ParentFirst
import EngineBindings.Proofs.Registry.Plain
import EngineBindings.Proofs.Registry.Reordered
import EngineBindings.Proofs.Schema.Configuration
import EngineBindings.Proofs.Schema.Decoded
import EngineBindings.Proofs.Schema.Extended
import EngineBindings.Proofs.Schema.Refused
import EngineBindings.Proofs.Schema.Reordered
import EngineBindings.Proofs.Schema.Resized
import EngineBindings.Proofs.Schema.Resolved
import EngineBindings.Proofs.Schema.Texts
import EngineBindings.Proofs.Target.Hosts
import EngineBindings.Proofs.Target.Mapped
import EngineBindings.Proofs.Target.Needs
import EngineBindings.Proofs.Target.Resized
import EngineBindings.Proofs.Target.Stale
import EngineBindings.Proofs.Text.Identifier
import EngineBindings.Proofs.Text.Literal
import EngineBindings.Proofs.Text.Normal
import EngineBindings.Proofs.Text.Segment
import EngineBindings.Proofs.TypeRef.Resolving
import EngineBindings.Proofs.TypeRef.Spelling
import EngineBindings.Registry.Basic
import EngineBindings.Registry.Build
import EngineBindings.Scalar
import EngineBindings.Schema.Decode
import EngineBindings.Schema.Model
import EngineBindings.Target.Basic
import EngineBindings.Target.Default
import EngineBindings.Target.Mapping
import EngineBindings.Text.CharName
import EngineBindings.Text.CharName.Alphabets
import EngineBindings.Text.CharName.Ancient
import EngineBindings.Text.CharName.Signs
import EngineBindings.Text.CharName.Syllables
import EngineBindings.Text.Digit
import EngineBindings.Text.Direction
import EngineBindings.Text.HalfPair
import EngineBindings.Text.Identifier
import EngineBindings.Text.Literal
import EngineBindings.Text.Normal
import EngineBindings.Text.Normal.Character
import EngineBindings.Text.Printable
import EngineBindings.Text.Quoted
import EngineBindings.Text.Segment
import EngineBindings.Text.Small
import EngineBindings.Text.Syllable
import EngineBindings.Text.Word
import EngineBindings.TypeRef
