import EngineBindings.Layout.Value
import EngineBindings.Package.Members

/-! The core definitions and the utility functions.

One module declares what belongs to no class: global enumerations and those of builtins, the
structures of fixed layout with their methods, mixins that carry the methods of the other
builtins, and tables of constructors, operators and native structures. Another one has the
functions that belong to no class, each behind its handle. -/
namespace EngineBindings.Package

open EngineBindings.Code EngineBindings.Text

/-! ### Core definitions -/

/-- An emitted structure. -/
structure StructDecl where
  host : Name
  /-- The names and types of the fields. -/
  fields : List (Name × Name)
  methods : List String

/-- An emitted class that only carries methods. -/
structure MixinDecl where
  host : Name
  name : Name
  methods : List String

/-- A constructor of a builtin. -/
structure ConstructorEntry where
  name : Name
  index : Nat
  typecode : String

/-- An operator between builtins. -/
structure OperatorEntry where
  name : Name
  symbol : Name
  /-- The right operand's type, empty for a unary operator. -/
  right : Name
  constant : String
  leftCode : String
  rightCode : String

/-- What the core definitions declare. -/
structure CoreDefs where
  header : String
  runtimeModule : String
  configuration : String
  runtimeImports : List String
  usesOptional : Bool
  sizes : List (Name × Int)
  enums : List EnumDecl
  structs : List StructDecl
  mixins : List MixinDecl
  constructors : List ConstructorEntry
  operators : List OperatorEntry
  natives : List NativeStructure

/-! ### Gathering -/

/-- The handles and methods of a builtin, as lines of a class body. -/
def builtinMethodLines (inPackage : Bool) (p : BuiltinPlan) : Except Fault (List String) := do
  let code ← typecode p.name
  let site : Site := ⟨inPackage, ".classes.", []⟩
  return dropTrailingEmpty
    ((p.bindings.map fun b =>
        handleLine b.handleName (handleKey code b.method.name b.method.hash)
          "builtin_method_bind") ++
      [""] ++ p.bindings.flatMap (bindingLines site))

/-- The plans of builtins that have bound methods, by name. -/
def boundBuiltins (g : Generation) : OrderedMap Name BuiltinPlan :=
  .ofList ((g.builtins.filter (!·.bindings.isEmpty)).map fun p => (p.name, p))

/-- The declaration of a structure. -/
def structDecl (r : Registry) (bound : OrderedMap Name BuiltinPlan) (inPackage : Bool)
    (layout : Layout Int) : Except Fault StructDecl := do
  let fields ← r.declarationFields layout.name
  let methods ← match bound.find? layout.name with
    | some plan => builtinMethodLines inPackage plan
    | none => pure []
  return ⟨layout.host, fields, methods⟩

/-- The mixin of a builtin that is no structure. -/
def mixinDecl (inPackage : Bool) (p : BuiltinPlan) : Except Fault MixinDecl := do
  return ⟨p.holder, p.name, ← builtinMethodLines inPackage p⟩

/-- A global enumeration, which has to be called by a text. -/
def globalEnumDecl (r : Registry) (e : EnumDef) : Except ValueFault EnumDecl :=
  match e.name.text? with
  | some name => enumDecl e (r.enumHostName name)
  | none => .error .notText

/-- The enumerations of a registry that belong to no class. -/
def coreEnums (r : Registry) : Except ValueFault (List EnumDecl) := do
  let globals ← r.globalEnums.mapM (globalEnumDecl r)
  let owned ← r.builtins.mapM fun b =>
    b.enums.mapM fun e => enumDecl e (r.enumHostName (e.ownedName b.name))
  return globals ++ owned.flatten

/-- An operator of a builtin whose constant is known. -/
def operatorEntry (b : BuiltinDef) (code : String) (op : BuiltinOperator) :
    Except Fault OperatorEntry := do
  let operator ← operator op.name
  let rightCode ← typecode (op.rightType.getD "Nil")
  return ⟨b.name, op.name, op.rightType.getD "", operator.constant, code, rightCode⟩

/-- The constructors and operators of a sized builtin. -/
def builtinEntries (b : BuiltinDef) :
    Except Fault (List ConstructorEntry × List OperatorEntry) := do
  let code ← typecode b.name
  let operators ← b.operators.mapM (operatorEntry b code)
  return ((List.range b.constructorCount).map fun index => ⟨b.name, index, code⟩, operators)

/-- The core definitions of a generation. -/
def coreDefs (g : Generation) (runtimeModule : String) (inPackage : Bool) :
    Except Fault CoreDefs := do
  let r := g.registry
  let bound := boundBuiltins g
  let structs ← (← r.structLayouts).mapM (structDecl r bound inPackage)
  let mixins ← (bound.values.filter (!·.builtin.isStruct)).mapM (mixinDecl inPackage)
  let enums ← (coreEnums r).mapError .value
  let entries ← (r.builtins.filter fun b => (r.size? b.name).isSome).mapM builtinEntries
  let sizes ← (Name.sortBy (·.1) r.sizes.entries).mapError .value
  let methods := bound.values.flatMap (·.bindings)
  return {
    structs, mixins, runtimeModule, enums, sizes
    header := headerComment r
    configuration := r.profile.name
    runtimeImports := runtimeSymbols
      (["variant_constructor", "variant_operator_evaluator"] ++
        if bound.entries.isEmpty then [] else ["gi", "builtin_method_bind"])
      (methods.flatMap (·.requires))
    usesOptional := methods.any fun b => mentionsOptional b.parameterList b.returnAnnotation
    constructors := entries.flatMap (·.1)
    operators := entries.flatMap (·.2)
    natives := r.natives }

/-! ### Lines -/

namespace CoreDefs

/-- The head of a module of its own. -/
def headLines (c : CoreDefs) : List String :=
  [c.header,
   "\"\"\"Enumerations, builtin value types with their methods, and builtin binding tables.\"\"\"",
   "", "from __future__ import annotations", "", "import ctypes",
   "from enum import IntEnum, IntFlag"] ++
    (if c.usesOptional then ["from typing import Optional"] else []) ++
    ["", importLine slotModule ["LazyBinding"], importLine c.runtimeModule c.runtimeImports, ""]

/-- A structure with its methods. -/
def structLines (s : StructDecl) : List String :=
  ["", "", "class " ++ s.host.display ++ "(ctypes.Structure):", "    _fields_ = ["] ++
    (s.fields.map fun f => "        (" ++ f.1.literal ++ ", " ++ f.2.display ++ "),") ++
    ["    ]"] ++
    if s.methods.isEmpty then [] else "" :: s.methods

/-- A mixin with its methods. -/
def mixinLines (m : MixinDecl) : List String :=
  ["", "", "class " ++ m.host.display ++ ":",
   "    \"\"\"Bound methods of " ++ m.name.display ++ ", mixed into its runtime wrapper.\"\"\"", ""] ++
    m.methods

/-- A table of entries in braces. -/
def table (name : String) (entries : List String) : List String :=
  (name ++ " = \x7b") :: entries ++ ["\x7d"]

/-- The entry of a constructor. -/
def constructorLine (c : ConstructorEntry) : String :=
  let index := Number.decimal c.index
  "    (" ++ c.name.literal ++ ", " ++ index ++ "): LazyBinding((" ++ quoted c.typecode ++ ", " ++
    index ++ "), variant_constructor),"

/-- The entry of an operator. -/
def operatorLines (o : OperatorEntry) : List String :=
  ["    (" ++ join ", " ([o.name, o.symbol, o.right].map Name.literal) ++ "): LazyBinding(",
   "        (" ++ join ", " ([o.constant, o.leftCode, o.rightCode].map quoted) ++
     "), variant_operator_evaluator",
   "    ),"]

/-- The lines of the core definitions, with the head of a module if they are one. -/
def lines (c : CoreDefs) (standalone : Bool) : List String :=
  (if standalone then c.headLines else []) ++
    ["BUILD_CONFIGURATION = " ++ quoted c.configuration, ""] ++
    table "BUILTIN_SIZES"
      (c.sizes.map fun s => "    " ++ s.1.literal ++ ": " ++ Number.decimal s.2 ++ ",") ++
    (c.enums.flatMap fun e => "" :: "" :: e.lines) ++
    c.structs.flatMap structLines ++ c.mixins.flatMap mixinLines ++ ["", ""] ++
    table "CONSTRUCTORS" (c.constructors.map constructorLine) ++ [""] ++
    table "OPERATORS" (c.operators.flatMap operatorLines) ++ [""] ++
    table "NATIVE_STRUCTURES"
      (c.natives.map fun n => "    " ++ n.name.literal ++ ": " ++ n.format.literal ++ ",")

end CoreDefs

/-! ### Utility functions -/

/-- An emitted utility function. -/
structure UtilityFunction where
  name : String
  handleName : String
  key : String
  parameters : String
  result : String
  body : List String

/-- What the module of utility functions declares. -/
structure Utilities where
  header : String
  runtimeModule : String
  runtimeImports : List String
  coreImports : List String
  usesOptional : Bool
  functions : List UtilityFunction

/-- A utility function. In a package it imports the classes it uses. -/
def utilityFunction (inPackage : Bool) (b : MethodBinding) : UtilityFunction :=
  { name := b.exposedName
    handleName := b.handleName
    key := tuple [b.method.name.literal, (b.method.hash.map Number.decimal).getD "None"]
    parameters := b.parameterList
    result := b.returnAnnotation
    body :=
      (if inPackage then classImports ".classes." [] b.requires else []) ++ b.bodyLines }

/-- The utility functions of a generation. -/
def utilities (g : Generation) (runtimeModule : String) (inPackage : Bool) : Utilities :=
  let requires := g.utilities.flatMap (·.requires)
  { header := headerComment g.registry
    runtimeModule := runtimeModule
    runtimeImports := runtimeSymbols ["gi", "utility_function_bind"] requires
    coreImports := symbolsFrom .core requires
    usesOptional := g.utilities.any fun b => mentionsOptional b.parameterList b.returnAnnotation
    functions := g.utilities.map (utilityFunction inPackage) }

namespace Utilities

/-- The head of a module of its own. -/
def headLines (u : Utilities) : List String :=
  [u.header, "\"\"\"Engine utility functions.\"\"\"", "", "from __future__ import annotations", "",
   "import ctypes"] ++
    (if u.usesOptional then ["from typing import Optional"] else []) ++
    ["", importLine slotModule ["LazyBinding"], importLine u.runtimeModule u.runtimeImports] ++
    if u.coreImports.isEmpty then [] else [importLine ".core_defs" u.coreImports]

/-- A function behind its handle. -/
def functionLines (f : UtilityFunction) : List String :=
  ["", "", f.handleName ++ " = LazyBinding(" ++ f.key ++ ", utility_function_bind)", "", "",
   "def " ++ f.name ++ "(" ++ f.parameters ++ ") -> " ++ f.result ++ ":",
   indentLines f.body 4]

/-- The lines of the utility functions, with the head of a module if they are one. -/
def lines (u : Utilities) (standalone : Bool) : List String :=
  (if standalone then u.headLines else []) ++ u.functions.flatMap functionLines

end Utilities

end EngineBindings.Package
