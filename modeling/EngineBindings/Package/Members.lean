import EngineBindings.Plan.Generation

/-! Imports of emitted modules and members of emitted classes.

A module imports at its top what its code reads from the native types, the slot interface, the
runtime module and the core definitions. Other engine classes are imported inside the functions
that use them, so that modules of classes depend on each other only along inheritance.

Every member is a run of lines inside a class body with an empty line after it. In a package the
classes that a body uses are imported at its head; in a single module they are already there. -/
namespace EngineBindings.Package

open EngineBindings.Code EngineBindings.Text

/-! ### Imports -/

/-- The module of emitted packages' slot interface. -/
def slotModule : String := "extension_api_bindgen.abi"

/-- The symbols required from one origin, distinct and in ascending order. -/
def symbolsFrom (origin : Origin) (requires : List Requirement) : List String :=
  sortDistinct ((requires.filter (·.origin = origin)).map (·.symbol))

/-- The symbols of the runtime module: some that a module always needs, and the required ones. -/
def runtimeSymbols (base : List String) (requires : List Requirement) : List String :=
  sortDistinct (base ++ symbolsFrom .runtime requires)

/-- The import of symbols from a module. -/
def importLine (module : String) (symbols : List String) : String :=
  "from " ++ module ++ " import " ++ join ", " symbols

/-- The imports of engine classes inside a function, without the classes in `skip`. The package
is written so that a class name can follow it. -/
def classImports (package : String) (skip : List Name) (requires : List Requirement) :
    List String :=
  let names := (symbolsFrom .class requires).filter fun (name : String) => !skip.contains name
  names.map fun name => importLine (package ++ name) [name]

/-- Lines shifted right. -/
def indent (width : Nat) (lines : List String) : List String :=
  lines.map (spaces width ++ ·)

/-- Whether an optional type occurs in the signature of a callable. -/
def mentionsOptional (parameters result : String) : Bool :=
  contains (parameters ++ result) "Optional["

/-- The comment at the head of every emitted module. -/
def headerComment (r : Registry) : String :=
  let version := (r.header.find? ("version_full_name" : String)).getD .null
  let name := if version.isTruthy then version.display else "unknown engine version"
  "# Generated by extension-api-bindgen from extension_api.json (" ++ name ++ ", " ++
    r.profile.name ++ "). Do not edit."

/-! ### Members -/

/-- Where a member is emitted. -/
structure Site where
  /-- Whether classes have modules of their own. -/
  inPackage : Bool
  /-- What precedes a class name in an import. -/
  package : String
  /-- Classes that are there without an import. -/
  skip : List Name

/-- The imports at the head of a function body. -/
def Site.imports (site : Site) (requires : List Requirement) : List String :=
  if site.inPackage then classImports site.package site.skip requires else []

/-- A function inside a class body. -/
def functionLines (name parameters result : String) (body : List String) : List String :=
  ("    def " ++ name ++ "(" ++ parameters ++ ") -> " ++ result ++ ":") :: indent 8 body

/-- A bound member. -/
def bindingLines (site : Site) (b : MethodBinding) : List String :=
  (if b.method.isStatic then ["    @staticmethod"] else []) ++
    functionLines b.exposedName b.parameterList b.returnAnnotation
      (site.imports b.requires ++ b.bodyLines) ++ [""]

/-- An overridable member. -/
def virtualLines (site : Site) (t : Trampoline) : List String :=
  functionLines t.exposedName t.parameterList t.returnAnnotation
    ((if t.default.isSome then site.imports t.requires else []) ++ linesOf t.baseBody) ++ [""]

/-- A property with its getter and its setter. -/
def propertyLines (site : Site) (p : PropertyAccessor) : List String :=
  let imports := site.imports p.requires
  let annotation := p.target.annotation
  "    @property" ::
    functionLines p.exposedName "self" annotation (imports ++ linesOf p.getterBody) ++ [""] ++
    ("    @" ++ p.exposedName ++ ".setter") ::
    functionLines p.exposedName ("self, value: " ++ annotation) "None"
      (imports ++ linesOf p.setterBody) ++ [""]

/-- A member of either kind. -/
def memberLines (site : Site) : Member → List String
  | .bound b => bindingLines site b
  | .overridable t => virtualLines site t

/-- The attribute that resolves a bound callable on first use. -/
def handleLine (name key resolver : String) : String :=
  "    " ++ name ++ " = LazyBinding(" ++ key ++ ", " ++ resolver ++ ")"

/-- The key of a handle: two names and the hash. -/
def handleKey (first second : Name) (hash : Option Int) : String :=
  tuple [first.literal, second.literal, (hash.map Number.decimal).getD "None"]

/-! ### Enumerations -/

/-- An emitted enumeration. -/
structure EnumDecl where
  host : String
  base : String
  values : List (String × Int)

/-- The declaration of an enumeration under a given name. -/
def enumDecl (e : EnumDef) (host : String) : Except ValueFault EnumDecl := do
  let values ← e.values.mapM fun v => return (← v.name.sanitize, v.value)
  return ⟨host, if e.isBitfield then "IntFlag" else "IntEnum", values⟩

/-- The lines of an enumeration. -/
def EnumDecl.lines (e : EnumDecl) : List String :=
  ("class " ++ e.host ++ "(" ++ e.base ++ "):") ::
    (if e.values.isEmpty then ["    pass"] else []) ++
    e.values.map fun v => "    " ++ v.1 ++ " = " ++ Number.decimal v.2

end EngineBindings.Package
