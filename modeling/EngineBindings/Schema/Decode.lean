import EngineBindings.Registry.Build

/-! From a document to declarations.

Each declaration is read field by field in a fixed order, and the first fault in that order is
the one reported. A place is named by the declarations around it. A list that is missing, null
or otherwise not given is empty; flags follow whether a value counts as given; numbers are read
by `Json.integer`. -/
namespace EngineBindings.Schema

/-- The fields of an object. -/
abbrev Fields := List (String × Json)

/-! ### Fields -/

/-- The fields of a value that has to be an object. -/
def asObject (place : String) : Json → Except Fault Fields
  | .obj fields => .ok fields
  | value => .error (.schema (.expectedObject place value.kindName))

/-- The value of a field that has to be there. -/
def require (fields : Fields) (key place : String) : Except Fault Json :=
  match Json.find? fields key with
  | some value => .ok value
  | none => .error (.schema (.missingField place key))

/-- The value of a field, null when it is missing. -/
def optional (fields : Fields) (key : String) : Json :=
  (Json.find? fields key).getD .null

/-- Whether a field counts as given. -/
def flag (fields : Fields) (key : String) : Bool :=
  (optional fields key).isTruthy

/-- The items of a field that is a list if it counts as given. -/
def list (fields : Fields) (key place : String) : Except Fault (List Json) :=
  match optional fields key with
  | .arr items => .ok items
  | value => if value.isTruthy then .error (.schema (.notAList place key)) else .ok []

/-- A name under a key. -/
def nameAt (fields : Fields) (key place : String) : Except Fault Name :=
  (require fields key place).map Name.mk

/-- The name of a declaration. -/
def name (fields : Fields) (place : String) : Except Fault Name :=
  nameAt fields "name" place

/-- A name that may be left out. -/
def givenName (value : Json) : Option Name :=
  if value.isTruthy then some ⟨value⟩ else none

/-- A whole number that has to be there. -/
def requireInteger (fields : Fields) (key place : String) : Except Fault Int := do
  (← require fields key place).integer.mapError .value

/-- How many typed arrays a document may put inside one another. -/
def maxNesting : Nat := 980

/-- A type that has to be spelt by a text. -/
def type (names : KnownNames) (place : String) : Json → Except Fault TypeRef
  | .str spelling =>
    if maxNesting < KnownNames.nesting spelling.toList then .error (.value .tooNested)
    else (names.resolve place spelling).mapError .schema
  | _ => .error (.schema (.noTypeText place))

/-- A type that may be left out. -/
def optionalType (names : KnownNames) (place : String) (value : Json) :
    Except Fault (Option TypeRef) :=
  if value.isTruthy then (type names place value).map some else .ok none

/-! ### Sizes and offsets of one build configuration -/

/-- Whether a value is the name of a build configuration. -/
def isConfiguration (configuration : String) : Json → Bool
  | .str s => s = configuration
  | _ => false

/-- One entry of a size table. -/
def sizeEntry (value : Json) : Except Fault (Name × Int) := do
  let fields ← asObject "builtin_class_sizes.sizes[]" value
  let name ← name fields "builtin_class_sizes.sizes[]"
  let size ← requireInteger fields "size" ("builtin_class_sizes.sizes[" ++ name.display ++ "]")
  return (← name.keyed.mapError .value, size)

/-- The size table of a build configuration: the first entry that is made for it. -/
def sizes (configuration : String) : List Json → Except Fault (OrderedMap Name Int)
  | [] => .error (.schema (.noSizes configuration))
  | entry :: rest => do
    let fields ← asObject "builtin_class_sizes[]" entry
    if isConfiguration configuration
        (← require fields "build_configuration" "builtin_class_sizes[]") then
      let items ← list fields "sizes" ("builtin_class_sizes[" ++ configuration ++ "]")
      return .ofList (← items.mapM sizeEntry)
    else sizes configuration rest

/-- Where one member lies. -/
def memberOffset (place : String) (value : Json) : Except Fault MemberOffset := do
  let fields ← asObject place value
  let member ← nameAt fields "member" place
  let offset ← requireInteger fields "offset" place
  let content ← nameAt fields "meta" place
  return ⟨member, offset, content⟩

/-- The member offsets of one builtin. -/
def classOffsets (value : Json) : Except Fault (Name × List MemberOffset) := do
  let fields ← asObject "builtin_class_member_offsets.classes[]" value
  let name ← name fields "builtin_class_member_offsets.classes[]"
  let place := "builtin_class_member_offsets[" ++ name.display ++ "]"
  let members ← (← list fields "members" place).mapM (memberOffset place)
  return (← name.keyed.mapError .value, members)

/-- The member offsets of one entry, if it is made for the build configuration. -/
def offsetEntry (configuration : String) (entry : Json) :
    Except Fault (List (Name × List MemberOffset)) := do
  let fields ← asObject "builtin_class_member_offsets[]" entry
  if isConfiguration configuration
      (← require fields "build_configuration" "builtin_class_member_offsets[]") then
    (← list fields "classes" "builtin_class_member_offsets[]").mapM classOffsets
  else return []

/-- The member offsets of a build configuration, from every entry that is made for it. -/
def offsets (configuration : String) (entries : List Json) :
    Except Fault (OrderedMap Name (List MemberOffset)) := do
  return .ofList (← entries.mapM (offsetEntry configuration)).flatten

/-! ### Members -/

/-- A named whole number. -/
def namedInteger (place : String) (value : Json) : Except Fault (Name × Int) := do
  let fields ← asObject place value
  let name ← name fields place
  return (name, ← requireInteger fields "value" place)

/-- An enumeration. -/
def enumeration (place : String) (value : Json) : Except Fault EnumDef := do
  let fields ← asObject place value
  let name ← name fields place
  let inner := place ++ "." ++ name.display
  let values ← (← list fields "values" inner).mapM (namedInteger inner)
  return ⟨name, values.map fun v => ⟨v.1, v.2⟩, flag fields "is_bitfield"⟩

/-- An argument of a callable. -/
def argument (names : KnownNames) (place : String) (value : Json) : Except Fault ArgumentDef := do
  let fields ← asObject place value
  let name ← name fields place
  let inner := place ++ "." ++ name.display
  let type ← type names inner (← require fields "type" inner)
  return ⟨name, type, optional fields "meta", optional fields "default_value"⟩

/-- The arguments of a callable. -/
def arguments (names : KnownNames) (fields : Fields) (place : String) :
    Except Fault (List ArgumentDef) := do
  (← list fields "arguments" place).mapM (argument names place)

/-- Whether a method is virtual, and its hash if it is not. Some schemas give virtual methods a
hash too; it binds nothing and is left out. -/
def bindingHash (fields : Fields) (place : String) : Except Fault (Bool × Json) :=
  let isVirtual := flag fields "is_virtual"
  match isVirtual, optional fields "hash" with
  | true, _ => .ok (true, .null)
  | false, .null => .error (.schema (.noHash .classMethod place))
  | false, hash => .ok (false, hash)

/-- A hash that may be absent. -/
def hashValue : Json → Except Fault (Option Int)
  | .null => .ok none
  | value => (value.integer.mapError .value).map some

/-- A method of a class. -/
def method (names : KnownNames) (owner : String) (value : Json) : Except Fault MethodDef := do
  let fields ← asObject (owner ++ ".methods[]") value
  let name ← name fields (owner ++ ".methods[]")
  let place := owner ++ "." ++ name.display
  let (isVirtual, hash) ← bindingHash fields place
  let result := optional fields "return_value"
  let (returnType, returnTag) ←
    if result.isTruthy then do
      let inner ← asObject (place ++ ".return_value") result
      let spelling ← require inner "type" (place ++ ".return_value")
      let type ← type names (place ++ ".return_value") spelling
      pure (some type, optional inner "meta")
    else pure (none, Json.null)
  let arguments ← arguments names fields place
  let hash ← hashValue hash
  return {
    name, arguments, returnType, returnTag, isVirtual, hash
    isStatic := flag fields "is_static"
    isVararg := flag fields "is_vararg"
    isConst := flag fields "is_const" }

/-- A property of a class. -/
def property (owner : String) (value : Json) : Except Fault PropertyDef := do
  let fields ← asObject (owner ++ ".properties[]") value
  let name ← name fields (owner ++ ".properties[]")
  let getter := optional fields "getter"
  let setter := optional fields "setter"
  let index ← hashValue (optional fields "index")
  return {
    name, index
    type := (Json.find? fields "type").getD (.str "")
    getter := if getter.isTruthy then getter else .str ""
    setter := if setter.isTruthy then some setter else none }

/-- A class. -/
def classDef (names : KnownNames) (value : Json) : Except Fault ClassDef := do
  let fields ← asObject "classes[]" value
  let name ← name fields "classes[]"
  let place := name.display
  let methods ← (← list fields "methods" place).mapM (method names place)
  let properties ← (← list fields "properties" place).mapM (property place)
  let enums ← (← list fields "enums" place).mapM (enumeration (place ++ ".enums"))
  let constants ← (← list fields "constants" place).mapM (namedInteger (place ++ ".constants"))
  return {
    name, methods, properties, enums
    parent := givenName (optional fields "inherits")
    constants := constants.map fun c => ⟨c.1, c.2⟩
    isRefcounted := flag fields "is_refcounted"
    isInstantiable := ((Json.find? fields "is_instantiable").getD (.bool true)).isTruthy
    apiType := (Json.find? fields "api_type").getD (.str "core") }

/-- A member of a builtin. -/
def builtinMember (place : String) (value : Json) : Except Fault BuiltinMember := do
  let fields ← asObject place value
  let name ← name fields place
  return ⟨name, ← nameAt fields "type" place⟩

/-- An operator of a builtin. -/
def builtinOperator (place : String) (value : Json) : Except Fault BuiltinOperator := do
  let fields ← asObject place value
  let name ← name fields place
  let returnType ← require fields "return_type" place
  return ⟨name, returnType, givenName (optional fields "right_type")⟩

/-- The hash of a callable that is always bound. -/
def requiredHash (callable : Callable) (fields : Fields) (place : String) : Except Fault Json :=
  match optional fields "hash" with
  | .null => .error (.schema (.noHash callable place))
  | hash => .ok hash

/-- A method of a builtin. Its result is a bare type spelling. -/
def builtinMethod (names : KnownNames) (owner : String) (value : Json) :
    Except Fault MethodDef := do
  let fields ← asObject (owner ++ ".methods[]") value
  let name ← name fields (owner ++ ".methods[]")
  let place := owner ++ "." ++ name.display
  let hash ← requiredHash .builtinMethod fields place
  let arguments ← arguments names fields place
  let returnType ←
    optionalType names (place ++ ".return_type") (optional fields "return_type")
  let hash ← hash.integer.mapError .value
  return {
    name, arguments, returnType
    isStatic := flag fields "is_static"
    isVararg := flag fields "is_vararg"
    isConst := flag fields "is_const"
    hash := some hash }

/-- A builtin value type. -/
def builtinDef (names : KnownNames) (value : Json) : Except Fault BuiltinDef := do
  let fields ← asObject "builtin_classes[]" value
  let name ← name fields "builtin_classes[]"
  let place := name.display
  let members ← (← list fields "members" place).mapM (builtinMember (place ++ ".members"))
  let operators ←
    (← list fields "operators" place).mapM (builtinOperator (place ++ ".operators"))
  let constructors ← list fields "constructors" place
  let enums ← (← list fields "enums" place).mapM (enumeration (place ++ ".enums"))
  let methods ← (← list fields "methods" place).mapM (builtinMethod names place)
  return {
    name, members, operators, enums, methods
    hasDestructor := flag fields "has_destructor"
    constructorCount := constructors.length }

/-- A utility function. -/
def utility (names : KnownNames) (value : Json) : Except Fault UtilityDef := do
  let fields ← asObject "utility_functions[]" value
  let name ← name fields "utility_functions[]"
  let place := "utility." ++ name.display
  let hash ← requiredHash .utilityFunction fields place
  let arguments ← arguments names fields place
  let returnType ←
    optionalType names (place ++ ".return_type") (optional fields "return_type")
  let hash ← hash.integer.mapError .value
  return {
    name, arguments, returnType, hash
    category := (Json.find? fields "category").getD (.str "general")
    isVararg := flag fields "is_vararg" }

/-! ### The whole document -/

/-- The names under which a section declares its entries. -/
def declaredNames (place : String) (entries : List Json) : Except Fault (List Name) :=
  entries.mapM fun entry => do
    (← name (← asObject place entry) place).keyed.mapError .value

/-- A native structure. -/
def native (value : Json) : Except Fault NativeStructure := do
  let fields ← asObject "native_structures[]" value
  let name ← name fields "native_structures[]"
  return ⟨name, ← require fields "format" ("native_structures[" ++ name.display ++ "]")⟩

/-- The native structures of a section. Their names are looked at once all are read. -/
def natives (entries : List Json) : Except Fault (List NativeStructure) := do
  let natives ← entries.mapM native
  natives.forM fun n => discard (n.name.keyed.mapError Fault.value)
  return natives

/-- The sections of a document that are needed before types can be read, and the names that the
type spellings in the others can mean. -/
structure Outline where
  fields : Fields
  classes : List Json
  builtins : List Json
  sizes : OrderedMap Name Int
  natives : List NativeStructure
  names : KnownNames

/-- Reads what the type spellings of a document depend on. -/
def outline (configuration : String) : Json → Except Fault Outline
  | .obj fields => do
    let classes ← list fields "classes" "schema"
    let builtins ← list fields "builtin_classes" "schema"
    let rawNatives ← list fields "native_structures" "schema"
    let sizes ← sizes configuration (← list fields "builtin_class_sizes" "schema")
    let classNames ← declaredNames "classes[]" classes
    let builtinNames ← declaredNames "builtin_classes[]" builtins
    let natives ← natives rawNatives
    return {
      fields, classes, builtins, sizes, natives
      names := .ofNames classNames (builtinNames ++ sizes.keys) (natives.map (·.name)) }
  | _ => .error (.value .fieldOfNonObject)

/-- The declarations of a document for one build configuration. -/
def declarations (profile : Profile) (document : Json) : Except Fault Declarations := do
  let o ← outline profile.name document
  let classes ← o.classes.mapM (classDef o.names)
  let builtins ← o.builtins.mapM (builtinDef o.names)
  let offsets ← offsets profile.name (← list o.fields "builtin_class_member_offsets" "schema")
  let globalEnums ← (← list o.fields "global_enums" "schema").mapM (enumeration "global_enums")
  let utilities ← (← list o.fields "utility_functions" "schema").mapM (utility o.names)
  return {
    profile, classes, builtins, offsets, globalEnums, utilities
    sizes := o.sizes
    natives := o.natives
    header := optional o.fields "header" }

end EngineBindings.Schema

namespace EngineBindings

/-- The registry of a document for the build configuration of a given name. -/
def Registry.ofDocument (configuration : String) (document : Json) : Except Fault Registry := do
  let profile ← (Profile.named configuration).mapError .schema
  Registry.build (← Schema.declarations profile document)

end EngineBindings
