import EngineBindings.Target.Default
import EngineBindings.Text.Literal

/-! Bindings: calls from emitted code into the engine.

A method that carries a hash is bound. Its binding has a slot for every declared argument, in
order: statements that prepare the argument before the call and an expression for the address
that goes into the pointer array. A method that returns a value also has storage for it, the
storage's address and an expression that unwraps it. A method that takes any number of
arguments, or whose signature holds a raw pointer, is not bound; its binding gives the reason. -/
namespace EngineBindings

open EngineBindings.Code EngineBindings.Text

/-! ### The parts of a binding -/

/-- How an argument reaches the engine. -/
inductive Passing where
  /-- By the address of a copy. -/
  | copy
  /-- By the address of the value's own content. -/
  | contentPointer
  /-- By the address of a cell that holds the object's handle. -/
  | handle
  deriving DecidableEq

/-- One argument of a binding. -/
structure ArgSlot where
  name : String
  /-- The type as the schema spells it. -/
  schemaType : String
  target : Target
  passing : Passing
  /-- What is done before the call. -/
  setup : List Stmt
  /-- The address handed to the engine. -/
  native : Expr
  /-- The literal that stands for a missing argument. -/
  default : Option String

/-- An argument in a parameter list. -/
def ArgSlot.signature (a : ArgSlot) : String :=
  let text := a.name ++ ": " ++ a.target.annotation
  match a.default with
  | some literal => text ++ " = " ++ literal
  | none => text

/-- How a result comes back. -/
structure ReturnPlan where
  target : Target
  /-- The value that the storage has before the call. -/
  storage : Expr
  /-- The address handed to the engine. -/
  pointer : Expr
  /-- The unwrapped result. -/
  unwrapped : Expr

/-- The name of a result's storage. -/
def resultName : String := "_result"

/-- The name of a pointer array. -/
def arrayName : String := "_args"

/-- The statement that makes the storage. -/
def ReturnPlan.store (r : ReturnPlan) : Stmt :=
  .assign resultName r.storage

/-- Where a callable lives, which decides how the engine is called. -/
inductive BindingKind where
  | method
  | utility
  /-- A method of a builtin, on the class `holder` of emitted code. -/
  | builtin (holder : Name) (isStruct : Bool)

/-- Whether a callable is a utility function. -/
def BindingKind.isUtility : BindingKind → Bool
  | utility => true
  | _ => false

/-- The plan of a call into the engine. -/
structure MethodBinding where
  owner : Name
  method : MethodDef
  /-- The name under which the callable is emitted. -/
  exposedName : String
  /-- The name of the attribute that holds the engine's handle of the callable. -/
  handleName : String
  isPrivate : Bool
  kind : BindingKind
  args : List ArgSlot
  ret : Option ReturnPlan
  /-- Why the callable is not bound, if it is not. -/
  unsupported : Option String
  /-- The symbols that the emitted callable imports. -/
  requires : List Requirement

namespace MethodBinding

/-- The class that carries the handle of a builtin method; empty for other callables. -/
def holder (b : MethodBinding) : Name :=
  match b.kind with
  | .builtin holder _ => holder
  | _ => ""

/-- The address of the object that a method is called on. -/
def receiver (b : MethodBinding) : Expr :=
  match b.kind with
  | .builtin _ true => .invoke (.native "addressof") [.name "self"]
  | .builtin _ false => .invoke (.native "addressof") [.attr (.name "self") "content"]
  | _ => .attr (.name "self") "handle"

/-- The identity of a binding by its signature. -/
def coverKey (b : MethodBinding) : String :=
  b.owner.display ++ "." ++ b.method.name.display ++ "(" ++
    join ", " (b.method.arguments.map fun a => a.type.spelling) ++ ") -> " ++
    b.method.resultSpelling

/-- Whether the callable receives an object. -/
def hasReceiver (b : MethodBinding) : Bool :=
  !b.method.isStatic && !b.kind.isUtility

/-- The parameters of the emitted callable. -/
def parameterList (b : MethodBinding) : String :=
  let params := b.args.map ArgSlot.signature
  join ", " (if b.hasReceiver then "self" :: params else params)

/-- The type of the emitted callable's result. -/
def returnAnnotation (b : MethodBinding) : String :=
  match b.ret with
  | some ret => ret.target.annotation
  | none => "None"

/-- The pointer array of a call with arguments. -/
def pointerArray (b : MethodBinding) : Expr :=
  .invoke (.cells (.native "c_void_p") b.args.length) (b.args.map (·.native))

/-- The call into the engine. -/
def call (b : MethodBinding) : Expr :=
  let args := if b.args.isEmpty then Expr.none else .name arrayName
  let ret := match b.ret with
    | some ret => ret.pointer
    | none => .none
  let instance_ := if b.method.isStatic then Expr.none else b.receiver
  let count := Expr.literal (Number.decimal b.args.length)
  let resolved (target : Expr) : Expr := .invoke (.attr target "resolve") []
  let engine (function : String) (arguments : List Expr) : Expr :=
    .invoke (.attr (.name "gi") function) arguments
  match b.kind with
  | .method =>
    engine "object_method_bind_ptrcall"
      [resolved (.attr (.name b.owner.display) b.handleName), instance_, args, ret]
  | .utility =>
    engine "call_utility_function" [resolved (.name b.handleName), ret, args, count]
  | .builtin holder _ =>
    engine "call_builtin_method_ptr"
      [resolved (.attr (.name holder.display) b.handleName), instance_, args, ret, count]

/-- The body of the emitted callable: the arguments' preparations in order, the pointer array,
the storage of the result, the call, the unwrapped result. -/
def body (b : MethodBinding) : List Stmt :=
  b.args.flatMap (·.setup) ++
    (if b.args.isEmpty then [] else [.assign arrayName b.pointerArray]) ++
    (match b.ret with
      | some ret => [ret.store]
      | none => []) ++
    [.exec b.call] ++
    (match b.ret with
      | some ret => [.result ret.unwrapped]
      | none => [])

/-- The lines of the body. -/
def bodyLines (b : MethodBinding) : List String :=
  linesOf b.body

end MethodBinding

/-! ### Names -/

/-- The name under which a method is emitted. A bound method that serves a property is hidden
behind a private name. -/
def accessorName (m : MethodDef) (referenced : List Name) : Except ValueFault String :=
  if m.hash.isSome then do
    let name ← m.name.keyed
    if referenced.contains name then return "__" ++ name.display else name.sanitize
  else m.name.sanitize

/-- The class of emitted code that carries the methods of a builtin. -/
def builtinHolder (host : Name) (isStruct : Bool) : Name :=
  if isStruct then host else (host.display ++ "Methods" : String)

/-! ### Planning -/

/-- Why a method cannot cross the interface at all, if it cannot. -/
def signatureObstacle (m : MethodDef) : Option String :=
  if m.isVararg then some "variadic methods are not bound"
  else
    match m.arguments.find? (·.type.containsPointer) with
    | some a => some ("argument '" ++ a.name.display ++ "' is a raw pointer (" ++ a.type.spelling ++ ")")
    | none =>
      match m.result?.filter (·.containsPointer) with
      | some type => some ("return type is a raw pointer (" ++ type.spelling ++ ")")
      | none => none

/-- The literal that an argument's default value becomes, if it has a usable one: the missing
value for an object, a plain literal that is no text for a scalar or an enumeration. -/
def defaultLiteral (a : ArgumentDef) (target : Target) : Except Fault (Option String) :=
  match a.defaultValue with
  | .null => .ok none
  | .str text =>
    .ok ((literal? text).filter fun literal =>
      if target.isObject then literal = "None"
      else (target.isScalar || target.isEnumeration) && literal ≠ "None" &&
        !startsWith literal "\"")
  | _ => .error (.value .notText)

/-- Gives defaults to arguments taken from the last one on, up to the first without a usable
literal. -/
def attachDefaults : List (ArgumentDef × ArgSlot) → Except Fault (List ArgSlot)
  | [] => .ok []
  | (a, slot) :: rest => do
    match ← defaultLiteral a slot.target with
    | none => return slot :: rest.map (·.2)
    | some literal => return { slot with default := some literal } :: (← attachDefaults rest)

namespace Registry

/-- The slot of an argument, without a default. -/
def argSlot (r : Registry) (use : TypeUse) (a : ArgumentDef) : Except Fault ArgSlot := do
  let name ← a.name.sanitize.mapError .value
  let target ← r.argumentTarget a use
  let value := Expr.name name
  let boxed (cell : String) (box : Expr) (passing : Passing) : ArgSlot :=
    { name, target, passing
      schemaType := a.type.spelling
      setup := [.assign cell box]
      native := .invoke (.native "addressof") [.name cell]
      default := none }
  if r.needsCopy a.type then
    let cell := "copy_" ++ name
    match target.scalar? with
    | some scalar =>
      if target.isEnumeration then
        return boxed cell (.invoke (.native "c_int64") [.apply "int" [value]]) .copy
      else return boxed cell (.invoke (.native scalar.name) [value]) .copy
    | none =>
      return boxed cell (.invoke (.attr (.name target.host) "from_buffer_copy") [value]) .copy
  else if target.isObject then
    let handle := Expr.choose .none (.isNone value) (.attr value "handle")
    return boxed ("handle_" ++ name) (.invoke (.native "c_void_p") [handle]) .handle
  else
    return {
      name, target
      schemaType := a.type.spelling
      passing := .contentPointer
      setup := []
      native := .invoke (.native "addressof") [.attr value "content"]
      default := none }

/-- The slots of a method's arguments; the last ones with defaults, as far as every argument
behind them has one too. -/
def argSlots (r : Registry) (use : TypeUse) (args : List ArgumentDef) :
    Except Fault (List ArgSlot) := do
  let slots ← args.mapM (r.argSlot use)
  let attached ← attachDefaults (args.zip slots).reverse
  return attached.reverse

/-- How a result of a given type comes back. -/
def returnPlan (r : Registry) (use : TypeUse) (m : MethodDef) (type : TypeRef) :
    Except Fault ReturnPlan := do
  let target ← r.target type m.returnTag use
  let zero ← r.defaultValue type
  let cell := Expr.name resultName
  let value := Expr.attr cell "value"
  let reference := Expr.invoke (.native "byref") [cell]
  match target with
  | .enum _ host _ | .bitfield _ host _ =>
    return ⟨target, .invoke (.native "c_int64") [.apply "int" [zero]], reference,
      .apply host [value]⟩
  | .typedArray element _ =>
    return ⟨target, ← r.storage "Array", reference,
      .call (.name "GodotCollection")
        (.cons none (.name element.host) (.cons (some "content") cell .nil))⟩
  | .object name _ =>
    let wrapped :=
      if r.hasSubclasses name then Expr.apply "lookup_object" [value]
      else .call (.name name) (.cons (some "native_handle") value .nil)
    return ⟨target, .invoke (.native "c_void_p") [], reference, .choose wrapped value .none⟩
  | _ =>
    match target.scalar? with
    | some scalar => return ⟨target, .invoke (.native scalar.name) [zero], reference, value⟩
    | none =>
      if target.isStruct then return ⟨target, zero, reference, cell⟩
      else
        return ⟨target, zero, .invoke (.native "byref") [.attr cell "content"], cell⟩

/-- The symbols that a call needs: those of its arguments and its result, without the class that
it is emitted in. A class with subclasses is looked up rather than constructed. -/
def callRequirements (r : Registry) (owner : Name) (args : List ArgSlot)
    (ret : Option ReturnPlan) : List Requirement :=
  let result := match ret with
    | some ret =>
      ret.target.requirements ++
        (match ret.target with
          | .object name _ =>
            if r.hasSubclasses name then [⟨.runtime, "lookup_object"⟩] else []
          | _ => [])
    | none => []
  (args.flatMap (·.target.requirements) ++ result).filter (!·.isClass owner)

/-- The binding of a callable. -/
def planCall (r : Registry) (owner : Name) (m : MethodDef) (exposedName handleName : String)
    (isPrivate : Bool) (kind : BindingKind) (use : TypeUse) : Except Fault MethodBinding := do
  let bare : MethodBinding :=
    { owner, exposedName, handleName, isPrivate, kind
      method := m
      args := []
      ret := none
      unsupported := signatureObstacle m
      requires := [] }
  if bare.unsupported.isSome then return bare
  else
    let args ← r.argSlots use m.arguments
    let ret ← match m.result? with
      | some type => (r.returnPlan use m type).map some
      | none => pure none
    return { bare with args, ret, requires := r.callRequirements owner args ret }

/-- The binding of a class method. `referenced` names the methods that serve a property. -/
def bindMethod (r : Registry) (c : ClassDef) (m : MethodDef) (referenced : List Name) :
    Except Fault MethodBinding := do
  let exposed ← (accessorName m referenced).mapError .value
  r.planCall c.name m exposed ("_method_" ++ m.name.display) (startsWith exposed "__") .method
    .member

/-- The binding of a utility function. -/
def bindUtility (r : Registry) (u : UtilityDef) : Except Fault MethodBinding := do
  let exposed ← u.name.sanitize.mapError .value
  r.planCall "utility" u.asMethod exposed ("_utility_" ++ u.name.display) false .utility .builtin

/-- The binding of a builtin method. A structure is passed by its own address, a value behind a
handle by the address of its content. -/
def bindBuiltin (r : Registry) (b : BuiltinDef) (m : MethodDef) :
    Except Fault MethodBinding := do
  let holder := builtinHolder (builtinHost b.name) b.isStruct
  let exposed ← m.name.sanitize.mapError .value
  r.planCall b.name m exposed ("_method_" ++ m.name.display) false (.builtin holder b.isStruct)
    .builtin

end Registry

end EngineBindings
