import EngineBindings.Plan.Binding
import EngineBindings.Registry.Basic

/-! Trampolines: calls from the engine into emitted code.

The engine calls a virtual method through a proxy, a function of the object's address, an array
of argument slots and a slot for the result. The proxy finds the object, reads every slot, calls
the method and stores what it returns. A class lists its proxies in a dispatch table; a method
that the table does not have is looked for in the parent's. Types that cannot be read from a
slot make a method unfit, and it is left out with the reason. -/
namespace EngineBindings

open EngineBindings.Code EngineBindings.Text

/-! ### The parts of a trampoline -/

/-- An argument that is read from a slot. -/
structure TrampolineArg where
  name : String
  target : Target
  load : List Stmt

/-- The plan of a virtual method and its proxy. -/
structure Trampoline where
  owner : Name
  method : MethodDef
  /-- The name of the overridable method. -/
  exposedName : String
  /-- The name of the proxy. -/
  proxyName : String
  args : List TrampolineArg
  ret : Option Target
  /-- How the result reaches its slot. -/
  store : List Stmt
  /-- What the method returns when it is not overridden. -/
  default : Option Expr
  requires : List Requirement

namespace Trampoline

/-- The parameters of the overridable method. -/
def parameterList (t : Trampoline) : String :=
  join ", " ("self" :: t.args.map fun a => a.name ++ ": " ++ a.target.annotation)

/-- The type of its result. -/
def returnAnnotation (t : Trampoline) : String :=
  match t.ret with
  | some target => target.annotation
  | none => "None"

/-- The body of the method when it is not overridden. -/
def baseBody (t : Trampoline) : List Stmt :=
  match t.default with
  | some value => [.result value]
  | none => [.pass]

/-- The call of the override. -/
def call (t : Trampoline) : Expr :=
  .invoke (.attr (.name "target") t.exposedName) (t.args.map fun a => .name a.name)

/-- The body of the proxy. -/
def proxyBody (t : Trampoline) : List Stmt :=
  [.stopUnless (.name "instance"),
   .assign "target" (.apply "instance_from_handle" [.name "instance"]),
   .stopIfNone (.name "target")] ++
    (if t.args.isEmpty then []
     else
      [.assign "_slots"
        (.apply "slot_addresses" [.name "args", .literal (Number.decimal t.args.length)])]) ++
    t.args.flatMap (·.load) ++
    (match t.ret with
      | some _ => .assign "result" t.call :: t.store
      | none => [.exec t.call])

/-- The proxy's first line. -/
def proxyHead (t : Trampoline) : String :=
  "def " ++ t.proxyName ++ "(instance, args, ret_ptr):"

/-- The proxy's lines. -/
def proxyLines (t : Trampoline) : List String :=
  t.proxyHead :: (linesOf t.proxyBody).map ("    " ++ ·)

end Trampoline

/-! ### Planning -/

/-- Why an argument of a virtual method cannot be read from a slot, if it cannot. -/
def argumentObstacle (a : ArgumentDef) (target : Target) : Option String :=
  let unfit (kind : String) :=
    some ("virtual argument '" ++ a.name.display ++ "' of " ++ kind ++ " type is not supported")
  match target with
  | .enum _ _ _ => unfit "enum"
  | .bitfield _ _ _ => unfit "bitfield"
  | .typedArray _ _ => unfit "typed array"
  | .string => unfit "string"
  | other => if other.source = "Dictionary" then unfit "dictionary" else none

/-- A slot at an address, with a capacity in bytes. -/
def slotAt (address capacity : Expr) : Expr :=
  .invoke (.attr (.name "SlotBuffer") "at") [address, capacity]

/-- A method of a slot. -/
def slotCall (slot : Expr) (method : String) (arguments : List Expr) : Expr :=
  .invoke (.attr slot method) arguments

/-- The capacity of a scalar's slot. -/
def scalarCapacity (scalar : Scalar) : Expr :=
  .invoke (.native "sizeof") [.native scalar.name]

namespace Registry

/-- The first obstacle among the arguments of a virtual method. -/
def argumentsObstacle (r : Registry) : List ArgumentDef → Except Fault (Option String)
  | [] => .ok none
  | a :: rest => do
    match argumentObstacle a (← r.argumentTarget a .member) with
    | some reason => return some reason
    | none => r.argumentsObstacle rest

/-- Why a virtual method is left out, if it is. -/
def rejection (r : Registry) (m : MethodDef) : Except Fault (Option String) :=
  match signatureObstacle m with
  | some reason => .ok (some reason)
  | none => r.argumentsObstacle m.arguments

/-- The statements that read the argument `name` from the slot of the given index. -/
def loadArgument (r : Registry) (name : String) (index : Nat) (target : Target) :
    Except Fault (List Stmt) :=
  let address := Expr.item (.name "_slots") index
  match target with
  | .object host _ =>
    let handle := "_handle_" ++ name
    .ok [
      .assign handle
        (slotCall (slotAt address (.name "POINTER_SIZE")) "load" [.native "c_void_p"]),
      .assign name
        (.choose
          (.orElse (.apply "lookup_live_object" [.name handle])
            (.call (.name host) (.cons (some "native_handle") (.name handle) .nil)))
          (.name handle) .none)]
  | _ =>
    match if target.isScalar then target.scalar? else none with
    | some scalar =>
      .ok [.assign name
        (slotCall (slotAt address (scalarCapacity scalar)) "load" [.native scalar.name])]
    | none => do
      let size ← r.requireSize target.source
      let slot := slotAt address (.literal (Number.decimal size))
      if target.isStruct then
        return [.assign name (slotCall slot "load" [.name target.host])]
      else
        return [.assign name
          (.invoke (.attr (.name target.host) "from_content") [slotCall slot "read" []])]

/-- The statements that put a result into its slot. -/
def storeResult (r : Registry) (target : Target) : Except Fault (List Stmt) :=
  let address := Expr.name "ret_ptr"
  let result := Expr.name "result"
  let content (size : Int) : List Stmt :=
    [.exec (slotCall (slotAt address (.literal (Number.decimal size))) "write"
      [.apply "bytes" [.attr result "content"]])]
  match target with
  | .enum _ _ _ | .bitfield _ _ _ =>
    .ok [.exec (slotCall (slotAt address (.literal "8")) "store"
      [.apply "int" [result], .native "c_int64"])]
  | .object _ _ =>
    .ok [.exec (slotCall (slotAt address (.name "POINTER_SIZE")) "store"
      [.choose .none (.isNone result) (.attr result "handle"), .native "c_void_p"])]
  | .typedArray _ _ => do return content (← r.requireSize "Array")
  | _ =>
    match if target.isScalar then target.scalar? else none with
    | some scalar =>
      .ok [.exec (slotCall (slotAt address (scalarCapacity scalar)) "store"
        [result, .native scalar.name])]
    | none => do
      let size ← r.requireSize target.source
      if target.isStruct then
        return [.exec (slotCall (slotAt address (.literal (Number.decimal size))) "store"
          [result])]
      else return content size

/-- The argument of a trampoline at a given index. -/
def trampolineArg (r : Registry) (a : ArgumentDef) (index : Nat) :
    Except Fault TrampolineArg := do
  let target ← r.argumentTarget a .member
  let name ← a.name.sanitize.mapError .value
  return ⟨name, target, ← r.loadArgument name index target⟩

/-- The arguments of a trampoline, and its result with the statements that store it and the value
that stands in for it. -/
def trampolineSlots (r : Registry) (m : MethodDef) :
    Except Fault (List TrampolineArg × Option (Target × List Stmt × Expr)) := do
  let args ← m.arguments.zipIdx.mapM fun entry => r.trampolineArg entry.1 entry.2
  match m.result? with
  | none => return (args, none)
  | some type =>
    let target ← r.target type m.returnTag .member
    let store ← r.storeResult target
    return (args, some (target, store, ← r.defaultValue type))

/-- The trampoline of a virtual method that nothing keeps out. -/
def trampoline (r : Registry) (c : ClassDef) (m : MethodDef) : Except Fault Trampoline := do
  let (args, ret) ← r.trampolineSlots m
  let exposedName ← m.name.sanitize.mapError .value
  let live (a : TrampolineArg) : List Requirement :=
    if a.target.isObject then [⟨.runtime, "lookup_live_object"⟩] else []
  let requires := args.flatMap fun a => a.target.requirements ++ live a
  let returned := match ret with
    | some (target, _) => target.requirements
    | none => []
  return {
    args, exposedName
    owner := c.name
    method := m
    proxyName := "_" ++ c.name.display ++ "_proxy_" ++ m.name.display
    ret := ret.map (·.1)
    store := (ret.map (·.2.1)).getD []
    default := ret.map (·.2.2)
    requires := (requires ++ returned).filter (!·.isClass c.name) }

/-- The trampoline of a virtual method, or why it is left out. -/
def acceptVirtual (r : Registry) (c : ClassDef) (m : MethodDef) :
    Except Fault (Except Diagnostic Trampoline) := do
  match ← r.rejection m with
  | some reason => return .error ⟨c.name, m.name, reason⟩
  | none => (r.trampoline c m).map .ok

end Registry

/-! ### Dispatch -/

/-- The proxies of the virtual methods that one class declares, by the methods' names. -/
structure DispatchTable where
  owner : Name
  parent : Option Name
  entries : OrderedMap Name Trampoline

namespace DispatchTable

/-- The table of a class; of several methods with one name the last counts. -/
def ofTrampolines (c : ClassDef) (virtuals : List Trampoline) :
    Except ValueFault DispatchTable := do
  let entries ← virtuals.mapM fun t => return (← t.method.name.keyed, t)
  return ⟨c.name, c.parent, .ofList entries⟩

/-- The name of the table in emitted code. -/
def tableName (t : DispatchTable) : String :=
  "_" ++ t.owner.display ++ "_virtuals"

end DispatchTable

/-- The proxy that a method name means, going through tables in order. -/
def firstEntry (tables : List DispatchTable) (method : Name) : List Name → Option Trampoline
  | [] => none
  | name :: rest =>
    match (tables.find? (·.owner == name)).bind (·.entries.find? method) with
    | some found => some found
    | none => firstEntry tables method rest

/-- The proxy that the engine gets for a method of a class: the class's own, or the one of the
nearest ancestor that has one. -/
def Registry.resolveDispatch (r : Registry) (tables : List DispatchTable)
    (className method : Name) : Except Fault (Option Trampoline) := do
  let line := className :: (← (r.ancestors className).mapError .schema)
  if line.any fun name => tables.any (·.owner == name) then
    return firstEntry tables (← method.keyed.mapError .value) line
  else return none

end EngineBindings
