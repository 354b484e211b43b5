import EngineBindings.Plan.Trampoline

/-! Properties.

A property is emitted when its getter and its setter are methods of the class, take as many
arguments as a property can pass and are emitted themselves. The bound methods that serve an
emitted property are hidden behind private names. Any other property is left out with the
reason. -/
namespace EngineBindings

open EngineBindings.Code EngineBindings.Text

/-- The plan of a property. -/
structure PropertyAccessor where
  owner : Name
  property : PropertyDef
  exposedName : String
  target : Target
  getter : MethodDef
  setter : MethodDef
  /-- The names under which the accessors are emitted. -/
  getterName : String
  setterName : String
  /-- What tells the property apart from others with the same accessors. -/
  index : Option Expr
  /-- The value as the setter takes it. -/
  value : Expr
  requires : List Requirement

namespace PropertyAccessor

/-- The body of the emitted getter. -/
def getterBody (p : PropertyAccessor) : List Stmt :=
  [.result (.invoke (.attr (.name "self") p.getterName) p.index.toList)]

/-- The body of the emitted setter. -/
def setterBody (p : PropertyAccessor) : List Stmt :=
  [.exec (.invoke (.attr (.name "self") p.setterName) (p.index.toList ++ [p.value]))]

end PropertyAccessor

/-- Why a method is not emitted, if it is not. -/
abbrev EmittableCheck := MethodDef → Except Fault (Option String)

/-- The plans of a class's properties. -/
structure PropertySet where
  accessors : List PropertyAccessor
  diagnostics : List Diagnostic
  /-- The names of the methods that serve an emitted property. -/
  referenced : List Name

/-- The first accessor that is not emitted, with the reason. -/
def unemitted (check : EmittableCheck) : List MethodDef → Except Fault (Option String)
  | [] => .ok none
  | m :: rest => do
    match ← check m with
    | some reason => return some ("accessor '" ++ m.name.display ++ "' is not emitted (" ++ reason ++ ")")
    | none => unemitted check rest

/-- The getter that a property names, or why it cannot be used. -/
def findGetter (c : ClassDef) (p : PropertyDef) : Except Fault (Except String MethodDef) :=
  match p.getter with
  | .str name =>
    if name.isEmpty then .ok (.error "property has no getter")
    else if startsWith name "_" then .ok (.error ("getter '" ++ name ++ "' is not public"))
    else
      match c.method? name with
      | some getter => .ok (.ok getter)
      | none => .ok (.error ("getter '" ++ name ++ "' not found"))
  | _ => .error (.value .notText)

/-- The setter that a property names, or why it cannot be used. -/
def findSetter (c : ClassDef) (p : PropertyDef) : Except String MethodDef :=
  match p.setter with
  | none => .error "read-only property"
  | some value =>
    match c.method? ⟨value⟩ with
    | some setter => .ok setter
    | none => .error ("setter '" ++ value.display ++ "' not found")

/-- Why a pair of accessors takes or returns the wrong number of values, if it does. -/
def arityObstacle (getter setter : MethodDef) : Option String :=
  let takes (role : String) (m : MethodDef) :=
    some (role ++ " '" ++ m.name.display ++ "' takes " ++ Number.decimal m.arguments.length ++
      " arguments")
  if getter.arguments.length > 1 then takes "getter" getter
  else if setter.arguments.length > 2 then takes "setter" setter
  else if getter.result?.isNone then some ("getter '" ++ getter.name.display ++ "' returns nothing")
  else none

/-- The accessors of a property that can be emitted, or why it cannot. -/
def propertyAccessors (c : ClassDef) (check : Option EmittableCheck) (p : PropertyDef) :
    Except Fault (Except String (MethodDef × MethodDef)) := do
  match ← findGetter c p with
  | .error reason => return .error reason
  | .ok getter =>
    match findSetter c p with
    | .error reason => return .error reason
    | .ok setter =>
      match arityObstacle getter setter with
      | some reason => return .error reason
      | none =>
        match check with
        | none => return .ok (getter, setter)
        | some check =>
          match ← unemitted check [getter, setter] with
          | some reason => return .error reason
          | none => return .ok (getter, setter)

namespace Registry

/-- The index that a property passes to its accessors: the number itself, or a value of the
getter's argument type made from it. -/
def propertyIndex (r : Registry) (p : PropertyDef) (getter : MethodDef) :
    Except Fault (Option (Expr × List Requirement)) :=
  match p.index, getter.arguments with
  | some index, a :: _ => do
    let number := Expr.literal (Number.decimal index)
    match ← r.argumentTarget a .member with
    | .int _ _ => return some (number, [])
    | target => return some (.apply target.host [number], target.requirements)
  | _, _ => .ok none

/-- The value as the setter takes it. A property that reads as a name is written as a text where
the setter takes one. -/
def propertyValue (r : Registry) (target : Target) (setter : MethodDef) :
    Except Fault (Expr × List Requirement) :=
  let value := Expr.name "value"
  match setter.arguments.getLast? with
  | none => .ok (value, [])
  | some a => do
    match ← r.argumentTarget a .member with
    | .string =>
      if target.source = "StringName" then
        return (.apply "GString" [.apply "str" [value]], [⟨.runtime, "GString"⟩])
      else return (value, [])
    | _ => return (value, [])

/-- The plan of a property with usable accessors. -/
def propertyAccessor (r : Registry) (c : ClassDef) (referenced : List Name) (p : PropertyDef)
    (getter setter : MethodDef) : Except Fault PropertyAccessor := do
  let target ← r.resultTarget getter .member
  let index ← r.propertyIndex p getter
  let (value, valueRequires) ← r.propertyValue target setter
  let indexRequires := match index with
    | some (_, requires) => requires
    | none => []
  let exposedName ← p.name.sanitize.mapError .value
  let getterName ← (accessorName getter referenced).mapError .value
  let setterName ← (accessorName setter referenced).mapError .value
  return {
    target, getter, setter, value, exposedName, getterName, setterName
    owner := c.name
    property := p
    index := index.map (·.1)
    requires := (target.requirements ++ indexRequires ++ valueRequires).filter
      (!·.isClass c.name) }

/-- The accessors of a property that can be emitted, whose names can be looked up, or why it
cannot. -/
def acceptProperty (c : ClassDef) (check : Option EmittableCheck) (p : PropertyDef) :
    Except Fault (Except String (MethodDef × MethodDef)) := do
  let outcome ← propertyAccessors c check p
  match outcome with
  | .ok (getter, setter) =>
    let _ ← [getter.name, setter.name].mapM (·.keyed.mapError Fault.value)
    return outcome
  | .error _ => return outcome

/-- The plans of a class's properties. All are checked before the first is planned, since a name
is hidden as soon as any emitted property uses it. -/
def properties (r : Registry) (c : ClassDef) (check : Option EmittableCheck) :
    Except Fault PropertySet := do
  let outcomes ← c.properties.mapM fun p => return (p, ← acceptProperty c check p)
  let accepted := outcomes.filterMap fun outcome =>
    outcome.2.toOption.map fun accessors => (outcome.1, accessors)
  let diagnostics := outcomes.filterMap fun outcome =>
    match outcome.2 with
    | .error reason => some ⟨c.name, outcome.1.name, reason⟩
    | .ok _ => none
  let referenced := accepted.flatMap fun entry => [entry.2.1.name, entry.2.2.name]
  let accessors ← accepted.mapM fun entry =>
    r.propertyAccessor c referenced entry.1 entry.2.1 entry.2.2
  return { accessors, diagnostics, referenced }

end Registry

end EngineBindings
