import EngineBindings.Registry.Basic

/-! Building a registry.

The checks come in a fixed order: distinct class names, known parents, names of enumerations,
the header, and last that no chain of parents returns to where it started. -/
namespace EngineBindings

/-- What a schema declares for one build configuration, before anything is checked across
declarations. -/
structure Declarations where
  profile : Profile
  classes : List ClassDef
  builtins : List BuiltinDef
  sizes : OrderedMap Name Int
  offsets : OrderedMap Name (List MemberOffset)
  globalEnums : List EnumDef
  utilities : List UtilityDef
  natives : List NativeStructure
  header : Json

namespace Declarations

/-- No two classes share a name. `seen` holds the names of the classes before. -/
def checkDistinct : (seen : List Name) → List ClassDef → Except SchemaFault Unit
  | _, [] => .ok ()
  | seen, c :: rest =>
    if seen.contains c.name then .error (.duplicateClass c.name.display)
    else checkDistinct (c.name :: seen) rest

/-- The parent of a class is declared. -/
def checkParent (classes : List ClassDef) (c : ClassDef) : Except Fault Unit :=
  match c.parent with
  | none => .ok ()
  | some parent => do
    let parent ← parent.keyed.mapError .value
    if classes.any (·.name == parent) then return ()
    else throw (.schema (.unknownParent c.name.display parent.display))

/-- The table of enumerations: global ones, then those of classes, which replace an entry of the
same name, then those of builtins, which do not. -/
def enumTable (d : Declarations) : OrderedMap Name EnumDef :=
  let owned (owner : Name) (enums : List EnumDef) : List (Name × EnumDef) :=
    enums.map fun e => (e.ownedName owner, e)
  let table := OrderedMap.ofList (d.globalEnums.map fun e => (e.name, e))
  let table := table.insertAll (d.classes.flatMap fun c => owned c.name c.enums)
  (d.builtins.flatMap fun b => owned b.name b.enums).foldl
    (fun table entry => table.insertNew entry.1 entry.2) table

/-! ### The header -/

/-- A header entry given as a sequence of two values. -/
def headerEntry : Json → Except ValueFault (Name × Json)
  | .arr [key, value] => (Name.keyed ⟨key⟩).map (·, value)
  | .arr _ => .error .wrongItemCount
  | .obj [(key, _), (value, _)] => .ok (key, .str value)
  | .obj _ => .error .wrongItemCount
  | .str s =>
    match s.toList with
    | [key, value] => .ok (String.singleton key, .str (String.singleton value))
    | _ => .error .wrongItemCount
  | _ => .error .headerNotPairs

/-- The entries of a header: an object, or a list of pairs; a value that is not given is empty. -/
def headerEntries (header : Json) : Except ValueFault (OrderedMap Name Json) :=
  if header.isTruthy then
    match header with
    | .obj fields => .ok (.ofList (fields.map fun field => (field.1, field.2)))
    | .arr items => (items.mapM headerEntry).map .ofList
    | .str _ => .error .wrongItemCount
    | _ => .error .headerNotPairs
  else .ok .empty

end Declarations

/-- The registry of a set of declarations. -/
def Registry.build (d : Declarations) : Except Fault Registry := do
  (Declarations.checkDistinct [] d.classes).mapError .schema
  d.classes.forM (Declarations.checkParent d.classes)
  if d.globalEnums.any (·.name.isComposite) then throw (.value .compositeName)
  let header ← (Declarations.headerEntries d.header).mapError .value
  d.classes.forM fun c => (ancestorsOf d.classes c.name).mapError .schema |>.map fun _ => ()
  return {
    profile := d.profile
    classes := d.classes
    builtins := d.builtins
    globalEnums := d.globalEnums
    utilities := d.utilities
    natives := d.natives
    header := header
    sizes := d.sizes
    offsets := d.offsets
    enums := d.enumTable }

end EngineBindings
