import EngineBindings.Name

/-! Layouts of fixed size.

A layout lists fields at declared offsets inside a declared number of bytes. `specs` covers every
one of those bytes: it puts the fields in order of their offsets, fills each gap with padding
named for the place where it starts, and refuses fields that overlap or run past the end. A
layout without fields is opaque storage. Places and sizes are whole numbers of bytes wherever a
layout comes from a schema, but nothing here depends on that. -/
namespace EngineBindings

open EngineBindings.Number (Measured)

/-- A field at a declared offset. -/
structure LayoutField (N : Type) where
  name : Name
  offset : N
  /-- The number of bytes the field takes. -/
  size : N
  /-- The name of the scalar that a field holds. -/
  scalar : Option Name
  /-- The value type that a field holds if it is no scalar. -/
  nested : Option Name

/-- Fields inside a declared number of bytes. -/
structure Layout (N : Type) where
  /-- The schema's name for the value type. -/
  name : Name
  /-- The name in emitted code. -/
  host : Name
  /-- The declared size, in bytes. -/
  size : N
  fields : List (LayoutField N)

/-- What an entry of a covered layout holds. -/
inductive SpecContent (N : Type) where
  | scalar (type : Name)
  | nested (type : Option Name)
  | bytes (count : N)

/-- An entry of a covered layout. -/
structure FieldSpec (N : Type) where
  name : Name
  content : SpecContent N

variable {N : Type}

/-- What a field holds. -/
def LayoutField.spec (f : LayoutField N) : FieldSpec N :=
  ⟨f.name, match f.scalar with
    | some type => .scalar type
    | none => .nested f.nested⟩

/-- A layout without fields. -/
def Layout.isOpaque (l : Layout N) : Bool :=
  l.fields.isEmpty

variable [Add N] [Sub N] [LT N] [DecidableLT N] [Measured N]

/-- Padding from one place to another, if there is any to fill. -/
def padding (start stop : N) : List (FieldSpec N) :=
  if start < stop then
    [⟨("_pad" ++ (Measured.quantity start).text : String), .bytes (stop - start)⟩]
  else []

namespace Layout

/-- Covers the bytes from `cursor` to the end with fields given in order of their offsets. -/
def cover (l : Layout N) :
    (cursor : N) → List (LayoutField N) → Except LayoutFault (List (FieldSpec N))
  | cursor, [] =>
    if l.size < cursor then
      .error (.tooLong l.name.display (Measured.quantity cursor) (Measured.quantity l.size))
    else .ok (padding cursor l.size)
  | cursor, f :: rest =>
    if f.offset < cursor then
      .error (.overlap l.name.display f.name.display (Measured.quantity f.offset))
    else (l.cover (f.offset + f.size) rest).map fun specs =>
      padding cursor f.offset ++ f.spec :: specs

/-- The fields in order of their offsets; fields at one offset keep their order. -/
def sortedFields (l : Layout N) : List (LayoutField N) :=
  l.fields.mergeSort fun a b => !decide (b.offset < a.offset)

/-- Storage of a given size that nothing is known of, if there is any. -/
def unknownStorage [DecidableEq N] (size : N) : List (FieldSpec N) :=
  if size = Measured.zero then [] else [⟨("_opaque" : String), .bytes size⟩]

/-- Entries that cover every byte of the layout. -/
def specs [DecidableEq N] (l : Layout N) : Except LayoutFault (List (FieldSpec N)) :=
  if l.isOpaque then .ok (unknownStorage l.size) else l.cover Measured.zero l.sortedFields

end Layout

end EngineBindings
