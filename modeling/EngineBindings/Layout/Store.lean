import EngineBindings.Layout.Value

/-! Layouts that are made once.

Several spellings can name one value type, since numbers are the same name however they are
written. A store gives every later request the layout that the first one made. -/
namespace EngineBindings

/-- The layouts that have been made. -/
structure LayoutStore where
  made : List (Layout Int)

namespace LayoutStore

/-- The store that nothing has been asked of. -/
def empty : LayoutStore := ⟨[]⟩

/-- The layout made under a name. -/
def find? (s : LayoutStore) (name : Name) : Option (Layout Int) :=
  s.made.find? (·.name == name)

/-- Keeps a layout, unless there is one under its name. -/
def keep (s : LayoutStore) (l : Layout Int) : LayoutStore :=
  if (s.find? l.name).isSome then s else ⟨s.made ++ [l]⟩

/-- The layout of a value type. -/
def layout (s : LayoutStore) (r : Registry) (name : Name) :
    LayoutStore × Except Fault (Layout Int) :=
  match s.find? name with
  | some made => (s, .ok made)
  | none =>
    match r.layout name with
    | .ok made => (s.keep made, .ok made)
    | .error fault => (s, .error fault)

/-- The layouts of all structures and of what they nest. -/
def structLayouts (s : LayoutStore) (r : Registry) :
    LayoutStore × Except Fault (List (Layout Int)) :=
  match r.structLayouts with
  | .error fault => (s, .error fault)
  | .ok layouts =>
    let first := layouts.map fun l => (s.find? l.name).getD l
    (first.foldl keep s, .ok first)

end LayoutStore

end EngineBindings
