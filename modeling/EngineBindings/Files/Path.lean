import EngineBindings.Text.HalfPair
import EngineBindings.Text.Segment

/-! Paths.

A path is the list of names from the root of a file tree down. A relative one is put behind the
directory it is relative to. Names of a single dot and empty names say nothing and are left out;
a name of two dots goes up, either at once (`collapse`) or when the path is followed. -/
namespace EngineBindings

open EngineBindings.Text

/-- The names from the root down. -/
abbrev Path := List String

namespace Path

/-- The name that goes up. -/
def up : String := ".."

/-- The names between slashes that say something. -/
def parts (s : String) : List String :=
  (splitFields '/' s).filter fun name => !name.isEmpty && name ≠ "."

/-- Whether a text names a path from the root. -/
def isAbsolute (s : String) : Bool :=
  startsWith s "/"

/-- The path that a text names, seen from a directory. -/
def ofText (cwd : Path) (s : String) : Path :=
  if isAbsolute s then parts s else cwd ++ parts s

/-- Follows one name, without asking whether the directories exist. -/
def collapseStep (path : Path) (name : String) : Path :=
  if name = up then path.dropLast else path ++ [name]

/-- A path with every name that goes up carried out. -/
def collapse (path : Path) : Path :=
  path.foldl collapseStep []

/-- The text of a path from the root. -/
def text (path : Path) : String :=
  "/" ++ join "/" path

/-- How many bytes the text of a path has. -/
def size : Path → Nat
  | [] => 0
  | name :: rest => nameSize name + 1 + size rest

theorem size_append (path rest : Path) : size (path ++ rest) = path.size + rest.size := by
  induction path with
  | nil => exact (Nat.zero_add _).symm
  | cons name path ih =>
    rw [List.cons_append, size, ih, size]
    omega

/-- A text that names a path, without what says nothing. -/
def normalized (s : String) : String :=
  let body := join "/" (parts s)
  if startsWith s "//" && !startsWith s "///" then "//" ++ body
  else if isAbsolute s then "/" ++ body
  else if body.isEmpty then "."
  else body

/-- The directory that a path lies in. -/
def parent (path : Path) : Path := path.dropLast

/-- The last name of a path, empty for the root. -/
def name (path : Path) : String := path.getLastD ""

end Path

end EngineBindings
