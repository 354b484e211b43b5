import EngineBindings.Files.Path
import EngineBindings.OrderedMap

/-! File trees.

A tree maps paths to directories and files; its root is always a directory. Following a path asks
every name on the way to be a directory. The operations are those of a file system, each either
done or refused with a cause. -/
namespace EngineBindings

/-- Why a file operation is refused. -/
inductive FileFault where
  | notFound
  | alreadyExists
  | isADirectory
  | notADirectory
  /-- A name or a whole path of too many bytes. -/
  | nameTooLong
  /-- A directory that cannot be replaced because it is in use. -/
  | busy
  /-- A zero character in a name. -/
  | invalidName
  /-- Access rights that are no rights. -/
  | invalidMode
  /-- A choice of the wrong kind for what is chosen. -/
  | wrongKind
  | unknownEncoding
  | undecodable
  /-- A text that breaks a rule of its encoding, such as one without the signature that it needs. -/
  | illFormed
  | unencodable
  /-- More directories are missing, one in another, than can be made at once. -/
  | tooDeep
  deriving DecidableEq

namespace FileFault

/-- Whether the file system itself is the cause. -/
def isSystem : FileFault → Bool
  | notFound => true
  | alreadyExists => true
  | isADirectory => true
  | notADirectory => true
  | nameTooLong => true
  | busy => true
  | _ => false

end FileFault

/-- An entry of a file tree. -/
inductive Node where
  | directory
  | file (content : ByteArray) (mode : Nat)

/-- A file tree: what lies at each path but the root. -/
structure Tree where
  nodes : OrderedMap Path Node
  /-- The place of the file that a log is written to, if there is one. -/
  log : Option Path := none

namespace Tree

/-- The tree that holds nothing. -/
def empty : Tree := { nodes := .empty }

/-- What lies at a path that goes nowhere up. -/
def node? (t : Tree) (path : Path) : Option Node :=
  if path = [] then some .directory else t.nodes.find? path

/-- Whether a directory lies at a path. -/
def isDirectoryAt (t : Tree) (path : Path) : Bool :=
  match t.node? path with
  | some .directory => true
  | _ => false

/-- Puts an entry at a path. -/
def put (t : Tree) (path : Path) (node : Node) : Tree :=
  { t with nodes := t.nodes.insert path node }

/-- Takes the entry at a path away. -/
def remove (t : Tree) (path : Path) : Tree :=
  { t with nodes := t.nodes.erase path }

/-- Lets an entry take the place of another. A log that lay there goes on out of sight. -/
def replace (t : Tree) (path : Path) (node : Node) : Tree :=
  { t.put path node with log := t.log.filter (· ≠ path) }

/-! ### Following paths -/

/-- The most bytes that a name may have. -/
def maxName : Nat := 255

/-- The most bytes that the text of a path may have. -/
def maxPath : Nat := 4095

/-- Follows names from a directory on; the last one need not exist. -/
def follow (t : Tree) : (base : Path) → Path → Except FileFault Path
  | base, [] => .ok base
  | base, name :: rest =>
    match t.node? base with
    | none => .error .notFound
    | some (.file _ _) => .error .notADirectory
    | some .directory =>
      if name = Path.up then t.follow base.dropLast rest
      else if Text.nameSize name > maxName then .error .nameTooLong
      else t.follow (base ++ [name]) rest

/-- Whether a name holds half of a pair that no name of a file can hold. -/
def isUnnameable (name : String) : Bool :=
  (Text.codesOf name).any fun code => Text.isHalf code && !Text.isByteEscape code

/-- Where a path leads. -/
def locate (t : Tree) (path : Path) : Except FileFault Path :=
  if path.any isUnnameable then .error .unencodable
  else if path.any (·.toList.contains (Char.ofNat 0)) then .error .invalidName
  else if path.size > maxPath then .error .nameTooLong
  else t.follow [] path

/-! ### Operations -/

/-- The content of a file. -/
def read (t : Tree) (path : Path) : Except FileFault ByteArray := do
  match t.node? (← t.locate path) with
  | none => .error .notFound
  | some .directory => .error .isADirectory
  | some (.file content _) => .ok content

/-- Makes a directory in one that exists. -/
def makeDirectory (t : Tree) (path : Path) : Except FileFault Tree := do
  let place ← t.locate path
  match t.node? place with
  | some _ => .error .alreadyExists
  | none => .ok (t.put place .directory)

/-- Whether a path leads to a directory. -/
def leadsToDirectory (t : Tree) (path : Path) : Bool :=
  match t.locate path with
  | .ok place => t.isDirectoryAt place
  | .error _ => false

/-- Makes a directory and those above it that are missing; one that exists is left as it is. The
path comes in reverse. What has been made before a refusal stays. -/
def makeDirectories (t : Tree) : (reversed : Path) → Tree × Except FileFault Unit
  | [] => (t, .ok ())
  | name :: above =>
    let path := (name :: above).reverse
    let excuse (t : Tree) (fault : FileFault) : Tree × Except FileFault Unit :=
      if t.leadsToDirectory path then (t, .ok ()) else (t, .error fault)
    match t.makeDirectory path with
    | .ok made => (made, .ok ())
    | .error .notFound =>
      match t.makeDirectories above with
      | (t, .error fault) => (t, .error fault)
      | (t, .ok ()) =>
        match t.makeDirectory path with
        | .ok made => (made, .ok ())
        | .error .notFound => (t, .error .notFound)
        | .error fault => excuse t fault
    | .error fault => excuse t fault

/-- How many directories are missing from a path upwards. The path comes in reverse. -/
def missing (t : Tree) : (reversed : Path) → Nat
  | [] => 0
  | name :: above =>
    match t.makeDirectory (name :: above).reverse with
    | .error .notFound => t.missing above + 1
    | _ => 0

/-- The most directories, one in another, that are made at once: each waits for the one above it,
and the waiting runs are limited. -/
def maxMissing : Nat := 980

/-- Makes a directory and those above it that are missing, or none if too many of them are. -/
def ensureDirectory (t : Tree) (path : Path) : Tree × Except FileFault Unit :=
  if maxMissing < t.missing path.reverse then (t, .error .tooDeep)
  else t.makeDirectories path.reverse

/-- Opens a file for writing, which empties it; gives the place it lies at. -/
def truncate (t : Tree) (path : Path) (mode : Nat) : Except FileFault (Path × Tree) := do
  let place ← t.locate path
  match t.node? place with
  | some .directory => .error .isADirectory
  | some (.file _ mode) => .ok (place, t.put place (.file ByteArray.empty mode))
  | none => .ok (place, t.put place (.file ByteArray.empty mode))

/-! ### Listing -/

/-- All entries, in ascending order of their paths' texts. -/
def listing (t : Tree) : List (Path × Node) :=
  t.nodes.entries.mergeSort fun a b => decide (Text.join "/" a.1 ≤ Text.join "/" b.1)

end Tree

end EngineBindings
