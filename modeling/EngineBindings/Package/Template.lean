import EngineBindings.Files.Path
import EngineBindings.Package.CoreDefs

/-! Templates of package artifacts.

The core definitions, the utility functions and the package's entry are rendered by templates,
found by name. A template of the user's own takes the place of the built-in one of that name. It
is a text in which a name in double braces stands for a value; a name that the artifact does not
offer, and every other construct of the template language, is a fault. -/
namespace EngineBindings.Package

open EngineBindings.Text

/-- What a template is rendered with. -/
inductive Content where
  | core (defs : CoreDefs) (standalone : Bool)
  | utilities (functions : Utilities) (standalone : Bool)
  /-- The package's entry: a header and the names of all classes. -/
  | packageInit (header : String) (classes : List Name)

/-- The lines of the package's entry. -/
def packageInitLines (header : String) (classes : List Name) : List String :=
  [header, "\"\"\"Generated engine bindings.\"\"\"", "",
   "from . import core_defs, utility_functions"] ++
    (if classes.isEmpty then []
     else "from .classes import (" :: (classes.map fun name => "    " ++ name.display ++ ",") ++ [")"]) ++
    ["", "__all__ = [", "    \"core_defs\",", "    \"utility_functions\","] ++
    (classes.map fun name => "    " ++ name.literal ++ ",") ++ ["]"]

/-- Lines as a text that ends with a line end. -/
def textOf (lines : List String) : String :=
  lines.foldl (fun done line => done ++ line ++ "\n") ""

/-- The text values that a template can name. -/
def Content.values : Content → List (String × String)
  | .core defs _ =>
    [("header", defs.header), ("runtime_module", defs.runtimeModule),
     ("abi_module", slotModule), ("build_configuration", defs.configuration)]
  | .utilities functions _ =>
    [("header", functions.header), ("runtime_module", functions.runtimeModule),
     ("abi_module", slotModule)]
  | .packageInit header _ => [("header", header)]

/-! ### Built-in templates -/

/-- The names of the built-in templates. -/
def coreTemplate : String := "core_defs.py.j2"

/-- The built-in template of the utility functions. -/
def utilityTemplate : String := "utility_functions.py.j2"

/-- The built-in template of the package's entry. -/
def initTemplate : String := "package_init.py.j2"

/-- The place of a template below the template directories. A name that goes up has none. -/
def templatePlace? (name : String) : Option String :=
  let parts := Path.parts name
  if parts.contains Path.up then none else some (join "/" parts)

/-- Renders the built-in template at a place, if there is one. Each names values that only its own
artifact offers. -/
def renderBuiltIn? (place : String) (content : Content) : Option (Except TemplateFault String) :=
  if place = coreTemplate then
    match content with
    | .core defs standalone => some (.ok (textOf (defs.lines standalone)))
    | _ => some (.error .undefinedName)
  else if place = utilityTemplate then
    match content with
    | .utilities functions standalone => some (.ok (textOf (functions.lines standalone)))
    | _ => some (.error .undefinedName)
  else if place = initTemplate then
    match content with
    | .packageInit header classes => some (.ok (textOf (packageInitLines header classes)))
    | _ => some (.error .undefinedName)
  else none

/-! ### Templates of the user's own -/

/-- A piece of a template. -/
inductive Piece where
  | text (c : Char)
  | value (name : String)

/-- A name between the double braces. -/
def valueName? (cs : List Char) : Option String :=
  let name := stripChars cs
  match name with
  | [] => none
  | c :: _ =>
    if !c.isDigit && name.all (fun c => c.isAlphanum || c = '_') then some (String.ofList name)
    else none

/-- The characters up to a pair of characters, and what follows the pair. -/
def splitAtPair? (a b : Char) : List Char → Option (List Char × List Char)
  | c :: d :: rest =>
    if c = a && d = b then some ([], rest)
    else (splitAtPair? a b (d :: rest)).map fun found => (c :: found.1, found.2)
  | _ => none

/-- The pieces of a template. A comment takes the line end behind it along. -/
def pieces : (fuel : Nat) → List Char → Except TemplateFault (List Piece)
  | 0, _ => .ok []
  | _ + 1, [] => .ok []
  | fuel + 1, '\x7b' :: '\x7b' :: cs =>
    match splitAtPair? '\x7d' '\x7d' cs with
    | none => .error .malformed
    | some (inner, rest) =>
      match valueName? inner with
      | none => .error .malformed
      | some name => (pieces fuel rest).map (.value name :: ·)
  | fuel + 1, '\x7b' :: '#' :: cs =>
    match splitAtPair? '#' '\x7d' cs with
    | none => .error .malformed
    | some (_, '\n' :: rest) => pieces fuel rest
    | some (_, rest) => pieces fuel rest
  | _ + 1, '\x7b' :: '%' :: _ => .error .malformed
  | fuel + 1, c :: cs => (pieces fuel cs).map (.text c :: ·)

/-- The text of a piece. -/
def Piece.render (values : List (String × String)) : Piece → Except TemplateFault String
  | .text c => .ok (String.singleton c)
  | .value name =>
    match values.lookup name with
    | some found => .ok found
    | none => .error .undefinedName

/-- Renders the text of a template. -/
def renderText (source : String) (content : Content) : Except TemplateFault String := do
  let cs := unixNewlines source.toList
  let parts ← (← pieces (cs.length + 1) cs).mapM (Piece.render content.values)
  return parts.foldl (· ++ ·) ""

/-- Templates of the user's own, by place: a text, or nothing for a file that holds none. -/
abbrev Templates := List (String × Option String)

/-- Renders the template at a place, if there is one. -/
def Templates.renderAt? (own : Templates) (place : String) (content : Content) :
    Option (Except TemplateFault String) :=
  match own.lookup place with
  | some (some source) => some (renderText source content)
  | some none => some (.error .undecodable)
  | none => renderBuiltIn? place content

/-- The text that names a template. -/
def templateName (name : Name) : Except TemplateFault String :=
  match name.text? with
  | some text => .ok text
  | none => .error (.badName (if name.isComposite then .compositeName else .notText))

/-- Renders the template of a given name. -/
def Templates.render (own : Templates) (name : Name) (content : Content) :
    Except TemplateFault String := do
  let name ← templateName name
  ((templatePlace? name).bind (own.renderAt? · content)).getD (.error (.notFound name))

end EngineBindings.Package
